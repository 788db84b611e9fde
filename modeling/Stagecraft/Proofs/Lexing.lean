import Mathlib
import Stagecraft.Ron.Parse
import Stagecraft.Ron.Write

/-!
# Written tokens are read back

A text in quotes, a word, a number and each of the marks are read as what was written, whatever
follows them, as long as nothing follows a word or number that could be a part of it.
-/

namespace Stagecraft

/-! ## Digits -/

/-- The value of a digit is the number that it stands for. -/
theorem Text.hexDigit?_digitChar {digit : Nat} (small : digit < 16) :
    hexDigit? digit.digitChar = some digit := by
  have each : ∀ digit : Fin 16, hexDigit? digit.val.digitChar = some digit.val := by decide
  exact each ⟨digit, small⟩

/-- Whoever reads each digit reads the number that the digits are of. -/
theorem Text.foldlM_toDigits {base : Nat} {step : Nat → Char → Option Nat} (large : 1 < base)
    (reads : ∀ value digit, digit < base →
      step value digit.digitChar = some (base * value + digit)) (n : Nat) :
    (Nat.toDigits base n).foldlM step 0 = some n := by
  induction n using Nat.strongRecOn with
  | ind n ih =>
    by_cases single : n < base
    · rw [Nat.toDigits_of_lt_base single]
      simp [reads 0 n single]
    · have smaller : n / base < n := Nat.div_lt_self (by omega) large
      have last : n % base < base := Nat.mod_lt n (by omega)
      rw [Nat.toDigits_of_base_le large (by omega), List.foldlM_append, ih _ smaller]
      simp [reads _ _ last, Nat.div_add_mod]

/-- The hexadecimal digits of a number write it. -/
theorem Text.hexValue?_toDigits (n : Nat) : hexValue? (Nat.toDigits 16 n) = some n :=
  foldlM_toDigits (by decide) (fun value digit small => by simp [hexDigit?_digitChar small]) n

/-- A digit is no other character than one of sixteen. -/
theorem Text.mem_hexDigits {n : Nat} {c : Char} (member : c ∈ Nat.toDigits 16 n) :
    ∃ digit < 16, c = digit.digitChar := by
  induction n using Nat.strongRecOn with
  | ind n ih =>
    by_cases single : n < 16
    · rw [Nat.toDigits_of_lt_base single] at member
      exact ⟨n, single, List.mem_singleton.mp member⟩
    · rw [Nat.toDigits_of_base_le (by decide) (by omega)] at member
      rcases List.mem_append.mp member with earlier | last
      · exact ih _ (Nat.div_lt_self (by omega) (by decide)) earlier
      · exact ⟨n % 16, Nat.mod_lt n (by decide), List.mem_singleton.mp last⟩

namespace Ron

open Text

/-! ## Quoted texts -/

/-- A code point between braces is read back. -/
theorem readEscape_codePoint (c : Char) (rest : List Char) :
    readEscape byteInText
        ('u' :: '\x7b' :: (Nat.toDigits 16 c.toNat ++ '\x7d' :: rest)) = some (c, rest) := by
  have few : (Nat.toDigits 16 c.toNat).length ≤ 6 := by
    rw [Nat.length_toDigits_le_iff (by decide) (by decide)]
    have := c.valid
    simp only [UInt32.isValidChar, Nat.isValidChar] at this
    have same : c.val.toNat = c.toNat := rfl
    omega
  have noBrace : ∀ digit ∈ Nat.toDigits 16 c.toNat, (decide (digit ≠ '\x7d')) = true := by
    intro digit member
    obtain ⟨value, small, rfl⟩ := mem_hexDigits member
    simp [Nat.digitChar_ne]
  have digits : ((Nat.toDigits 16 c.toNat ++ '\x7d' :: rest).take 6).takeWhile (· ≠ '\x7d') =
      Nat.toDigits 16 c.toNat := by
    rw [List.take_append, List.take_of_length_le few, List.takeWhile_append_of_pos noBrace]
    cases 6 - (Nat.toDigits 16 c.toNat).length <;> simp
  simp only [readEscape, digits, List.drop_left, List.isEmpty_iff, Nat.toDigits_ne_nil, if_false,
    hexValue?_toDigits, Option.bind_some]
  have valid : c.toNat.isValidChar := c.valid
  simp [valid]

/-- A character in quotes is read back. -/
theorem readQuoted_escapeChar (fuel : Nat) (c : Char) (rest : List Char) :
    readQuoted byteInText (fuel + 1) (escapeChar true c ++ rest) =
      (readQuoted byteInText fuel rest).map fun (text, rest) => (c :: text, rest) := by
  unfold escapeChar
  split
  · next same => simp [same, readQuoted, readEscape]
  split
  · next same => simp [same, readQuoted, readEscape]
  split
  · next same => simp [same, readQuoted, readEscape]
  split
  · next same => simp [same, readQuoted, readEscape]
  split
  · next same => simp [same, readQuoted, readEscape]
  split
  · next same => simp [same, readQuoted, readEscape]
  split
  · next same => simp [same, readQuoted, readEscape]
  split
  · simp [readQuoted, readEscape_codePoint]
  · next backslash quote _ _ =>
    rw [List.singleton_append, readQuoted]
    · exact quote
    · exact fun isBackslash => absurd isBackslash backslash

/-- A text in quotes is read back. -/
theorem readQuoted_escaped {fuel : Nat} (chars rest : List Char) (enough : chars.length < fuel) :
    readQuoted byteInText fuel (chars.flatMap (escapeChar true) ++ '"' :: rest) =
      .ok (chars, rest) := by
  induction chars generalizing fuel with
  | nil =>
    obtain ⟨fuel, rfl⟩ := Nat.exists_eq_add_of_lt enough
    simp [readQuoted]
  | cons c chars ih =>
    obtain ⟨fuel, rfl⟩ : ∃ more, fuel = more + 1 := ⟨fuel - 1, by omega⟩
    rw [List.flatMap_cons, List.append_assoc, readQuoted_escapeChar,
      ih (by simp only [List.length_cons] at enough; omega)]
    rfl

/-! ## Words and numbers -/

/-- Whether a text is a word of letters, digits and underscores. -/
def isWord (text : String) : Bool :=
  match text.toList with
  | [] => false
  | c :: rest => c.isAlpha && rest.all fun c => c.isAlphanum || c == '_'

/-- Whether a text is read as one number, or as what could be one. -/
def isLexeme (text : String) : Bool :=
  match text.toList with
  | [] => false
  | c :: rest => isNumberStart c && rest.all isNumberChar

/-- Whether a character is one of those that the writer sets after words and numbers. -/
def isEnding (c : Char) : Bool :=
  c == ',' || c == ':' || c == '(' || c == ')' || c == ']' || c == '\x7d'

/-- What follows is empty or begins with a character that ends words and numbers. -/
def Ends (rest : List Char) : Prop := ∀ c ∈ rest.head?, isEnding c = true

theorem isEnding_cases {c : Char} (ending : isEnding c = true) :
    c = ',' ∨ c = ':' ∨ c = '(' ∨ c = ')' ∨ c = ']' ∨ c = '\x7d' := by
  simpa [isEnding, or_assoc] using ending

theorem isWordChar_of_isEnding {c : Char} (ending : isEnding c = true) :
    isWordChar c = false := by
  rcases isEnding_cases ending with rfl | rfl | rfl | rfl | rfl | rfl <;> decide

theorem isNumberChar_of_isEnding {c : Char} (ending : isEnding c = true) :
    isNumberChar c = false := by
  rcases isEnding_cases ending with rfl | rfl | rfl | rfl | rfl | rfl <;> decide

/-- Characters of one kind are read up to what follows them. -/
theorem readWhile_append {p : Char → Bool} {chars rest : List Char} (all : ∀ c ∈ chars, p c = true)
    (stops : ∀ c ∈ rest.head?, p c = false) :
    readWhile p (chars ++ rest) = (String.ofList chars, rest) := by
  unfold readWhile
  rw [List.takeWhile_append_of_pos all, List.dropWhile_append_of_pos all]
  cases rest with
  | nil => simp
  | cons c rest => simp [stops c rfl]

/-- A character that comes after characters of a word is one of a word or ends it. -/
theorem isWordChar_or_isEnding {word rest before after : List Char} {c : Char}
    (all : ∀ c ∈ word, isWordChar c = true) (ends : Ends rest)
    (inWord : ∀ c ∈ before, isWordChar c = true) (same : word ++ rest = before ++ c :: after) :
    isWordChar c = true ∨ isEnding c = true := by
  induction word generalizing before with
  | nil =>
    cases before with
    | nil => exact .inr (ends c (by rw [show rest = c :: after from same]; rfl))
    | cons first before =>
      have ending := ends first (by rw [show rest = first :: (before ++ c :: after) from same]; rfl)
      have inside := inWord first (List.mem_cons_self ..)
      rw [isWordChar_of_isEnding ending] at inside
      cases inside
  | cons first word ih =>
    cases before with
    | nil =>
      obtain ⟨rfl, -⟩ := List.cons.inj same
      exact .inl (all _ (List.mem_cons_self ..))
    | cons other before =>
      have sameRest : word ++ rest = before ++ c :: after := (List.cons.inj same).2
      exact ih (fun c member => all c (List.mem_cons_of_mem _ member))
        (fun c member => inWord c (List.mem_cons_of_mem _ member)) sameRest

/-- A word begins and goes on with the characters of words. -/
theorem exists_toList_eq_of_isWord {text : String} (word : isWord text = true) :
    ∃ c more, text.toList = c :: more ∧ c.isAlpha = true ∧ isWordStart c = true ∧
      ∀ d ∈ more, isWordChar d = true := by
  unfold isWord at word
  split at word
  · cases word
  next c more spelled =>
  simp only [Bool.and_eq_true, List.all_eq_true] at word
  refine ⟨c, more, spelled, word.1, by simp [isWordStart, word.1], fun d member => ?_⟩
  have kind := word.2 d member
  simp only [Char.isAlphanum, Bool.or_eq_true] at kind
  rcases kind with (letter | digit) | underscore
  · simp [isWordChar, isWordStart, letter]
  · simp [isWordChar, digit]
  · simp [isWordChar, isWordStart, underscore]

/-- A word is read up to what ends it. -/
theorem readName?_word {text : String} {rest : List Char} (word : isWord text = true)
    (ends : Ends rest) : readName? (text.toList ++ rest) = some (.plain text, rest) := by
  obtain ⟨c, more, spelled, -, starts, all⟩ := exists_toList_eq_of_isWord word
  have noOther : ∀ (before after : List Char) (other : Char),
      (before.all isWordChar && !isWordChar other && !isEnding other) = true →
        more ++ rest ≠ before ++ other :: after := by
    intro before after other isOther same
    simp only [Bool.and_eq_true, Bool.not_eq_true', List.all_eq_true] at isOther
    obtain ⟨⟨inWord, noChar⟩, noEnding⟩ := isOther
    rcases isWordChar_or_isEnding all ends inWord same with isChar | ending
    · rw [noChar] at isChar
      cases isChar
    · rw [noEnding] at ending
      cases ending
  rw [spelled, List.cons_append]
  unfold readName?
  split
  · next same => exact absurd (List.cons.inj same).2 (noOther [] _ '\x27' (by decide))
  · next same => exact absurd (List.cons.inj same).2 (noOther [] _ '"' (by decide))
  · next same => exact absurd (List.cons.inj same).2 (noOther ['r'] _ '"' (by decide))
  · next same => exact absurd (List.cons.inj same).2 (noOther ['r'] _ '#' (by decide))
  · next same => exact absurd (List.cons.inj same).2 (noOther [] _ '"' (by decide))
  · next same => exact absurd (List.cons.inj same).2 (noOther [] _ '#' (by decide))
  · next first others _ _ _ _ _ _ same =>
    obtain ⟨rfl, rfl⟩ := List.cons.inj same
    have inWord : ∀ d ∈ c :: more, isWordChar d = true := by
      intro d member
      rcases List.mem_cons.mp member with rfl | member
      · simp [isWordChar, starts]
      · exact all d member
    rw [if_pos starts, ← List.cons_append,
      readWhile_append inWord fun d member => isWordChar_of_isEnding (ends d member), ← spelled]
    simp
  · next same => cases same

/-! ## Tokens -/

/-- A word is a token. -/
theorem readToken_word {text : String} {rest : List Char} (bound : Nat)
    (word : isWord text = true) (ends : Ends rest) :
    readToken bound (text.toList ++ rest) = some (.word (.plain text), rest) := by
  simp only [readToken, readName?_word word ends]

/-- The characters with which a number begins. -/
theorem mem_of_isNumberStart {c : Char} (starts : isNumberStart c = true) :
    c ∈ "0123456789+-.".toList := by
  have small : c.toNat < 128 := by
    simp only [isNumberStart, Char.isDigit, Bool.or_eq_true, Bool.and_eq_true, decide_eq_true_eq,
      beq_iff_eq] at starts
    rcases starts with ((⟨-, digit⟩ | rfl) | rfl) | rfl
    · have : c.val.toNat ≤ 57 := UInt32.le_iff_toNat_le.mp digit
      exact Nat.lt_of_le_of_lt this (by decide)
    all_goals decide
  have each : ∀ n : Fin 128, isNumberStart (Char.ofNat n) = true →
      Char.ofNat n ∈ "0123456789+-.".toList := by decide
  simpa using each ⟨c.toNat, small⟩ (by simpa using starts)

/-- A number is read from its first character on. -/
theorem readToken_numberStart (bound : Nat) {c : Char} (rest : List Char)
    (starts : isNumberStart c = true) :
    readToken bound (c :: rest) =
      some (.number (readWhile isNumberChar (c :: rest)).1,
        (readWhile isNumberChar (c :: rest)).2) := by
  have member : c ∈ ['0', '1', '2', '3', '4', '5', '6', '7', '8', '9', '+', '-', '.'] :=
    mem_of_isNumberStart starts
  simp only [List.mem_cons, List.not_mem_nil, or_false] at member
  rcases member with rfl | rfl | rfl | rfl | rfl | rfl | rfl | rfl | rfl | rfl | rfl | rfl | rfl <;>
    rfl

/-- A number is a token. -/
theorem readToken_number {text : String} {rest : List Char} (bound : Nat)
    (isNumber : isLexeme text = true) (ends : Ends rest) :
    readToken bound (text.toList ++ rest) = some (.number text, rest) := by
  unfold isLexeme at isNumber
  split at isNumber
  · cases isNumber
  next c more spelled =>
  simp only [Bool.and_eq_true, List.all_eq_true] at isNumber
  obtain ⟨starts, all⟩ := isNumber
  have inNumber : ∀ d ∈ c :: more, isNumberChar d = true := by
    intro d member
    rcases List.mem_cons.mp member with rfl | member
    · simp [isNumberChar, starts]
    · exact all d member
  rw [spelled, List.cons_append, readToken_numberStart bound _ starts, ← List.cons_append,
    readWhile_append inNumber fun d member => isNumberChar_of_isEnding (ends d member), ← spelled]
  simp

/-- A text in quotes is a token. -/
theorem readToken_text (bound : Nat) (text : String) (rest : List Char)
    (enough : text.length < bound) :
    readToken bound ((quoted true text).toList ++ rest) = some (.text text, rest) := by
  have spelled : (quoted true text).toList ++ rest =
      '"' :: (text.toList.flatMap (escapeChar true) ++ '"' :: rest) := by
    simp [quoted]
  rw [spelled]
  have noName : ∀ chars, readName? ('"' :: chars) = none := fun chars => rfl
  simp only [readToken, noName, readText?, readQuoted_escaped text.toList rest enough]
  simp [Except.toOption]

/-- The marks of the notation, parentheses apart. -/
theorem readToken_mark (bound : Nat) {c : Char} (rest : List Char)
    (isMark : c = ',' ∨ c = ':' ∨ c = ')' ∨ c = '[' ∨ c = ']' ∨ c = '\x7b' ∨ c = '\x7d') :
    readToken bound (c :: rest) = some (.mark c, rest) := by
  rcases isMark with rfl | rfl | rfl | rfl | rfl | rfl | rfl <;> rfl

/-- An opening parenthesis with something after it is a token. -/
theorem readToken_opening (bound : Nat) {rest : List Char} (filled : rest.head? ≠ some ')') :
    readToken bound ('(' :: rest) = some (.opening rest bound, rest) := by
  have noName : readName? ('(' :: rest) = none := rfl
  have noText : readText? bound ('(' :: rest) = none := rfl
  have noRow : readRow? bound ('(' :: rest) = none := rfl
  simp only [readToken, noName, noText, noRow]
  split
  · next isSome => cases isSome
  · next isSome => cases isSome
  · next same => cases same
  · next same => cases same
  · next same =>
    cases same
    exact absurd rfl filled
  · next same =>
    cases same
    rfl
  · next elsewhere _ _ same =>
    cases same
    exact absurd rfl elsewhere
  · next same => cases same

/-- Nothing is skipped before a character that begins neither a blank nor a comment. -/
theorem skipBlanks_cons (fuel : Nat) {c : Char} (chars : List Char) (noSpace : ¬ isSpace c)
    (noSlash : c ≠ '/') : skipBlanks (fuel + 1) (c :: chars) = some (c :: chars) := by
  have kept : (c :: chars).dropWhile isSpace = c :: chars := List.dropWhile_cons_of_neg noSpace
  unfold skipBlanks
  rw [kept]
  split
  · next same => exact absurd (List.cons.inj same).1 noSlash
  · next same => exact absurd (List.cons.inj same).1 noSlash
  · next same => exact absurd (List.cons.inj same).1 noSlash
  · rfl

/-- A token without the text in which its outline is looked for. -/
def Token.bare : Token → Token
  | .opening _ _ => .opening [] 0
  | token => token

/-- Characters are cut into the given tokens, as far as those are bare. -/
def Cut (chars : List Char) (tokens : List Token) : Prop :=
  ∀ fuel, chars.length < fuel →
    ∃ cut, tokensFrom fuel chars = some cut ∧ cut.map Token.bare = tokens

namespace Cut

/-- Nothing is cut into no tokens. -/
theorem nil : Cut [] [] := by
  intro fuel enough
  obtain ⟨fuel, rfl⟩ : ∃ more, fuel = more + 1 := ⟨fuel - 1, by omega⟩
  exact ⟨[], rfl, rfl⟩

variable {rest : List Char} {tokens : List Token}

/-- A token is cut off before others. -/
theorem cons {chars : List Char} {token : Token} (first : ∀ c ∈ chars.head?, ¬ isSpace c ∧ c ≠ '/')
    (shorter : rest.length < chars.length)
    (read : ∀ bound, chars.length ≤ bound →
      ∃ read, readToken bound chars = some (read, rest) ∧ read.bare = token)
    (others : Cut rest tokens) : Cut chars (token :: tokens) := by
  intro fuel enough
  obtain ⟨fuel, rfl⟩ : ∃ more, fuel = more + 1 := ⟨fuel - 1, by omega⟩
  obtain ⟨found, isFound, same⟩ := read (fuel + 1) (by omega)
  obtain ⟨cut, isCut, sameCut⟩ := others fuel (by omega)
  refine ⟨found :: cut, ?_, by simp [same, sameCut]⟩
  cases chars with
  | nil => cases shorter
  | cons c chars =>
    obtain ⟨noSpace, noSlash⟩ := first c rfl
    simp only [tokensFrom, skipBlanks_cons fuel chars noSpace noSlash, Option.bind_eq_bind,
      Option.bind_some, isFound, isCut]

/-- A word is cut off. -/
theorem word {text : String} (isWord : isWord text = true) (ends : Ends rest)
    (others : Cut rest tokens) : Cut (text.toList ++ rest) (.word (.plain text) :: tokens) := by
  obtain ⟨c, more, spelled, letter, -⟩ := exists_toList_eq_of_isWord isWord
  refine cons ?_ ?_ (fun bound _ => ⟨_, readToken_word bound isWord ends, rfl⟩) others
  · intro first isFirst
    rw [spelled] at isFirst
    obtain rfl : c = first := by simpa using isFirst
    constructor
    · intro space
      have bounds : 65 ≤ c.toNat ∧ c.toNat ≤ 122 := by
        simp only [Char.isAlpha, Char.isUpper, Char.isLower, Bool.or_eq_true, Bool.and_eq_true,
          decide_eq_true_eq, ge_iff_le, UInt32.le_iff_toNat_le] at letter
        have same : c.val.toNat = c.toNat := rfl
        rcases letter with ⟨low, high⟩ | ⟨low, high⟩
        · exact ⟨by simpa [same] using low, by simp [same] at high; omega⟩
        · exact ⟨by simp [same] at low; omega, by simpa [same] using high⟩
      have blank : c ≠ ' ' := by
        rintro rfl
        simp at bounds
      simp [isSpace, blank] at space
      omega
    · rintro rfl
      simp at letter
  · rw [spelled]
    simp only [List.length_append, List.length_cons]
    omega

/-- A number is cut off. -/
theorem number {text : String} (isNumber : isLexeme text = true) (ends : Ends rest)
    (others : Cut rest tokens) : Cut (text.toList ++ rest) (.number text :: tokens) := by
  have read : ∀ bound, readToken bound (text.toList ++ rest) = some (.number text, rest) :=
    fun bound => readToken_number bound isNumber ends
  unfold isLexeme at isNumber
  split at isNumber
  · cases isNumber
  next c more spelled =>
  simp only [Bool.and_eq_true] at isNumber
  refine cons ?_ ?_ (fun bound _ => ⟨_, read bound, rfl⟩) others
  · intro first isFirst
    rw [spelled] at isFirst
    obtain rfl : c = first := by simpa using isFirst
    have each : "0123456789+-.".toList.all (fun c => ¬ isSpace c ∧ c ≠ '/') = true := by decide
    exact of_decide_eq_true (List.all_eq_true.mp each c (mem_of_isNumberStart isNumber.1))
  · rw [spelled]
    simp only [List.length_append, List.length_cons]
    omega

theorem escapeChar_ne_nil (c : Char) : escapeChar true c ≠ [] := by
  unfold escapeChar
  repeat' split
  all_goals simp

/-- A text in quotes is cut off. -/
theorem text (text : String) (others : Cut rest tokens) :
    Cut ((quoted true text).toList ++ rest) (.text text :: tokens) := by
  have longer : ∀ chars : List Char,
      chars.length ≤ (chars.flatMap (escapeChar true)).length := by
    intro chars
    induction chars with
    | nil => exact Nat.le_refl 0
    | cons c chars ih =>
      have filled := List.length_pos_iff.mpr (escapeChar_ne_nil c)
      simp only [List.flatMap_cons, List.length_append, List.length_cons]
      omega
  have enough := longer text.toList
  rw [String.length_toList] at enough
  have total : ((quoted true text).toList ++ rest).length =
      (text.toList.flatMap (escapeChar true)).length + rest.length + 2 := by
    simp [quoted, -List.length_flatMap]
    omega
  refine cons ?_ (by omega)
    (fun bound large => ⟨_, readToken_text bound text rest (by omega), rfl⟩) others
  intro first isFirst
  obtain rfl : '"' = first := by simpa [quoted] using isFirst
  decide

/-- A mark is cut off. -/
theorem mark {c : Char}
    (isMark : c = ',' ∨ c = ':' ∨ c = ')' ∨ c = '[' ∨ c = ']' ∨ c = '\x7b' ∨ c = '\x7d')
    (others : Cut rest tokens) : Cut (c :: rest) (.mark c :: tokens) := by
  refine cons ?_ (Nat.lt_succ_self _) (fun bound _ => ⟨_, readToken_mark bound rest isMark, rfl⟩)
    others
  intro first isFirst
  obtain rfl : c = first := by simpa using isFirst
  rcases isMark with rfl | rfl | rfl | rfl | rfl | rfl | rfl <;> decide

/-- An opening parenthesis is cut off. -/
theorem opening (filled : rest.head? ≠ some ')') (others : Cut rest tokens) :
    Cut ('(' :: rest) (.opening [] 0 :: tokens) := by
  refine cons ?_ (Nat.lt_succ_self _) (fun bound _ => ⟨_, readToken_opening bound filled, rfl⟩)
    others
  intro first isFirst
  obtain rfl : '(' = first := by simpa using isFirst
  decide

/-- Characters that begin with a closing parenthesis are cut into tokens that do. -/
theorem head?_ne {chars : List Char} {token : Token} (cut : Cut chars (token :: tokens))
    (other : token ≠ .mark ')') : chars.head? ≠ some ')' := by
  intro isClosing
  cases chars with
  | nil => cases isClosing
  | cons c rest =>
    obtain rfl : c = ')' := by simpa using isClosing
    obtain ⟨found, isFound, same⟩ := cut _ (Nat.lt_succ_self _)
    simp only [tokensFrom, skipBlanks_cons _ rest (by decide : ¬ isSpace ')') (by decide),
      readToken_mark _ rest (.inr (.inr (.inl rfl))), Option.bind_eq_bind, Option.bind_some,
      Option.bind_eq_some_iff, Option.some.injEq] at isFound
    obtain ⟨later, -, rfl⟩ := isFound
    exact other (List.cons.inj same).1.symm

end Cut

end Ron

end Stagecraft
