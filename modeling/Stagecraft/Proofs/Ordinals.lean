import Mathlib.Data.List.Induction
import Stagecraft.Console.Command
import Stagecraft.Proofs.Words

/-!
# Numbers that are typed

What is shown under a number is named by that number in a command, and the command counts from zero.
A word gives an index only if it writes a number from one on that is small enough; nothing else, and
zero neither, is taken for one.
-/

namespace Stagecraft

namespace Command

/-! ## Numerals -/

/-- Whether a word writes a number: its digits, after any zeros, and maybe a plus sign before. -/
def Writes (word : String) (n : Nat) : Prop :=
  ∃ zeros, word.toList = List.replicate zeros '0' ++ Nat.toDigits 10 n ∨
    word.toList = '+' :: (List.replicate zeros '0' ++ Nat.toDigits 10 n)

theorem digitsValue_eq (start : Nat) (digits : List Char) :
    Decimal.digitsValue start digits = Nat.ofDigitChars 10 digits start := rfl

/-- Zeros in front do not change the value of digits. -/
theorem digitsValue_padded (zeros n : Nat) :
    Decimal.digitsValue 0 (List.replicate zeros '0' ++ Nat.toDigits 10 n) = n := by
  have nothing : Nat.ofDigitChars 10 (List.replicate zeros '0') 0 = 0 := by
    induction zeros with
    | zero => rfl
    | succ zeros ih => exact ih
  rw [digitsValue_eq, Nat.ofDigitChars_append, nothing,
    Nat.ofDigitChars_toDigits (by decide) (by decide)]

/-- A digit is that of its value. -/
theorem digitChar_of_isDigit {c : Char} (digit : c.isDigit = true) :
    c.toNat - '0'.toNat < 10 ∧ (c.toNat - '0'.toNat).digitChar = c := by
  have least : '0'.toNat = 48 := rfl
  have between : 48 ≤ c.toNat ∧ c.toNat ≤ 57 := by
    simpa [Char.isDigit, UInt32.le_iff_toNat_le] using digit
  have small : c.toNat - '0'.toNat < 10 := by omega
  refine ⟨small, Char.toNat_inj.mp ?_⟩
  rw [Nat.toNat_digitChar_of_lt_ten small]
  omega

/-- Digits are those of their value, after some zeros. -/
theorem exists_padded {digits : List Char} (filled : digits ≠ [])
    (all : ∀ c ∈ digits, c.isDigit = true) :
    ∃ zeros, digits = List.replicate zeros '0' ++
      Nat.toDigits 10 (Decimal.digitsValue 0 digits) := by
  induction digits using List.reverseRecOn with
  | nil => exact absurd rfl filled
  | append_singleton before last ih =>
    obtain ⟨small, isLast⟩ := digitChar_of_isDigit (all last (by simp))
    have single : Nat.toDigits 10 (last.toNat - '0'.toNat) = [last] := by
      rw [Nat.toDigits_of_lt_base small, isLast]
    have total : Decimal.digitsValue 0 (before ++ [last]) =
        10 * Decimal.digitsValue 0 before + (last.toNat - '0'.toNat) := by
      simp [Decimal.digitsValue]
    rw [total]
    by_cases alone : before = []
    · subst alone
      have worth : 10 * Decimal.digitsValue 0 [] + (last.toNat - '0'.toNat) =
          last.toNat - '0'.toNat := Nat.zero_add _
      exact ⟨0, by rw [worth, single]; rfl⟩
    obtain ⟨zeros, same⟩ := ih alone fun c member => all c (by simp [member])
    rcases Nat.eq_zero_or_pos (Decimal.digitsValue 0 before) with worthless | positive
    · refine ⟨zeros + 1, ?_⟩
      rw [worthless] at same ⊢
      have zero : Nat.toDigits 10 0 = ['0'] := rfl
      rw [Nat.mul_zero, Nat.zero_add, single, same, zero, List.replicate_succ']
    · refine ⟨zeros, ?_⟩
      rw [← Nat.toDigits_append_toDigits (by decide) positive small, single, ← List.append_assoc,
        ← same]

theorem isDigit_of_mem_padded {zeros n : Nat} {c : Char}
    (member : c ∈ List.replicate zeros '0' ++ Nat.toDigits 10 n) : c.isDigit = true := by
  rcases List.mem_append.mp member with zero | digit
  · rw [List.eq_of_mem_replicate zero]
    rfl
  · exact Nat.isDigit_of_mem_toDigits (by decide) (by decide) digit

/-- Digits do not begin with a sign. -/
theorem signed_ne_padded (rest : List Char) (zeros n : Nat) :
    '+' :: rest ≠ List.replicate zeros '0' ++ Nat.toDigits 10 n := by
  intro same
  have digit : '+'.isDigit = true := isDigit_of_mem_padded (same ▸ List.mem_cons_self ..)
  cases digit

/-- Digits are read if they write a number that is small enough. -/
theorem readDigits_eq_some_iff (digits : List Char) (n : Nat) :
    (if digits.isEmpty ∨ ¬ digits.all Char.isDigit ∨
        ordinalBound ≤ Decimal.digitsValue 0 digits then none
      else some (Decimal.digitsValue 0 digits)) = some n ↔
      (∃ zeros, digits = List.replicate zeros '0' ++ Nat.toDigits 10 n) ∧ n < ordinalBound := by
  constructor
  · intro read
    split at read
    · cases read
    next right =>
    simp only [not_or, List.isEmpty_iff, Decidable.not_not, List.all_eq_true, Nat.not_le] at right
    obtain ⟨filled, all, small⟩ := right
    obtain rfl := Option.some.inj read
    exact ⟨exists_padded filled all, small⟩
  · rintro ⟨⟨zeros, rfl⟩, small⟩
    have filled : List.replicate zeros '0' ++ Nat.toDigits 10 n ≠ [] := by
      simp [Nat.toDigits_ne_nil]
    have all : (List.replicate zeros '0' ++ Nat.toDigits 10 n).all Char.isDigit = true :=
      List.all_eq_true.mpr fun c => isDigit_of_mem_padded
    rw [digitsValue_padded, if_neg]
    simp only [List.isEmpty_iff, filled, all, false_or, not_true_eq_false]
    omega

/-- The numbers that are read are those that are written and small enough. -/
theorem readCount?_eq_some_iff (word : String) (n : Nat) :
    readCount? word.toList = some n ↔ Writes word n ∧ n < ordinalBound := by
  unfold readCount? Writes
  split
  · next rest spelled =>
    rw [readDigits_eq_some_iff]
    simp [spelled, signed_ne_padded]
  · next plain =>
    have noSign : ∀ rest, word.toList ≠ '+' :: rest := plain
    rw [readDigits_eq_some_iff]
    simp [noSign]

/-- An index is read from the number that is one more. -/
theorem readIndex?_eq_some_iff (word : String) (index : Nat) :
    readIndex? word = some index ↔ Writes word (index + 1) ∧ index + 1 < ordinalBound := by
  rw [← readCount?_eq_some_iff]
  unfold readIndex?
  rcases readCount? word.toList with _ | _ | below <;> simp

/-- A word writes one number at most. -/
theorem Writes.unique {word : String} {m n : Nat} (first : Writes word m)
    (second : Writes word n) : m = n := by
  have sameValue : ∀ {zeros zeros' : Nat},
      List.replicate zeros '0' ++ Nat.toDigits 10 m =
        List.replicate zeros' '0' ++ Nat.toDigits 10 n → m = n := by
    intro zeros zeros' same
    rw [← digitsValue_padded zeros m, same, digitsValue_padded]
  obtain ⟨zeros, plain | signed⟩ := first <;> obtain ⟨zeros', plain' | signed'⟩ := second
  · exact sameValue (plain.symm.trans plain')
  · exact absurd (signed'.symm.trans plain) (signed_ne_padded _ _ _)
  · exact absurd (signed.symm.trans plain') (signed_ne_padded _ _ _)
  · exact sameValue (List.cons.inj (signed.symm.trans signed')).2

theorem toList_toString (n : Nat) : (toString n).toList = Nat.toDigits 10 n := by
  rw [Nat.toString_eq_repr, Nat.toList_repr]

/-- A number is written by its digits. -/
theorem writes_toString (n : Nat) : Writes (toString n) n :=
  ⟨0, .inl (by simp)⟩

/-- Whether a word gives no index: it writes no number, or zero, or too large a number. -/
def GivesNoIndex (word : String) : Prop :=
  (∀ n, ¬ Writes word n) ∨ Writes word 0 ∨ ∃ n, ordinalBound ≤ n ∧ Writes word n

theorem GivesNoIndex.readIndex? {word : String} (useless : GivesNoIndex word) :
    readIndex? word = none := by
  refine Option.eq_none_iff_forall_ne_some.mpr fun index reads => ?_
  obtain ⟨writes, small⟩ := (readIndex?_eq_some_iff word index).mp reads
  rcases useless with nothing | zero | ⟨n, large, written⟩
  · exact nothing _ writes
  · cases zero.unique writes
  · obtain rfl := written.unique writes
    omega

/-! ## Commands with a number -/

/-- Which words give the command to cancel by an index. -/
theorem ofWords?_eq_cancel_iff (words : List String) (index : Nat) :
    ofWords? words = some (.cancel index) ↔
      ∃ word, words = ["cancel", word] ∧ readIndex? word = some index := by
  constructor
  · intro given
    unfold ofWords? at given
    split at given
    all_goals first
      | cases given
      | exact ⟨_, rfl, by simpa using given⟩
      | exact absurd given (by simp)
  · rintro ⟨word, rfl, reads⟩
    simp [ofWords?, reads]

/-- Which words give the command to choose by an index. -/
theorem ofWords?_eq_choose_iff (words : List String) (index : Nat) :
    ofWords? words = some (.choose index) ↔
      ∃ word, (words = ["choose", word] ∨ words = ["say", word]) ∧
        readIndex? word = some index := by
  constructor
  · intro given
    unfold ofWords? at given
    split at given
    all_goals first
      | cases given
      | exact ⟨_, .inl rfl, by simpa using given⟩
      | exact ⟨_, .inr rfl, by simpa using given⟩
      | exact absurd given (by simp)
  · rintro ⟨word, rfl | rfl, reads⟩
    all_goals simp [ofWords?, reads]

theorem parse_eq_iff {command : Command} (known : command ≠ .unknown) (line : String) :
    parse line = command ↔ ofWords? (Text.words line) = some command := by
  unfold parse
  cases ofWords? (Text.words line) with
  | none => simpa using known.symm
  | some given => simp

/-- The lines that cancel by an index are those that name the number that is one more. -/
theorem parse_eq_cancel_iff (line : String) (index : Nat) :
    parse line = .cancel index ↔ ∃ word, Text.words line = ["cancel", word] ∧
      Writes word (index + 1) ∧ index + 1 < ordinalBound := by
  rw [parse_eq_iff (nofun : Command.cancel index ≠ .unknown), ofWords?_eq_cancel_iff]
  simp only [readIndex?_eq_some_iff]

/-- The lines that choose by an index are those that name the number that is one more. -/
theorem parse_eq_choose_iff (line : String) (index : Nat) :
    parse line = .choose index ↔ ∃ word,
      (Text.words line = ["choose", word] ∨ Text.words line = ["say", word]) ∧
        Writes word (index + 1) ∧ index + 1 < ordinalBound := by
  rw [parse_eq_iff (nofun : Command.choose index ≠ .unknown), ofWords?_eq_choose_iff]
  simp only [readIndex?_eq_some_iff]

/-- Nothing can be cancelled or chosen by a word that gives no index. -/
theorem parse_eq_unknown {line verb word : String} (typed : Text.words line = [verb, word])
    (numbered : verb ∈ ["cancel", "choose", "say"]) (useless : GivesNoIndex word) :
    parse line = .unknown := by
  unfold parse
  rw [typed]
  simp only [List.mem_cons, List.not_mem_nil, or_false] at numbered
  rcases numbered with rfl | rfl | rfl
  all_goals
    simp only [ofWords?, useless.readIndex?]
    rfl

/-- A digit is no blank. -/
theorem isBlank_of_isDigit {c : Char} (digit : c.isDigit = true) : Text.isBlank c = false := by
  have between : 48 ≤ c.toNat ∧ c.toNat ≤ 57 := by
    simpa [Char.isDigit, UInt32.le_iff_toNat_le] using digit
  simp only [Text.isBlank, Bool.or_eq_false_iff, Bool.and_eq_false_iff, decide_eq_false_iff_not,
    beq_eq_false_iff_ne]
  omega

/-- The words of a command with a number. -/
theorem words_numbered (verb : String) (filled : verb ≠ "")
    (clean : verb.toList.any Text.isBlank = false) (n : Nat) :
    Text.words (verb ++ " " ++ toString n) = [verb, toString n] := by
  have noBlank : ∀ c ∈ verb.toList, Text.isBlank c = false := by simpa using clean
  refine Text.words_pair filled ?_ noBlank fun c member => ?_
  · intro empty
    have digits := toList_toString n
    rw [empty] at digits
    exact Nat.toDigits_ne_nil digits.symm
  · rw [toList_toString] at member
    exact isBlank_of_isDigit (Nat.isDigit_of_mem_toDigits (by decide) (by decide) member)

/-- Cancelling by a number means the index that is one less. -/
theorem parse_cancel {n : Nat} (positive : 0 < n) (small : n < ordinalBound) :
    parse s!"cancel {n}" = .cancel (n - 1) := by
  refine (parse_eq_cancel_iff _ _).mpr ⟨toString n, ?_, ?_⟩
  · exact words_numbered "cancel" (by decide) rfl n
  · rw [Nat.sub_add_cancel positive]
    exact ⟨writes_toString n, small⟩

/-- Choosing by a number means the index that is one less. -/
theorem parse_choose {n : Nat} (positive : 0 < n) (small : n < ordinalBound) :
    parse s!"choose {n}" = .choose (n - 1) := by
  refine (parse_eq_choose_iff _ _).mpr ⟨toString n, .inl ?_, ?_⟩
  · exact words_numbered "choose" (by decide) rfl n
  · rw [Nat.sub_add_cancel positive]
    exact ⟨writes_toString n, small⟩

end Command

end Stagecraft
