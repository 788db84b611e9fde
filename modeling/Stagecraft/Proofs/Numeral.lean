import Stagecraft.Proofs.Lexing
import Stagecraft.Ron.Decode

/-!
# Written numbers

The text of a number is one token, and the digits of a count that fits into its type are read as
that count.
-/

namespace Stagecraft

open Decimal

namespace Ron

/-! ## The tokens of numbers -/

/-- A text of characters with which a number may begin is a number, or could be one. -/
theorem isLexeme_of_starts {text : String} (filled : text ≠ "")
    (starts : ∀ c ∈ text.toList, isNumberStart c = true) : isLexeme text = true := by
  unfold isLexeme
  split
  · next empty => exact absurd (String.toList_eq_nil_iff.mp empty) filled
  next c rest spelled =>
  rw [spelled] at starts
  simp only [Bool.and_eq_true, List.all_eq_true]
  refine ⟨starts c (List.mem_cons_self ..), fun d member => ?_⟩
  simp [isNumberChar, starts d (List.mem_cons_of_mem _ member)]

theorem isNumberStart_of_isDigit {c : Char} (digit : c.isDigit = true) :
    isNumberStart c = true := by
  simp [isNumberStart, digit]

theorem digitText_ne_empty (n : Nat) : digitText n ≠ "" := by
  intro empty
  have := congrArg String.toList empty
  simp [digitText] at this

theorem isNumberStart_of_mem_digitText {n : Nat} {c : Char} (member : c ∈ (digitText n).toList) :
    isNumberStart c = true := by
  rw [digitText, String.toList_ofList] at member
  exact isNumberStart_of_isDigit (Nat.isDigit_of_mem_toDigits (by decide) (by decide) member)

/-- The digits of a natural number are a number. -/
theorem isLexeme_digitText (n : Nat) : isLexeme (digitText n) = true :=
  isLexeme_of_starts (digitText_ne_empty n) fun _ => isNumberStart_of_mem_digitText

theorem positional_ne_empty (s : Scientific) : s.positional ≠ "" := by
  unfold Scientific.positional
  split
  · split
    · exact digitText_ne_empty _
    · intro empty
      exact digitText_ne_empty _ (String.append_eq_empty_iff.mp empty).1
  · intro empty
    have first := (String.append_eq_empty_iff.mp empty).1
    have point := (String.append_eq_empty_iff.mp first).2
    exact absurd point (by decide)

/-- Digits, with a point or without one, are characters with which a number may begin. -/
theorem isNumberStart_of_mem_positional {s : Scientific} {c : Char}
    (member : c ∈ s.positional.toList) : isNumberStart c = true := by
  unfold Scientific.positional at member
  split at member
  · split at member
    · exact isNumberStart_of_mem_digitText member
    · rw [String.toList_append] at member
      rcases List.mem_append.mp member with digit | zero
      · exact isNumberStart_of_mem_digitText digit
      · simp only [String.toList_ofList] at zero
        rw [List.eq_of_mem_replicate zero]
        decide
  · next places _ =>
    have padded : ∀ count, ∀ c ∈ List.replicate count '0' ++ (digitText s.digits).toList,
        isNumberStart c = true := by
      intro count c member
      rcases List.mem_append.mp member with zero | digit
      · rw [List.eq_of_mem_replicate zero]
        decide
      · exact isNumberStart_of_mem_digitText digit
    simp only [String.toList_append, String.toList_ofList, List.mem_append] at member
    rcases member with (before | point) | after
    · exact padded _ c (List.mem_of_mem_take before)
    · obtain rfl : c = '.' := by simpa using point
      decide
    · exact padded _ c (List.mem_of_mem_drop after)

/-- The text of a decoded number is one of two words or a number. -/
theorem pointed_cases (f : Format) (b : Binary) :
    b.pointed f = "NaN" ∨ b.pointed f = "inf" ∨ isLexeme (b.pointed f) = true := by
  cases b with
  | nan negative =>
    cases negative
    · exact .inl rfl
    · exact .inr (.inr (show isLexeme "-NaN" = true by decide))
  | infinite negative =>
    cases negative
    · exact .inr (.inl rfl)
    · exact .inr (.inr (show isLexeme "-inf" = true by decide))
  | finite negative mantissa exponent =>
    have filled : (Binary.finite negative mantissa exponent).shortest f ≠ "" := by
      intro empty
      exact positional_ne_empty _ (String.append_eq_empty_iff.mp empty).2
    have starts : ∀ c ∈ ((Binary.finite negative mantissa exponent).shortest f).toList,
        isNumberStart c = true := by
      intro c member
      simp only [Binary.shortest, Binary.text, String.toList_append, List.mem_append] at member
      rcases member with sign | digit
      · cases negative
        · simp at sign
        · obtain rfl : c = '-' := by simpa using sign
          decide
      · exact isNumberStart_of_mem_positional digit
    refine .inr (.inr ?_)
    unfold Binary.pointed
    simp only
    split
    · exact isLexeme_of_starts filled starts
    · refine isLexeme_of_starts (fun empty => filled (String.append_eq_empty_iff.mp empty).1) ?_
      intro c member
      rw [String.toList_append] at member
      rcases List.mem_append.mp member with earlier | later
      · exact starts c earlier
      · have each : ".0".toList.all isNumberStart = true := by decide
        exact List.all_eq_true.mp each c later

/-- The text of a number is one of two words or a number. -/
theorem Number.text_cases (n : Number) :
    n.text = "NaN" ∨ n.text = "inf" ∨ isLexeme n.text = true := by
  cases n with
  | natural n => exact .inr (.inr (isLexeme_digitText n))
  | single x => exact pointed_cases .single _
  | double x => exact pointed_cases .double _

/-! ## Counts -/

/-- Decimal digits have no sign before them. -/
theorem splitSign_digits {chars : List Char} (digits : ∀ c ∈ chars, c.isDigit = true) :
    splitSign chars = (false, chars) := by
  unfold splitSign
  split
  · exact absurd (digits _ (List.mem_cons_self ..)) (by decide)
  · exact absurd (digits _ (List.mem_cons_self ..)) (by decide)
  · rfl

/-- Decimal digits have no type after them. -/
theorem splitType_digits {chars : List Char} (digits : ∀ c ∈ chars, c.isDigit = true) :
    splitType chars = (chars, none) := by
  have all : ∀ c ∈ chars, ((Text.hexDigit? c).isSome || c == '_') = true := by
    intro c member
    simp [Text.hexDigit?, digits c member]
  have nothing : chars.dropWhile (fun c => (Text.hexDigit? c).isSome || c == '_') = [] := by
    rw [← List.append_nil chars, List.dropWhile_append_of_pos all]
    rfl
  unfold splitType
  simp only [nothing]
  simp

/-- Decimal digits have no base before them. -/
theorem splitBase_digits {chars : List Char} (digits : ∀ c ∈ chars, c.isDigit = true) :
    splitBase chars = (10, chars) := by
  unfold splitBase
  split
  · exact absurd (digits 'x' (by simp)) (by decide)
  · exact absurd (digits 'o' (by simp)) (by decide)
  · exact absurd (digits 'b' (by simp)) (by decide)
  · rfl

/-- The decimal digits of a number write it. -/
theorem readDigits?_toDigits (n : Nat) : readDigits? 10 (Nat.toDigits 10 n) = some n := by
  have digits : ∀ c ∈ Nat.toDigits 10 n, c.isDigit = true :=
    fun c => Nat.isDigit_of_mem_toDigits (by decide) (by decide)
  have noUnderscore : ∀ c ∈ Nat.toDigits 10 n, c ≠ '_' := by
    rintro c member rfl
    exact absurd (digits _ member) (by decide)
  have first : (Nat.toDigits 10 n).head?.all (· = '_') = false := by
    cases spelled : Nat.toDigits 10 n with
    | nil => exact absurd spelled Nat.toDigits_ne_nil
    | cons c rest => simpa using noUnderscore c (by simp [spelled])
  have kept : (Nat.toDigits 10 n).filter (· ≠ '_') = Nat.toDigits 10 n :=
    List.filter_eq_self.mpr fun c member => by simpa using noUnderscore c member
  unfold readDigits?
  rw [first, kept]
  refine Text.foldlM_toDigits (by decide) (fun value digit small => ?_) n
  simp [Text.hexDigit?_digitChar (Nat.lt_trans small (by decide)), small]

/-- A natural number that is small enough is one of an unsigned type. -/
theorem IntegerType.holds_natCast (t : IntegerType) (unsigned : t.signed = false) {n : Nat}
    (fits : n < 2 ^ t.bits) : t.holds n = true := by
  have small : (n : Int) < 2 ^ t.bits := by exact_mod_cast fits
  simp [holds, unsigned, small]

/-- The digits of a natural number are read as that number, if its type holds it. -/
theorem readInteger?_digitText (t : IntegerType) {n : Nat} (holds : t.holds n = true) :
    readInteger? t (digitText n) = some ((n : Int), t) := by
  have digits : ∀ c ∈ Nat.toDigits 10 n, c.isDigit = true :=
    fun c => Nat.isDigit_of_mem_toDigits (by decide) (by decide)
  simp only [readInteger?, digitText, String.toList_ofList, splitSign_digits digits,
    splitType_digits digits, splitBase_digits digits, readDigits?_toDigits, Option.bind_eq_bind,
    Option.bind_some, Bool.false_eq_true, if_false, holds, if_true]

/-- A count is read back, if it fits into its type. -/
theorem readCount_digitText {n : Nat} (fits : n < 2 ^ 64) (limit : Nat) :
    readCount limit (.number (digitText n)) = some n := by
  have holds := IntegerType.holds_natCast .unsigned64 rfl fits
  simp only [readCount, readInteger?_digitText _ holds, if_true, Int.toNat_natCast]

end Ron

end Stagecraft
