import Stagecraft.Text.Blank

/-!
# Words between breaks

The words of a text are the filled ones among the pieces into which its breaks cut it.  So pieces
that hold no break are the words of the text in which they are joined at breaks.
-/

namespace Stagecraft.Text

/-- The words are what stands between the breaks, where something stands there; `word` belongs in
front of the first of them. -/
theorem wordsFrom_eq_modifyHead (isBreak : Char → Bool) (word text : List Char) :
    wordsFrom isBreak word text =
      ((text.splitOnP isBreak).modifyHead (word.reverse ++ ·)).filter (· ≠ []) := by
  induction text generalizing word with
  | nil => cases word <;> simp [wordsFrom]
  | cons c rest ih =>
    rw [List.splitOnP_cons_eq_if_modifyHead]
    unfold wordsFrom
    split
    · have afresh : (rest.splitOnP isBreak).modifyHead (([] : List Char).reverse ++ ·) =
          rest.splitOnP isBreak := by
        cases rest.splitOnP isBreak <;> simp
      rw [ih [], afresh]
      cases word <;> simp
    · rw [ih (c :: word), List.modifyHead_modifyHead]
      congr 2
      funext piece
      simp

theorem wordsFrom_eq_filter (isBreak : Char → Bool) (text : List Char) :
    wordsFrom isBreak [] text = (text.splitOnP isBreak).filter (· ≠ []) := by
  rw [wordsFrom_eq_modifyHead]
  cases text.splitOnP isBreak <;> simp

section Joined

variable {isBreak : Char → Bool} {joint : Char} {pieces : List (List Char)}

/-- Pieces that are joined at breaks, and hold none, are found again. -/
theorem splitOnP_intercalate (breaks : isBreak joint) (filled : pieces ≠ [])
    (clean : ∀ piece ∈ pieces, ∀ c ∈ piece, isBreak c = false) :
    ([joint].intercalate pieces).splitOnP isBreak = pieces := by
  induction pieces with
  | nil => exact absurd rfl filled
  | cons piece rest ih =>
    have first : ∀ c ∈ piece, isBreak c = false := clean piece (by simp)
    cases rest with
    | nil => simpa using List.splitOnP_eq_singleton first
    | cons next rest =>
      have later := ih (by simp) fun piece member => clean piece (List.mem_cons_of_mem _ member)
      rw [List.intercalate_cons_cons, List.append_assoc, List.singleton_append,
        List.splitOnP_append_cons_of_forall_mem first joint breaks, later]

/-- A joined text consists of its pieces and of joints. -/
theorem eq_or_exists_of_mem_intercalate {c : Char} (member : c ∈ [joint].intercalate pieces) :
    c = joint ∨ ∃ piece ∈ pieces, c ∈ piece := by
  induction pieces with
  | nil => simp at member
  | cons piece rest ih =>
    cases rest with
    | nil => exact .inr ⟨piece, by simp, by simpa using member⟩
    | cons next rest =>
      rw [List.intercalate_cons_cons, List.append_assoc, List.mem_append, List.mem_append] at member
      rcases member with inFirst | atJoint | later
      · exact .inr ⟨piece, by simp, inFirst⟩
      · exact .inl (by simpa using atJoint)
      · rcases ih later with same | ⟨found, inRest, inside⟩
        · exact .inl same
        · exact .inr ⟨found, List.mem_cons_of_mem _ inRest, inside⟩

end Joined

/-- Two words with a blank between them are the words of a line. -/
theorem words_pair {first second : String} (filled : first ≠ "") (filled' : second ≠ "")
    (clean : ∀ c ∈ first.toList, isBlank c = false)
    (clean' : ∀ c ∈ second.toList, isBlank c = false) :
    words (first ++ " " ++ second) = [first, second] := by
  have line : (first ++ " " ++ second).toList = first.toList ++ ' ' :: second.toList := by
    simp
  unfold words wordsAt
  rw [wordsFrom_eq_filter, line, List.splitOnP_append_cons_of_forall_mem clean ' ' rfl,
    List.splitOnP_eq_singleton clean']
  simp [filled, filled']

end Stagecraft.Text
