/-!
# Words

A text is cut into words at runs of separating characters, so no word is empty and no word holds a
separating character.  The last occurrence of a marker cuts a text in two.
-/

namespace Stagecraft.Text

/-- Cut a text into words at runs of breaks; `word` is the reversed beginning of the word being
read. -/
def wordsFrom (isBreak : Char → Bool) (word : List Char) : List Char → List (List Char)
  | [] => if word.isEmpty then [] else [word.reverse]
  | c :: rest =>
    if isBreak c then
      if word.isEmpty then wordsFrom isBreak [] rest
      else word.reverse :: wordsFrom isBreak [] rest
    else wordsFrom isBreak (c :: word) rest

/-- The words of a text. -/
def wordsAt (isBreak : Char → Bool) (text : String) : List String :=
  (wordsFrom isBreak [] text.toList).map String.ofList

/-- What stands before and after the last occurrence of a marker that is not empty. -/
def splitLast? (marker : List Char) : List Char → Option (List Char × List Char)
  | [] => none
  | c :: rest =>
    match splitLast? marker rest with
    | some (before, after) => some (c :: before, after)
    | none =>
      if marker.isPrefixOf (c :: rest) then some ([], (c :: rest).drop marker.length) else none

/-- No word is empty, and no word holds a break. -/
theorem wordsFrom_sound (isBreak : Char → Bool) (word line : List Char)
    (clean : ∀ c ∈ word, isBreak c = false) :
    ∀ w ∈ wordsFrom isBreak word line, w ≠ [] ∧ ∀ c ∈ w, isBreak c = false := by
  induction line generalizing word with
  | nil =>
    unfold wordsFrom
    split <;> simp_all
  | cons c rest ih =>
    unfold wordsFrom
    split
    · split
      · exact ih [] (by simp)
      · intro w member
        rcases List.mem_cons.mp member with rfl | later
        · simp_all
        · exact ih [] (by simp) w later
    · exact ih (c :: word) (by simp_all)

/-- The two parts and the marker between them make up the text. -/
theorem append_of_splitLast? {marker chars before after : List Char}
    (found : splitLast? marker chars = some (before, after)) :
    before ++ marker ++ after = chars := by
  induction chars generalizing before with
  | nil => simp [splitLast?] at found
  | cons c rest ih =>
    unfold splitLast? at found
    split at found
    · rename_i inner tail inRest
      simp only [Option.some.injEq, Prod.mk.injEq] at found
      obtain ⟨rfl, rfl⟩ := found
      simp [← ih inRest]
    · split at found
      · rename_i starts
        simp only [Option.some.injEq, Prod.mk.injEq] at found
        obtain ⟨rfl, rfl⟩ := found
        obtain ⟨more, same⟩ := List.isPrefixOf_iff_prefix.mp starts
        simp [← same]
      · cases found

end Stagecraft.Text
