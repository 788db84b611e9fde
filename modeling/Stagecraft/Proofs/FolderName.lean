import Stagecraft.Proofs.Slots
import Stagecraft.Proofs.Words

/-!
# Folders named after titles

The folder of a world is named by the words of its title, in small letters and with a single hyphen
between two of them; all titles without words share one folder.  Whatever a title holds, its folder
has the name of one folder in another, naming a folder after that name leads to the same name, and
other capitals or other marks between the words of a title do not matter.
-/

namespace Stagecraft

namespace Save

/-! ## Words of a title -/

/-- The words of a title: its longest pieces of letters and digits. -/
def titleWords (title : String) : List (List Char) :=
  (title.toList.splitOnP fun c => !c.isAlphanum).filter (· ≠ [])

/-- The words of a title in small letters. -/
def smallWords (title : String) : List (List Char) :=
  (titleWords title).map (·.map Char.toLower)

/-- The words of the name of a folder: those of the title, or else one that suits every world. -/
def folderWords (title : String) : List (List Char) :=
  if smallWords title = [] then [['w', 'o', 'r', 'l', 'd']] else smallWords title

/-- Whether a character is a small letter or a digit. -/
def isSmall (c : Char) : Bool := c.isLower || c.isDigit

theorem isUpper_of_isDigit {c : Char} (digit : c.isDigit) : ¬ c.isUpper := by
  simp only [Char.isDigit, Char.isUpper, Bool.and_eq_true, decide_eq_true_eq, ge_iff_le,
    UInt32.le_iff_toNat_le] at digit ⊢
  have nine : '9'.val.toNat = 57 := rfl
  have capital : 'A'.val.toNat = 65 := rfl
  omega

theorem toLower_of_isSmall {c : Char} (small : isSmall c) : c.toLower = c := by
  refine Char.toLower_eq_of_not_isUpper ?_
  rcases Bool.or_eq_true_iff.mp small with lower | digit
  · exact Char.not_isUpper_of_isLower lower
  · exact isUpper_of_isDigit digit

theorem isAlphanum_of_isSmall {c : Char} (small : isSmall c) : c.isAlphanum := by
  rcases Bool.or_eq_true_iff.mp small with lower | digit
  · simp [Char.isAlphanum, Char.isAlpha, lower]
  · simp [Char.isAlphanum, digit]

theorem isSmall_toLower {c : Char} (kept : c.isAlphanum) : isSmall c.toLower := by
  rcases Bool.or_eq_true_iff.mp kept with letter | digit
  · simp [isSmall, letter]
  · rw [Char.toLower_eq_of_not_isUpper (isUpper_of_isDigit digit)]
    simp [isSmall, digit]

theorem folderWords_ne_nil (title : String) : folderWords title ≠ [] := by
  unfold folderWords
  split <;> simp_all

/-- The words of a folder's name are small letters and digits, at least one in each. -/
theorem small_of_mem_folderWords {title : String} {word : List Char}
    (member : word ∈ folderWords title) : word ≠ [] ∧ ∀ c ∈ word, isSmall c := by
  unfold folderWords at member
  split at member
  · rw [List.mem_singleton] at member
    subst member
    exact ⟨by simp, by simp [isSmall]⟩
  · obtain ⟨source, inTitle, rfl⟩ := List.mem_map.mp member
    unfold titleWords at inTitle
    rw [← Text.wordsFrom_eq_filter] at inTitle
    obtain ⟨filled, clean⟩ := Text.wordsFrom_sound _ [] title.toList (by simp) source inTitle
    refine ⟨by simpa using filled, fun c inWord => ?_⟩
    obtain ⟨letter, inSource, rfl⟩ := List.mem_map.mp inWord
    exact isSmall_toLower (by simpa using clean letter inSource)

section Joined

variable (title : String)

/-- Nothing in the words of a folder's name is a hyphen or another mark. -/
theorem splitOnP_intercalate_folderWords {isBreak : Char → Bool} (breaks : isBreak '-')
    (clean : ∀ c, isSmall c → isBreak c = false) :
    (['-'].intercalate (folderWords title)).splitOnP isBreak = folderWords title :=
  Text.splitOnP_intercalate breaks (folderWords_ne_nil title) fun _ member c inWord =>
    clean c ((small_of_mem_folderWords member).2 c inWord)

theorem splitOn_intercalate_folderWords :
    (['-'].intercalate (folderWords title)).splitOn '-' = folderWords title := by
  refine splitOnP_intercalate_folderWords title (by simp) fun c small => ?_
  rw [beq_eq_false_iff_ne]
  rintro rfl
  exact absurd small (by decide)

theorem intercalate_folderWords_ne_nil : ['-'].intercalate (folderWords title) ≠ [] := by
  intro empty
  have words : folderWords title = [[]] := by
    rw [← splitOn_intercalate_folderWords title, empty, List.splitOn_nil]
  exact (small_of_mem_folderWords (words ▸ List.mem_singleton_self [])).1 rfl

end Joined

/-! ## Names of folders -/

/-- A name of small words with single hyphens between them. -/
structure IsHyphenated (name : String) : Prop where
  filled : name ≠ ""
  chars : ∀ c ∈ name.toList, isSmall c ∨ c = '-'
  notFirst : name.toList.head? ≠ some '-'
  notLast : name.toList.getLast? ≠ some '-'
  single : ¬ ['-', '-'] <:+: name.toList

/-- A name is hyphenated if small words stand between its hyphens. -/
theorem isHyphenated_of_splitOn {name : String}
    (small : ∀ word ∈ name.toList.splitOn '-', word ≠ [] ∧ ∀ c ∈ word, isSmall c) :
    IsHyphenated name := by
  have whole : ['-'].intercalate (name.toList.splitOn '-') = name.toList :=
    List.intercalate_splitOn '-'
  have noGap : ∀ before after, name.toList = before ++ '-' :: after →
      [] ∉ before.splitOn '-' ∧ [] ∉ after.splitOn '-' := by
    intro before after parts
    have cut : name.toList.splitOn '-' = before.splitOn '-' ++ after.splitOn '-' := by
      rw [parts]
      exact List.splitOnP_append_cons _ _ (by simp)
    have notEmpty : [] ∉ name.toList.splitOn '-' := fun member => (small [] member).1 rfl
    rw [cut, List.mem_append, not_or] at notEmpty
    exact notEmpty
  constructor
  case filled =>
    rintro rfl
    exact (small [] (by simp)).1 rfl
  case chars =>
    intro c member
    rw [← whole] at member
    rcases Text.eq_or_exists_of_mem_intercalate member with hyphen | ⟨word, inName, inWord⟩
    · exact .inr hyphen
    · exact .inl ((small word inName).2 c inWord)
  case notFirst =>
    intro first
    obtain ⟨after, parts⟩ := List.head?_eq_some_iff.mp first
    exact (noGap [] after parts).1 (by simp)
  case notLast =>
    intro last
    obtain ⟨before, parts⟩ := List.getLast?_eq_some_iff.mp last
    exact (noGap before [] parts).2 (by simp)
  case single =>
    rintro ⟨before, after, parts⟩
    have gap : [] ∈ ('-' :: after).splitOn '-' := by
      have cut : ('-' :: after).splitOn '-' = [] :: after.splitOn '-' := by
        exact List.splitOnP_append_cons [] after (by simp)
      simp [cut]
    exact (noGap before ('-' :: after) (by simp [← parts])).2 gap

/-- The name of a folder is made of its words. -/
theorem toList_folderName (title : String) :
    (folderName title).toList = ['-'].intercalate (folderWords title) := by
  have chars : folderChars title.toList = ['-'].intercalate (smallWords title) := by
    unfold folderChars smallWords titleWords
    rw [Text.wordsFrom_eq_filter]
    rfl
  unfold folderName
  simp only [chars]
  by_cases wordless : smallWords title = []
  · simp [folderWords, wordless]
  · have same : folderWords title = smallWords title := if_neg wordless
    have filled := intercalate_folderWords_ne_nil title
    rw [same] at filled ⊢
    rw [if_neg (by simpa using filled), String.toList_ofList]

theorem splitOn_folderName (title : String) :
    (folderName title).toList.splitOn '-' = folderWords title := by
  rw [toList_folderName, splitOn_intercalate_folderWords]

theorem isHyphenated_folderName (title : String) : IsHyphenated (folderName title) := by
  refine isHyphenated_of_splitOn fun word member => ?_
  rw [splitOn_folderName] at member
  exact small_of_mem_folderWords member

/-- The name of a folder, read as a title, has the words that it is made of. -/
theorem folderWords_folderName (title : String) :
    folderWords (folderName title) = folderWords title := by
  have words : titleWords (folderName title) = folderWords title := by
    have clean : ∀ c, isSmall c → (!c.isAlphanum) = false := fun c small => by
      simp [isAlphanum_of_isSmall small]
    unfold titleWords
    rw [toList_folderName, splitOnP_intercalate_folderWords title (by decide) clean]
    exact List.filter_eq_self.mpr fun word member => by
      simpa using (small_of_mem_folderWords member).1
  have small : smallWords (folderName title) = folderWords title := by
    have unchanged : ∀ word ∈ folderWords title, word.map Char.toLower = id word :=
      fun word member => (List.map_congr_left fun c inWord =>
        toLower_of_isSmall ((small_of_mem_folderWords member).2 c inWord)).trans (List.map_id word)
    rw [smallWords, words, List.map_congr_left unchanged, List.map_id]
  rw [folderWords, if_neg (small ▸ folderWords_ne_nil title), small]

/-- A hyphenated name is that of one file or folder in another. -/
theorem IsHyphenated.isName {name : String} (hyphenated : IsHyphenated name) :
    Path.IsName name := by
  have noPoint : '.' ∉ name.toList := fun member => absurd (hyphenated.chars _ member) (by decide)
  refine ⟨hyphenated.filled, ?_, ?_, fun member => absurd (hyphenated.chars _ member) (by decide)⟩
  · rintro rfl
    exact noPoint (by decide)
  · rintro rfl
    exact noPoint (by decide)

/-- The folder of a world has the name of one folder in another, made of the words of the title in
small letters with single hyphens between them.  It is the folder of every title with these words
up to capitals, and of the name itself. -/
theorem folderName_sound (title : String) :
    IsHyphenated (folderName title) ∧ Path.IsName (folderName title) ∧
      (folderName title).toList.splitOn '-' = folderWords title ∧
      folderName (folderName title) = folderName title ∧
      ∀ other, smallWords other = smallWords title → folderName other = folderName title := by
  have named : ∀ a b, folderWords a = folderWords b → folderName a = folderName b := by
    intro a b same
    apply String.toList_inj.mp
    rw [toList_folderName, toList_folderName, same]
  refine ⟨isHyphenated_folderName title, (isHyphenated_folderName title).isName,
    splitOn_folderName title, named _ _ (folderWords_folderName title), fun other same => ?_⟩
  refine named other title ?_
  rw [folderWords, folderWords, same]

/-- Two titles with other capitals and marks share a folder. -/
theorem folderName_lighthouse :
    smallWords "--the LIGHTHOUSE/keeper" = smallWords "The Lighthouse Keeper!" ∧
      folderName "The Lighthouse Keeper!" = "the-lighthouse-keeper" ∧
      folderName "--the LIGHTHOUSE/keeper" = "the-lighthouse-keeper" := by
  have same : smallWords "--the LIGHTHOUSE/keeper" = smallWords "The Lighthouse Keeper!" := by
    decide +kernel
  have shared := (folderName_sound "The Lighthouse Keeper!").2.2.2.2 _ same
  have named : folderName "The Lighthouse Keeper!" = "the-lighthouse-keeper" := by decide +kernel
  exact ⟨same, named, shared.trans named⟩

end Save

end Stagecraft
