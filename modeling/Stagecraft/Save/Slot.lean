import Stagecraft.Storage.Basic
import Stagecraft.Text.Words
import Stagecraft.World.Basic

/-!
# Names of saved games

A game is saved under the name of a slot.  Every world has a folder of its own, named after its
title, and the file of a slot carries the name of the slot and the version of the program that
wrote it.  A file's name is read from its end, so that a slot may hold the marker itself.
-/

namespace Stagecraft

namespace Save

/-! ## Folders -/

/-- Whether a character of a title goes into the name of a folder. -/
def isFolderChar (c : Char) : Bool := c.isAlphanum

/-- The words of a title in lower case, joined by hyphens. -/
def folderChars (title : List Char) : List Char :=
  ['-'].intercalate
    ((Text.wordsFrom (fun c => !isFolderChar c) [] title).map (·.map Char.toLower))

/-- The name of the folder for the saved games of a world with the given title. -/
def folderName (title : String) : String :=
  let name := folderChars title.toList
  if name.isEmpty then "world" else String.ofList name

/-- The folder for the saved games of a world. -/
def folderOf (root : String) (w : World) : String := Path.join root (folderName w.title)

/-! ## Files -/

/-- A saved game as its file is named. -/
structure Slot where
  name : String
  version : String
deriving DecidableEq, Inhabited

/-- What stands between the slot and the version in the name of a file. -/
def marker : String := "-tableau-"

/-- The ending of the names of saved games. -/
def ending : String := "ron"

namespace Slot

/-- The slot of the given name, as this version of the program writes it. -/
def current (name : String) : Slot := ⟨name, Stagecraft.version⟩

/-- The name of the file of a slot. -/
def fileName (s : Slot) : String := s.name ++ marker ++ s.version ++ "." ++ ending

/-- The slot in the name of a file, unless the file is none of a saved game. -/
def ofFileName? (file : String) : Option Slot := do
  let (stem, extension) ← Text.splitLast? ['.'] file.toList
  if stem.isEmpty ∨ extension ≠ ending.toList then none
  else
    let (name, version) ← Text.splitLast? marker.toList stem
    if name.isEmpty then none else some ⟨String.ofList name, String.ofList version⟩

/-- A slot that is found in the name of a file has that file. -/
theorem fileName_of_ofFileName? {file : String} {s : Slot} (found : ofFileName? file = some s) :
    s.fileName = file := by
  unfold ofFileName? at found
  simp only [Option.bind_eq_bind, Option.bind_eq_some_iff] at found
  obtain ⟨⟨stem, extension⟩, atPoint, found⟩ := found
  split at found
  · cases found
  rename_i named
  simp only [not_or, Decidable.not_not] at named
  obtain ⟨⟨name, version⟩, atMarker, found⟩ := Option.bind_eq_some_iff.mp found
  split at found
  · cases found
  simp only [Option.some.injEq] at found
  subst found
  apply String.toList_inj.mp
  have whole := Text.append_of_splitLast? atPoint
  have parts : name ++ marker.toList ++ version = stem := Text.append_of_splitLast? atMarker
  rw [← whole, ← parts, named.2]
  simp [fileName, ending]

/-- The order of a listing: by name, then by version. -/
def le (a b : Slot) : Bool :=
  (compareLex (compareOn Slot.name) (compareOn Slot.version) a b).isLE

end Slot

/-- The path under which the slot of the given name is saved. -/
def pathOf (folder slot : String) : String := Path.join folder (Slot.current slot).fileName

end Save

end Stagecraft
