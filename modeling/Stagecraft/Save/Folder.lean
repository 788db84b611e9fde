import Stagecraft.Save.Load
import Stagecraft.Save.Slot

/-!
# Folders of saved games

A folder is listed slot by slot, with the state each saved game is in.  A file that cannot be read
is reported and not left out.  Looking for a slot prefers the file of this version, then the one
that was written last.
-/

namespace Stagecraft

namespace Save

variable {m : Type → Type} [Monad m] [Storage m]

/-! ## Writing -/

/-- Why a game cannot be saved. -/
inductive SaveError where
  | converting
  | creating (folder : String) (reason : FileError)
  | writing (path : String) (reason : FileError)
deriving DecidableEq, Inhabited

/-- The wording of a save error, the outermost part first. -/
def SaveError.messages : SaveError → List String
  | .converting => ["error converting World to 'ron' format", "Exceeded recursion limit"]
  | .creating folder reason => [s!"error creating save folder '{folder}'", reason.message]
  | .writing path reason => [s!"writing save file '{path}'", reason.message]

/-- Save a world under the name of a slot, in a file with the path that is answered. -/
def save (w : World) (folder slot : String) : m (Except SaveError String) := do
  match w.saveText? with
  | none => return .error .converting
  | some text =>
    match ← Storage.createFolders folder with
    | .error e => return .error (.creating folder e)
    | .ok _ =>
      let path := pathOf folder slot
      return (← Storage.writeText path text).map (fun _ => path) |>.mapError (.writing path)

/-- What the journal says of a saved game. -/
def savedText (path : String) : String := s!"game saved to '{path}'"

/-! ## Reading -/

/-- Load the saved game of a file. -/
def load (path : String) : m (Except LoadError Stage) := do
  match ← Storage.readText path with
  | .error e => return .error (.reading path e.message)
  | .ok text => return loadText path text

/-- A file of a saved game. -/
structure Found where
  slot : Slot
  path : String
  file : String
  modified : Option Int
deriving DecidableEq, Inhabited

/-- Why a folder of saved games cannot be read. -/
structure ListError where
  folder : String
  reason : FileError
deriving DecidableEq, Inhabited

/-- The wording of a list error, the outermost part first. -/
def ListError.messages (e : ListError) : List String :=
  [s!"listing save folder {e.folder}", e.reason.message]

/-- The saved game in a line of a folder's listing. -/
def Found.ofEntry? (folder : String) (entry : FolderEntry) : Option Found :=
  if entry.kind = .file then
    (Slot.ofFileName? entry.name).map fun slot =>
      ⟨slot, Path.join folder entry.name, entry.name, entry.modified⟩
  else none

/-- The saved games of a folder by slot and version; one that does not exist has none. -/
def slots (folder : String) : m (Except ListError (List Found)) := do
  match ← Storage.kind? folder with
  | none => return .ok []
  | some _ =>
    match ← Storage.list folder with
    | .error e => return .error ⟨folder, e⟩
    | .ok entries =>
      return .ok ((entries.filterMap (Found.ofEntry? folder)).mergeSort fun a b => a.slot.le b.slot)

/-- Whether one time is before another; no time is before every time. -/
def earlier : Option Int → Option Int → Bool
  | _, none => false
  | none, some _ => true
  | some a, some b => a < b

/-- The last of those that were written last. -/
def newest? : List Found → Option Found
  | [] => none
  | found :: rest =>
    match newest? rest with
    | none => some found
    | some later => if earlier later.modified found.modified then some found else some later

/-- The file of a slot, if there is one. -/
def find? (folder slot : String) : m (Except ListError (Option String)) := do
  let path := pathOf folder slot
  match ← Storage.kind? path with
  | some .file => return .ok (some path)
  | _ => return (← slots folder).map fun found =>
      (newest? (found.filter (·.slot.name = slot))).map (·.path)

/-! ## Listing -/

/-- What a saved game is about. -/
structure Summary where
  title : String
  scene : Option String
  player : Option String
  elapsed : Double
  waiting : Nat
deriving Inhabited

/-- The summary of a world. -/
def Summary.ofWorld (w : World) : Summary :=
  ⟨w.title, w.currentScene, w.player, w.elapsed, (w.handles.filter w.isParked).length⟩

/-- Why a saved game cannot be used. -/
inductive Damage where
  | unreadable (reason : FileError)
  | unparsable
  | inconsistent (reason : VerbError)
deriving DecidableEq, Inhabited

/-- The longest message in a listing. -/
def longestMessage : Nat := 120

/-- A message shortened to the longest that a listing shows. -/
def clamp (message : String) : String :=
  if longestMessage < message.length then
    String.ofList (message.toList.take (longestMessage - 3)) ++ "..."
  else message

/-- The wording of a damage. -/
def Damage.message : Damage → String
  | .unreadable reason => "cannot read: " ++ clamp reason.message
  | .unparsable => "cannot parse: not a saved world"
  | .inconsistent reason => clamp reason.message

/-- Whether a saved game can be loaded, and by which version it was saved. -/
inductive Status where
  | ready
  | otherVersion (saved : String)
  | damaged (damage : Damage)
deriving DecidableEq, Inhabited

/-- What the content of a file says about the saved game in it. -/
structure Inspection where
  /-- The version in the saved game, if it can be read. -/
  version : Option String
  summary : Option Summary
  status : Status
deriving Inhabited

/-- The state of a saved game. -/
def statusOf (w : World) : Status :=
  match w.verbError? with
  | some e => .damaged (.inconsistent e)
  | none => if w.version = Stagecraft.version then .ready else .otherVersion w.version

/-- Look at the content of a file. -/
def inspect : Except FileError String → Inspection
  | .error e => ⟨none, none, .damaged (.unreadable e)⟩
  | .ok text =>
    match World.parse? text with
    | none => ⟨none, none, .damaged .unparsable⟩
    | some w => ⟨some w.version, some (.ofWorld w), statusOf w⟩

/-- A line of the list of saved games. -/
structure Entry where
  found : Found
  inspection : Inspection
deriving Inhabited

/-- The version of an entry: the one that is saved, or else the one in the file's name. -/
def Entry.version (e : Entry) : String := e.inspection.version.getD e.found.slot.version

/-- The order of the list: what was written last comes first, and equally old ones by slot. -/
def Entry.le (a b : Entry) : Bool :=
  earlier b.found.modified a.found.modified ||
    !earlier a.found.modified b.found.modified && (compare a.found.slot.name b.found.slot.name).isLE

/-- Look into the file of a saved game. -/
def Found.inspect (found : Found) : m Entry := do
  return ⟨found, Save.inspect (← Storage.readText found.path)⟩

/-- Look into the files of saved games one after the other. -/
def inspectAll : List Found → m (List Entry)
  | [] => return []
  | found :: rest => do
    let entry ← found.inspect
    let entries ← inspectAll rest
    return entry :: entries

/-- The list of the saved games of a folder. -/
def entries (folder : String) : m (Except ListError (List Entry)) := do
  match ← slots folder with
  | .error e => return .error e
  | .ok found => return .ok ((← inspectAll found).mergeSort Entry.le)

/-! ## Ages -/

/-- Nanoseconds in a second. -/
def second : Int := 1000000000

/-- How long ago something was, in words. -/
def ageText (now time : Int) : String :=
  if now < time then "in the future"
  else
    let seconds := ((now - time) / second).toNat
    let minutes := seconds / 60
    let hours := seconds / 3600
    let days := seconds / 86400
    if seconds < 30 then "just now"
    else if seconds < 60 then s!"{seconds}s ago"
    else if seconds < 3600 then s!"{minutes}m ago"
    else if seconds < 86400 then s!"{hours}h ago"
    else s!"{days}d ago"

end Save

end Stagecraft
