import Stagecraft.Storage.Basic

/-!
# A disk as a value

A disk lists its files and folders by the parts of their paths.  A path is followed part by part
from the folder the program runs in, or from the root if it begins with a slash; two dots lead to
the folder above.  Every write is later than the one before.
-/

namespace Stagecraft

/-- A place on a disk: the names that lead to it. -/
abbrev Place := List String

/-- What a disk holds at a place.  A file without a text holds bytes that are no text. -/
inductive DiskItem where
  | file (text : Option String) (modified : Int)
  | folder (modified : Int)
deriving DecidableEq, Inhabited

/-- The kind of an item. -/
def DiskItem.kind : DiskItem → FileKind
  | .file .. => .file
  | .folder _ => .folder

/-- When an item was last changed. -/
def DiskItem.modified : DiskItem → Int
  | .file _ time => time
  | .folder time => time

/-- The files and folders of a disk, and the time.  The folder a program runs in is at `[]`, the
root of all files at `["/"]`. -/
structure Disk where
  items : List (Place × DiskItem)
  clock : Int
deriving Inhabited

namespace Disk

/-- A disk without files. -/
def empty (clock : Int) : Disk := ⟨[], clock⟩

/-- What is at a place. -/
def item? (d : Disk) (place : Place) : Option DiskItem :=
  if place = [] ∨ place = ["/"] then some (.folder 0)
  else d.items.lookup place

/-- Put something at a place. -/
def put (d : Disk) (place : Place) (item : DiskItem) : Disk :=
  { d with items := d.items.filter (·.1 ≠ place) ++ [(place, item)] }

/-- The parts of a path.  An empty part stands for the folder it is in. -/
def splitParts (part : List Char) : List Char → List String
  | [] => [String.ofList part.reverse]
  | c :: rest =>
    if c = '/' then String.ofList part.reverse :: splitParts [] rest
    else splitParts (c :: part) rest

/-- The folder that a place is in.  The root is above itself. -/
def above (place : Place) : Place := if place = ["/"] then place else place.dropLast

/-- The longest name of a file, in bytes. -/
def longestName : Nat := 255

/-- Follow the parts of a path from a place.  Every part but the last has to be a folder. -/
def follow (d : Disk) (place : Place) : List String → Except FileError Place
  | [] => .ok place
  | name :: rest =>
    match d.item? place with
    | none => .error .notFound
    | some (.file ..) => .error .notFolder
    | some (.folder _) =>
      if name = "" ∨ name = "." then d.follow place rest
      else if name = ".." then d.follow (above place) rest
      else if longestName < name.utf8ByteSize then .error .nameTooLong
      else d.follow (place ++ [name]) rest

/-- The place that a path leads to, whether or not something is there. -/
def locate (d : Disk) (path : String) : Except FileError Place :=
  if path.isEmpty then .error .notFound
  else if path.toList.contains '\x00' then .error .nullInName
  else d.follow (if Path.isAbsolute path then ["/"] else []) (splitParts [] path.toList)

/-- What is under a path. -/
def find (d : Disk) (path : String) : Except FileError (Place × DiskItem) :=
  match d.locate path with
  | .error e => .error e
  | .ok place =>
    match d.item? place with
    | some item => .ok (place, item)
    | none => .error .notFound

/-- The text of a file. -/
def readText (d : Disk) (path : String) : Except FileError String :=
  match d.find path with
  | .error e => .error e
  | .ok (_, .folder _) => .error .isFolder
  | .ok (_, .file none _) => .error .notText
  | .ok (_, .file (some text) _) => .ok text

/-- The disk a moment later. -/
def tick (d : Disk) : Disk := { d with clock := d.clock + 1 }

/-- Give a file a text. -/
def writeText (d : Disk) (path text : String) : Except FileError Disk :=
  match d.locate path with
  | .error e => .error e
  | .ok place =>
    match d.item? place, d.item? (above place) with
    | some (.folder _), _ => .error .isFolder
    | some (.file ..), _ => .ok (d.put place (.file (some text) d.clock)).tick
    | none, some (.folder _) => .ok (d.put place (.file (some text) d.clock)).tick
    | none, _ => .error .notFound

/-- Create one folder. -/
def createFolder (d : Disk) (path : String) : Except FileError Disk :=
  match d.locate path with
  | .error e => .error e
  | .ok place =>
    match d.item? place, d.item? (above place) with
    | some _, _ => .error .exists
    | none, some (.folder _) => .ok (d.put place (.folder d.clock)).tick
    | none, _ => .error .notFound

/-- What stands under a path. -/
def kind? (d : Disk) (path : String) : Option FileKind :=
  match d.find path with
  | .ok (_, item) => some item.kind
  | .error _ => none

/-- A path and the beginnings of it that end before a slash, the longest first. -/
def ancestors (path : String) : List String :=
  let parts := splitParts [] path.toList
  (List.range parts.length).reverse.map fun i => "/".intercalate (parts.take (i + 1))

/-- Create the first of a list of folders, each of which is in the next one, and those of the others
that this needs. -/
def createChain (d : Disk) : List String → Except FileError Disk
  | [] => .error .notFound
  | path :: above =>
    if path.isEmpty then .ok d
    else
      match d.createFolder path with
      | .ok d => .ok d
      | .error .notFound => do
        let d ← d.createChain above
        match d.createFolder path with
        | .ok d => .ok d
        | .error e => if d.kind? path = some .folder then .ok d else .error e
      | .error e => if d.kind? path = some .folder then .ok d else .error e

/-- Create a folder and the folders above it, as far as they do not exist. -/
def createFolders (d : Disk) (path : String) : Except FileError Disk :=
  d.createChain (ancestors path)

/-- What a folder holds. -/
def list (d : Disk) (path : String) : Except FileError (List FolderEntry) :=
  match d.find path with
  | .error e => .error e
  | .ok (_, .file ..) => .error .notFolder
  | .ok (folder, .folder _) =>
    .ok (d.items.filterMap fun (place, item) =>
      if above place = folder then
        place.getLast?.map fun name => ⟨name, item.kind, some item.modified⟩
      else none)

/-- Change the disk, unless that fails. -/
def change (action : Disk → Except FileError Disk) : StateM Disk (Except FileError Unit) :=
  fun d =>
    match action d with
    | .ok d => (.ok (), d)
    | .error e => (.error e, d)

instance : Storage (StateM Disk) where
  readText path := fun d => (d.readText path, d)
  writeText path text := change (·.writeText path text)
  createFolders path := change (·.createFolders path)
  kind? path := fun d => (d.kind? path, d)
  list path := fun d => (d.list path, d)
  now := fun d => (d.clock, d)

end Disk

end Stagecraft
