/-!
# Storage

What the program asks of the files around it, and how that can fail.  A program that only uses these
operations runs on real files as well as on a disk that is a value.
-/

namespace Stagecraft

/-- Why something cannot be done with a file. -/
inductive FileError where
  | notFound
  | exists
  | notFolder
  | isFolder
  | nameTooLong
  | nullInName
  | notText
  | other (reason : String)
deriving DecidableEq, Inhabited

/-- The wording of a file error. -/
def FileError.message : FileError → String
  | .notFound => "No such file or directory (os error 2)"
  | .exists => "File exists (os error 17)"
  | .notFolder => "Not a directory (os error 20)"
  | .isFolder => "Is a directory (os error 21)"
  | .nameTooLong => "File name too long (os error 36)"
  | .nullInName => "file name contained an unexpected NUL byte"
  | .notText => "stream did not contain valid UTF-8"
  | .other reason => reason

/-- What stands under a path. -/
inductive FileKind where
  | file
  | folder
  | other
deriving DecidableEq, Inhabited

/-- A line of a folder's listing.  Times are counted in nanoseconds from a fixed moment. -/
structure FolderEntry where
  name : String
  kind : FileKind
  modified : Option Int
deriving DecidableEq, Inhabited

/-- The operations on files.  Paths are texts with slashes between their parts. -/
class Storage (m : Type → Type) where
  /-- The text of a file. -/
  readText : String → m (Except FileError String)
  /-- Give a file a text, and create the file if there is none. -/
  writeText : String → String → m (Except FileError Unit)
  /-- Create a folder and the folders above it, as far as they do not exist. -/
  createFolders : String → m (Except FileError Unit)
  /-- What stands under a path, if anything does. -/
  kind? : String → m (Option FileKind)
  /-- What a folder holds, in no particular order. -/
  list : String → m (Except FileError (List FolderEntry))
  /-- The present time, on the scale of the listings. -/
  now : m Int

namespace Path

/-- Whether a path starts at the root. -/
def isAbsolute (path : String) : Bool := path.toList.head? == some '/'

/-- The path of something in a folder.  A name that starts at the root stands for itself. -/
def join (folder name : String) : String :=
  if isAbsolute name ∨ folder.isEmpty then name
  else if folder.toList.getLast? = some '/' then folder ++ name
  else folder ++ "/" ++ name

end Path

end Stagecraft
