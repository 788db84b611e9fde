import Std.Time.DateTime.Timestamp
import Stagecraft.Launch

/-!
# The program

The command line of the program: a game is played on the terminal, with the files of the machine it
runs on.
-/

namespace Stagecraft

namespace Terminal

/-! ## Files -/

/-- An error of the operating system by its number, which some operations give with its sign
turned. -/
def systemError (code : UInt32) (details : String) : FileError :=
  let code := if 0x80000000 ≤ code then 0 - code else code
  if code = 2 then .notFound
  else if code = 17 then .exists
  else if code = 20 then .notFolder
  else if code = 21 then .isFolder
  else if code = 36 then .nameTooLong
  else .other s!"{details} (os error {code})"

/-- Why something could not be done with a file. -/
def fileError : IO.Error → FileError
  | .alreadyExists _ code details => systemError code details
  | .otherError code details => systemError code details
  | .resourceBusy code details => systemError code details
  | .resourceVanished code details => systemError code details
  | .unsupportedOperation code details => systemError code details
  | .hardwareFault code details => systemError code details
  | .unsatisfiedConstraints code details => systemError code details
  | .illegalOperation code details => systemError code details
  | .protocolError code details => systemError code details
  | .timeExpired code details => systemError code details
  | .interrupted _ code details => systemError code details
  | .noFileOrDirectory _ code details => systemError code details
  | .invalidArgument _ code details => systemError code details
  | .permissionDenied _ code details => systemError code details
  | .resourceExhausted _ code details => systemError code details
  | .inappropriateType _ code details => systemError code details
  | .noSuchThing _ code details => systemError code details
  | .unexpectedEof => .other "unexpected end of file"
  | .userError reason => .other reason

/-- Do something with a file, and tell why it could not be done. -/
def attempt {α : Type} (action : IO α) : IO (Except FileError α) := do
  try
    return .ok (← action)
  catch e =>
    return .error (fileError e)

/-- A time of the file system in nanoseconds. -/
def nanoseconds (t : IO.FS.SystemTime) : Int := t.sec * Save.second + t.nsec.toNat

/-- The kind of a file. -/
def fileKind : IO.FS.FileType → FileKind
  | .file => .file
  | .dir => .folder
  | _ => .other

/-- A line of the listing of a folder. -/
def folderEntry (entry : IO.FS.DirEntry) : IO FolderEntry := do
  let data ← entry.path.symlinkMetadata
  return ⟨entry.fileName, fileKind data.type, some (nanoseconds data.modified)⟩

/-- What a folder holds. -/
def listFolder (path : String) : IO (List FolderEntry) := do
  let folder ← IO.FS.realPath path
  (← folder.readDir).toList.mapM folderEntry

/-- What stands under a path. -/
def kindOf (path : String) : IO FileKind := do
  let file ← IO.FS.realPath path
  return fileKind (← file.metadata).type

/-- The text of a file. -/
def readFile (path : String) : IO (Except FileError String) := do
  match ← attempt (IO.FS.readBinFile path) with
  | .error e => return .error e
  | .ok bytes =>
    match String.fromUTF8? bytes with
    | some text => return .ok text
    | none => return .error .notText

instance : Storage IO where
  readText := readFile
  writeText path text := attempt (IO.FS.writeFile path text)
  createFolders path := attempt (IO.FS.createDirAll path)
  kind? path := return (← attempt (kindOf path)).toOption
  list path := attempt (listFolder path)
  now := return (← Std.Time.Timestamp.now).toNanosecondsSinceUnixEpoch.val

/-! ## Screen and keyboard -/

/-- Whether the output takes colours: it does if it is a terminal, unless the surroundings say
otherwise. -/
def takesColours : IO Bool := do
  let force := (← IO.getEnv "CLICOLOR_FORCE").getD "0"
  if force ≠ "0" then return true
  if (← IO.getEnv "NO_COLOR").isSome then return false
  if (← IO.getEnv "CLICOLOR") = some "0" then return false
  (← IO.getStdout).isTty

/-- Print a text at once. -/
def put (text : String) : IO Unit := do
  let out ← IO.getStdout
  out.putStr text
  out.flush

/-- Print the failures in a journal. -/
def showFailures (journal : List Note) : IO Unit := do
  for note in journal do
    if note.level = .error then IO.eprintln s!"ERROR {note.text}"

/-- Read the bytes of a line, up to its end or the end of the input. -/
partial def readBytes (input : IO.FS.Stream) (line : ByteArray) : IO ByteArray := do
  let next ← input.read 1
  if next.isEmpty then return line
  let line := line ++ next
  if next.get! 0 = 10 then return line else readBytes input line

/-- Read a line, which is empty at the end of the input. -/
def readLine : IO (Except FileError String) := do
  match ← attempt (do readBytes (← IO.getStdin) ByteArray.empty) with
  | .error e => return .error e
  | .ok bytes =>
    match String.fromUTF8? bytes with
    | some line => return .ok line
    | none => return .error .notText

/-- Play on the lines that are typed. -/
partial def converse (c : Console) (s : Stage) : IO (Option Save.SaveError) := do
  showFailures s.journal
  let s := { s with journal := [] }
  put (Report.prompt c.colours s.world)
  match ← readLine with
  | .error e =>
    put (Console.textOf (c.unreadableInput e.message))
    converse c s
  | .ok line =>
    let command := if line.isEmpty then Command.quit else Command.parse line
    let turn ← c.turn s command
    put (Console.textOf turn.lines)
    match turn.next with
    | .prompt s => converse c s
    | .leave => return none
    | .fail reason => return some reason

/-- Play the game in a folder to its end. -/
def playIn (folder : String) : IO (Option Failure) := do
  match ← Launch.openGame (← takesColours) folder with
  | .error e => return some (.opening e)
  | .ok game =>
    put (Launch.banner game.console.colours game.stage.world)
    match game.stage.begin with
    | .error e => return some (.starting e)
    | .ok s =>
      let (events, s) := s.drain
      put (Console.textOf (events.map (Report.event game.console.colours)))
      return (← converse game.console s).map .saving

/-- The folders beside the program in which the data is looked for. -/
def foldersBeside : IO (List String) := do
  let program ← IO.appPath
  match program.parent with
  | none => return []
  | some folder =>
    let near := (folder / "data").toString
    match folder.parent with
    | none => return [near]
    | some above => return [near, (above / "tableau_engine/data").toString]

end Terminal

end Stagecraft

/-- Play the game whose data folder the surroundings name, or else one of the standard folders. -/
def main : IO UInt32 := do
  let given ← IO.getEnv "TABLEAU_DATA"
  let folder ← Stagecraft.Launch.dataFolder given (← Stagecraft.Terminal.foldersBeside)
  match ← Stagecraft.Terminal.playIn folder with
  | none => return 0
  | some failure =>
    IO.eprintln failure.report
    return 1
