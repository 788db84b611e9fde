import Stagecraft.Console.Turn
import Stagecraft.Definition.Build
import Stagecraft.Definition.Check
import Stagecraft.Definition.Decode
import Stagecraft.Text.Capital

/-!
# Launching a game

A game lies in a data folder, with the definition of its world and a settings file.  A definition is
played only if it reads well and has no defects.  The launch shows the title and who the player is,
enters the first scene and hands over to the console.
-/

namespace Stagecraft

/-- Why a game cannot be opened. -/
inductive OpenError where
  | reading (path : String) (reason : FileError)
  | parsing (path : String)
  | defective (message : String)
  | building (reason : BuildError)
deriving Inhabited

/-- The wording of an open error, the outermost part first. -/
def OpenError.messages : OpenError → List String
  | .reading path reason =>
    ["while loading worlddef from file", s!"reading worlddef from '{path}'", reason.message]
  | .parsing path =>
    ["while loading worlddef from file", s!"parsing worlddef RON from '{path}'"]
  | .defective message => [message]
  | .building reason => "while building world from worlddef" :: reason.messages

/-- The world of a definition that has no defects. -/
def Definition.checkedBuild (d : Definition) : Except OpenError World :=
  match d.defectMessage? with
  | some message => .error (.defective message)
  | none => d.build.mapError .building

/-- Why a game ended other than by the player leaving. -/
inductive Failure where
  | opening (reason : OpenError)
  | starting (reason : Fault)
  | saving (reason : Save.SaveError)
deriving Inhabited

namespace Failure

/-- The wording of a failure, the outermost part first. -/
def messages : Failure → List String
  | opening reason => "while loading World" :: reason.messages
  | starting reason => ["while entering the initial scene", reason.message]
  | saving reason => reason.messages

/-- A text whose lines after the first are set in. -/
def setIn (margin : String) (text : String) : String :=
  ("\n" ++ margin).intercalate (text.splitOn "\n")

/-- The causes of a failure, numbered if there are several. -/
def causes : List String → String
  | [] => ""
  | [cause] => "\n\nCaused by:\n    " ++ setIn "    " cause
  | several =>
    "\n\nCaused by:" ++ String.join (several.mapIdx fun number cause =>
      "\n" ++ Text.padLeft 5 (toString number) ++ ": " ++ setIn "       " cause)

/-- What is printed about a failure. -/
def report (f : Failure) : String :=
  match f.messages with
  | [] => "Error: "
  | first :: rest => "Error: " ++ first ++ causes rest

end Failure

namespace Launch

variable {m : Type → Type} [Monad m] [Storage m]

/-! ## The data folder -/

/-- The folders in which the data is looked for, in this order. -/
def standardFolders : List String := ["tableau_engine/data", "data"]

/-- The first of a list of paths at which there is a folder. -/
def firstFolder? : List String → m (Option String)
  | [] => return none
  | path :: rest => do
    if (← Storage.kind? path) = some .folder then return some path else firstFolder? rest

/-- The data folder: the one that is given, or else the first that exists among the standard ones
and those beside the program. -/
def dataFolder (given : Option String) (beside : List String) : m String := do
  match given with
  | some folder => return folder
  | none => return (← firstFolder? (standardFolders ++ beside)).getD "tableau_engine/data"

/-! ## Opening -/

/-- Read the definition of a world. -/
def readDefinition (path : String) : m (Except OpenError Definition) := do
  match ← Storage.readText path with
  | .error e => return .error (.reading path e)
  | .ok text =>
    match Definition.parse? text with
    | none => return .error (.parsing path)
    | some d => return .ok d

/-- Open the world that the settings name. -/
def openWorld (folder : String) (config : Config) : m (Except OpenError Stage) := do
  match ← readDefinition (Path.join folder config.worldFile) with
  | .error e => return .error e
  | .ok d => return d.checkedBuild.map fun w => Stage.ofWorld w config.runtime

/-! ## Starting -/

/-- The width in which the title is centred. -/
def titleWidth : Nat := 84

/-- What is printed before the game begins: an empty screen, the title, the player and a hint. -/
def banner (colours : Bool) (w : World) : String :=
  let title := Style.title.paint colours (Text.center titleWidth (Text.upperCase w.title))
  let player :=
    match w.playerActor? with
    | none => ""
    | some actor =>
      let desc := if actor.desc.isEmpty then "yourself" else actor.desc
      let name := Style.player.paint colours actor.id
      s!"\nYou are {name}, {Style.description.paint colours desc}\n\n"
  "\x1b[2J\x1b[H" ++ title ++ "\n" ++ player ++
    Style.remark.paint colours "Type \x27help\x27 for commands." ++ "\n"

/-- A game that is about to begin. -/
structure Game where
  console : Console
  stage : Stage
deriving Inhabited

/-- Open the game in a data folder. -/
def openGame (colours : Bool) (folder : String) : m (Except OpenError Game) := do
  let (config, _) ← Config.load (Path.join folder Config.fileName)
  return (← openWorld folder config).map fun stage =>
    ⟨⟨config.console, config.saveRoot, colours⟩, stage⟩

/-- What a game prints, and why it ended if not by leaving. -/
structure Transcript where
  text : String
  failure : Option Failure
deriving Inhabited

/-- Play the game in the data folder on lines of input. -/
def play (colours : Bool) (given : Option String) (beside lines : List String) :
    m Transcript := do
  let folder ← dataFolder given beside
  match ← openGame colours folder with
  | .error e => return ⟨"", some (.opening e)⟩
  | .ok game =>
    let text := banner colours game.stage.world
    match game.stage.begin with
    | .error e => return ⟨text, some (.starting e)⟩
    | .ok stage =>
      let t ← game.console.run lines stage
      return ⟨text ++ t.text, t.failure.map .saving⟩

end Launch

end Stagecraft
