import Stagecraft.Config
import Stagecraft.Console.Command
import Stagecraft.Console.Report

/-!
# The console

The console stands in for a graphical front end: it advances the time in frames, tells a verb that
an animation is over when the player says so, and prints the events of the world.  A command is one
turn, which ends by printing the events it has caused.
-/

namespace Stagecraft

/-- What does not change while the console runs. -/
structure Console where
  settings : ConsoleSettings
  /-- The folder that holds the folders of saved games. -/
  saveRoot : String
  colours : Bool
deriving Inhabited

/-- How it goes on after a turn. -/
inductive Next where
  | prompt (stage : Stage)
  | leave
  | fail (reason : Save.SaveError)
deriving Inhabited

/-- The lines that a turn prints, and how it goes on. -/
structure Turn where
  lines : List String
  next : Next
deriving Inhabited

/-- A stage, and what is printed about how it came about. -/
abbrev Reply := List String × Stage

namespace Console

/-! ## Time -/

/-- Walk the player's actor towards a place by one step a frame, for at most so many frames.  The
walk ends in the place, in another scene, or when the player is gone. -/
def walkFrames (step frame : Single) (scene : Option String) (goal : Point) : Nat → Stage → Stage
  | 0, s => s
  | frames + 1, s =>
    if s.world.currentScene = scene then
      match s.world.playerActor? with
      | none => s
      | some player =>
        if player.position.sameAs goal then s
        else
          let moved := s.mapWorld (·.modifyPlayer (·.moveTo (player.position.stepToward goal step)))
          walkFrames step frame scene goal frames (moved.update frame)
    else s

/-- Walk the player's actor to a place. -/
def walk (c : Console) (goal : Point) (s : Stage) : Reply :=
  match s.world.playerActor? with
  | none => ([Style.error.paint c.colours "Nobody to walk with."], s)
  | some _ =>
    let frame := c.settings.frameStep
    ([], walkFrames (s.settings.walkSpeed * frame) frame s.world.currentScene goal
      c.settings.maxWaitFrames s)

/-- Times up to this one are too short to wait for. -/
def shortestWait : Single := ⟨0x34000000⟩

/-- Let time pass in frames, the last of which may be shorter, for at most so many frames. -/
def passFrames (frame : Single) : Nat → Single → Stage → Stage
  | 0, _, s => s
  | frames + 1, left, s =>
    if shortestWait < left then
      let delta := if left < frame then left else frame
      passFrames frame frames (left - delta) (s.update delta)
    else s

/-- Let a time pass. -/
def pass (c : Console) (seconds : Single) (s : Stage) : Stage :=
  passFrames c.settings.frameStep c.settings.maxWaitFrames seconds s

/-- Let one frame pass, of a given length if that is positive. -/
def tick (c : Console) (seconds : Option Single) (s : Stage) : Stage :=
  let seconds := seconds.getD c.settings.frameStep
  s.update (if 0 < seconds then seconds else 0)

/-! ## Verbs -/

/-- What is said after a verb has been run. -/
def afterRun (c : Console) : Option RunState → List String
  | none => [Style.remark.paint c.colours "Nothing happens."]
  | some .suspended => [Style.remark.paint c.colours "(in progress)"]
  | some .finished => []

/-- Run a verb on an actor of the current scene. -/
def perform (c : Console) (verb actor : String) (target : Option String) (s : Stage) : Reply :=
  let (state, s) := s.interact actor verb target
  (c.afterRun state, s)

/-- Run a verb on the topmost actor that answers at a place. -/
def click (c : Console) (place : Point) (verb : String) (s : Stage) : Reply :=
  match s.world.current?.bind (·.actorAt? place) with
  | none => ([Style.remark.paint c.colours "Nothing there."], s)
  | some actor =>
    let (lines, s) := c.perform verb actor.id none s
    (s!"{Style.verb.paint c.colours verb} {Style.actor.paint c.colours actor.id}" :: lines, s)

/-- Answer the open dialog. -/
def choose (c : Console) (index : Nat) (s : Stage) : Reply :=
  match s.chooseOption index with
  | (.ok _, s) => ([], s)
  | (.error reason, s) => ([Style.error.paint c.colours reason.message], s)

/-- Tell the verbs that wait for it that an animation is over. -/
def animationDone (c : Console) (actor : String) (s : Stage) : Reply :=
  let (count, s) := s.animationFinished actor
  (if count = 0 then [Style.remark.paint c.colours s!"Nothing was waiting on '{actor}'."] else [],
    s)

/-- Cancel a verb by its index in the list of parked verbs. -/
def cancel (c : Console) (index : Nat) (s : Stage) : Reply :=
  match s.world.parkedHandles[index]? with
  | none => ([Style.error.paint c.colours s!"No running verb number {index + 1}."], s)
  | some handle =>
    let (found, s) := s.cancelVerb handle
    (if found then [s!"Cancelled {Style.verb.paint c.colours handle.text}."] else [], s)

/-- Go to another scene. -/
def goTo (c : Console) (scene : String) (s : Stage) : Reply :=
  match s.enterScene scene with
  | .ok s => ([], s)
  | .error reason => ([Style.error.paint c.colours reason.message], s)

/-! ## Saved games -/

/-- The folder for the saved games of the world. -/
def saveFolder (c : Console) (s : Stage) : String := Save.folderOf c.saveRoot s.world

variable {m : Type → Type} [Monad m] [Storage m]

/-- What is said when the folder of saved games cannot be read. -/
def unreadableSaves (c : Console) (e : Save.ListError) : List String :=
  [Style.error.paint c.colours s!"Unable to read saves: {String.join (e.messages.take 1)}"]

/-- What is said when a saved game has been loaded. -/
def afterLoad (c : Console) (slot : String) (s : Stage) : List String :=
  let saved := s.world.version
  let warning :=
    if saved = version then []
    else
      let label := Style.warning.paint c.colours "WARNING"
      let shown := Style.error.paint c.colours saved
      [s!"{label}: '{slot}' was saved by v{shown}; this is v{version}."]
  let name := Style.paint c.colours { underline := true, colour := some .green } slot
  warning ++ [s!"Saved game {name} loaded."] ++ Report.scene c.colours s.world

/-- Go on with a saved game.  The settings stay. -/
def load (c : Console) (slot : String) (s : Stage) : m Reply := do
  let name := Style.error.paint c.colours slot
  match ← Save.find? (c.saveFolder s) slot with
  | .error e => return (c.unreadableSaves e, s)
  | .ok none => return ([s!"Unable to find {name} save file. Load aborted."], s)
  | .ok (some path) =>
    match ← Save.load path with
    | .error e =>
      return ([s!"Unable to load the {name} save file: {String.join (e.messages.take 1)}"], s)
    | .ok loaded =>
      let loaded := { loaded with settings := s.settings }
      return (c.afterLoad slot loaded, loaded)

/-- List the saved games of the world. -/
def saves (c : Console) (s : Stage) : m (List String) := do
  match ← Save.entries (c.saveFolder s) with
  | .error e => return c.unreadableSaves e
  | .ok entries => return Report.savedGames c.colours (← Storage.now) entries

/-! ## Turns -/

/-- End a turn by printing the events that it has caused. -/
def finish (c : Console) (reply : Reply) : Turn :=
  let (events, s) := reply.2.drain
  ⟨reply.1 ++ events.map (Report.event c.colours), .prompt s⟩

/-- Carry out a command. -/
def turn (c : Console) (s : Stage) : Command → m Turn
  | .look => return c.finish (Report.scene c.colours s.world, s)
  | .verbs actor => return c.finish (Report.verbs c.colours s.world actor, s)
  | .perform verb actor target => return c.finish (c.perform verb actor target s)
  | .click place verb => return c.finish (c.click place verb s)
  | .walk goal => return c.finish (c.walk goal s)
  | .tick seconds => return c.finish ([], c.tick seconds s)
  | .pass seconds => return c.finish ([], c.pass seconds s)
  | .choose index => return c.finish (c.choose index s)
  | .animationDone actor => return c.finish (c.animationDone actor s)
  | .running => return c.finish (Report.running c.colours s.world, s)
  | .cancel index => return c.finish (c.cancel index s)
  | .goTo scene => return c.finish (c.goTo scene s)
  | .save slot => do
    match ← Save.save s.world (c.saveFolder s) slot with
    | .error e => return ⟨[], .fail e⟩
    | .ok path =>
      let name := Style.paint c.colours { underline := true } slot
      return c.finish ([s!"Game saved as {name}"], s.info (Save.savedText path))
  | .load slot => return c.finish (← c.load slot s)
  | .saves => return c.finish (← c.saves s, s)
  | .help => return c.finish (Report.help c.colours, s)
  | .quit => return ⟨["Goodbye."], .leave⟩
  | .unknown =>
    return c.finish
      ([Style.error.paint c.colours "Didn\x27t quite catch that. Try \x27help\x27."], s)

/-! ## Running -/

/-- The text of a row of lines. -/
def textOf (lines : List String) : String := String.join (lines.map (· ++ "\n"))

/-- What is said when the input cannot be read. -/
def unreadableInput (c : Console) (reason : String) : List String :=
  [Style.error.paint c.colours s!"Failed to read input ({reason}). Try again."]

/-- The lines of an input; the last one may lack its end. -/
def inputLines (text : String) : List String :=
  let lines := text.splitOn "\n"
  if lines.getLast? = some "" then lines.dropLast else lines

/-- What the console prints, and why it ended if not by leaving. -/
structure Transcript where
  text : String
  failure : Option Save.SaveError
deriving Inhabited

/-- Print more after a text. -/
def Transcript.after (text : String) (t : Transcript) : Transcript :=
  { t with text := text ++ t.text }

/-- Carry out lines of input until the player leaves.  The end of the input stands for leaving. -/
def runLines (c : Console) : List String → Stage → m Transcript
  | [], s => do
    let t ← c.turn s .quit
    return ⟨Report.prompt c.colours s.world ++ textOf t.lines, none⟩
  | line :: rest, s => do
    let t ← c.turn { s with journal := [] } (Command.parse line)
    let text := Report.prompt c.colours s.world ++ textOf t.lines
    match t.next with
    | .prompt s => return (← c.runLines rest s).after text
    | .leave => return ⟨text, none⟩
    | .fail reason => return ⟨text, some reason⟩

/-- Run the console on lines of input, beginning with the events that are waiting. -/
def run (c : Console) (lines : List String) (s : Stage) : m Transcript := do
  let (events, s) := s.drain
  return (← c.runLines lines s).after (textOf (events.map (Report.event c.colours)))

end Console

end Stagecraft
