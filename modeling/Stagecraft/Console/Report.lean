import Stagecraft.Console.Style
import Stagecraft.Play.Stage
import Stagecraft.Save.Folder
import Stagecraft.Text.Padding

/-!
# What the console shows

Events, the current scene, verbs and saved games as lines of text.  Everything that is shown with a
number is numbered from one.
-/

namespace Stagecraft

open Text (padLeft padRight)

namespace Report

/-- A row of numbered lines, counted from the given number. -/
def numbered {α : Type} (line : Nat → α → String) : Nat → List α → List String
  | _, [] => []
  | number, item :: rest => line number item :: numbered line (number + 1) rest

/-! ## Events -/

/-- One option of a dialog under its number. -/
def dialogOption (colours : Bool) (number : Nat) (text : String) : String :=
  s!"\n  {number}. {Style.dialog.paint colours text}"

/-- The text of an event. -/
def event (colours : Bool) : Event → String
  | .sceneChanged scene => s!"\n=== {Style.scene.paint colours scene} ==="
  | .speech actor text =>
    let name := Style.actor.paint colours actor
    name ++ ": \"" ++ Style.speech.paint colours text ++ "\""
  | .sound actor sound _ looping _ =>
    let ending := if looping then " (looping)" else ""
    Style.event.paint colours s!"~ {Style.actor.paint colours actor} plays {sound}{ending}"
  | .animation actor animation =>
    Style.event.paint colours s!"~ {actor} animates: {animation}"
  | .walk actor goal =>
    Style.event.paint colours
      s!"~ {actor} walks to ({fixedSingle 0 goal.x}, {fixedSingle 0 goal.y})"
  | .dialogOpened actor _ options =>
    String.join (s!"{Style.actor.paint colours actor} is waiting for an answer:" ::
      numbered (dialogOption colours) 1 options)
  | .dialogClosed _ dialog => Style.remark.paint colours s!"~ dialog '{dialog}' closed"

/-! ## The prompt -/

/-- The line before the player's input. -/
def prompt (colours : Bool) (w : World) : String :=
  let waiting := w.parkedHandles.length
  let running := if 0 < waiting then s!" | {waiting} running" else ""
  let choice := if w.openDialog.isSome then " | choose" else ""
  let scene := w.currentScene.getD "-"
  Style.prompt.paint colours
    ("\n[" ++ scene ++ " | " ++ fixedDouble 1 w.elapsed ++ "s" ++ running ++ choice ++ "]>> ")

/-! ## The scene -/

/-- An actor of the current scene. -/
def actor (colours : Bool) (player : Option String) (a : Actor) : String :=
  let name := Style.actor.paint colours a.id
  let place := s!" ({fixedSingle 0 a.position.x}, {fixedSingle 0 a.position.y})"
  let state :=
    match a.state with
    | some state => s!" [{state}]"
    | none => ""
  let role :=
    if player = some a.id then Style.paint colours { bold := true } " <- you"
    else if !a.visible then Style.remark.paint colours " (invisible)"
    else if !a.interaction then Style.remark.paint colours " (scenery)"
    else ""
  let desc := if a.desc.isEmpty then "" else " - " ++ Style.description.paint colours a.desc
  name ++ place ++ state ++ role ++ desc

/-- A layer and the actors on it. -/
def layer (colours : Bool) (player : Option String) (s : Scene) (l : Layer) : List String :=
  let hidden := if l.visible then "" else " (hidden)"
  (Style.subheading.paint colours s!"layer {l.name}" ++ Style.remark.paint colours hidden) ::
    (l.actors.filterMap s.actor?).map fun a => "  " ++ actor colours player a

/-- What is said where a scene is needed and there is none. -/
def noScene (colours : Bool) : List String :=
  [Style.error.paint colours "There is no current scene."]

/-- The current scene with its layers, the topmost first, and the open dialog. -/
def scene (colours : Bool) (w : World) : List String :=
  match w.current? with
  | none => noScene colours
  | some s =>
    let state :=
      match s.state with
      | some state => s!" [{state}]"
      | none => ""
    let heading := Style.scene.paint colours s.id ++ Style.remark.paint colours state
    let question :=
      match w.openDialog with
      | some d =>
        [Style.actor.paint colours d.actor ++ " is waiting for your answer ('choose <n>')."]
      | none => []
    heading :: s.layers.flatMap (layer colours w.player s) ++ question

/-! ## Verbs -/

/-- Where a verb stands. -/
def progress (script : Script Action) : String :=
  if script.isParked then s!" waiting at step {script.ip.getD 0 + 1}"
  else if script.isRunning then " running"
  else ""

/-- The verbs of a table. -/
def table (colours : Bool) (t : VerbTable) : List String :=
  if t.entries.isEmpty then ["  " ++ Style.remark.paint colours "(none)"]
  else
    t.entries.map fun (key, script) =>
      "  " ++ Style.verb.paint colours key.text ++ Style.remark.paint colours (progress script)

/-- A table that is left out if it is empty. -/
def tableUnder (colours : Bool) (heading : String) (t : VerbTable) : List String :=
  if t.entries.isEmpty then []
  else Style.subheading.paint colours heading :: table colours t

/-- The verbs that an actor of the current scene answers to. -/
def verbs (colours : Bool) (w : World) (id : String) : List String :=
  match w.current? with
  | none => noScene colours
  | some s =>
    match s.actor? id with
    | none => [Style.error.paint colours s!"No actor '{id}' here."]
    | some a =>
      Style.subheading.paint colours s!"verbs on {a.id}" :: table colours a.verbs ++
        tableUnder colours s!"verbs on scene {s.id}" s.verbs ++
        tableUnder colours "global verbs" w.verbs

/-- The action on which a verb is parked. -/
def step (w : World) (h : Handle) : String :=
  let action? := do
    let script ← w.script? h
    let ip ← script.ip
    let action ← script.actions[ip]?
    return s!"step {ip + 1} ({action.name})"
  action?.getD ""

/-- A parked verb under its number. -/
def parkedVerb (colours : Bool) (w : World) (number : Nat) (h : Handle) : String :=
  s!"{padLeft 3 (toString number)}. {Style.verb.paint colours h.text} " ++
    Style.remark.paint colours (step w h)

/-- The parked verbs to which time passes. -/
def running (colours : Bool) (w : World) : List String :=
  if w.parkedHandles.isEmpty then [Style.remark.paint colours "No verbs are running."]
  else numbered (parkedVerb colours w) 1 w.parkedHandles

/-! ## Saved games -/

/-- The summary of a saved game. -/
def summary (s : Save.Summary) : String :=
  let scene := s.scene.getD "-"
  s!"{scene} at {fixedDouble 0 s.elapsed}s, {s.waiting} verb(s) waiting"

/-- What is amiss with a saved game. -/
def status : Save.Status → String
  | .ready => ""
  | .otherVersion saved => s!" [v{saved}]"
  | .damaged damage => s!" [unreadable: {damage.message}]"

/-- A saved game. -/
def savedGame (colours : Bool) (now : Int) (e : Save.Entry) : String :=
  let age := (e.found.modified.map (Save.ageText now)).getD ""
  let about := (e.inspection.summary.map summary).getD ""
  s!"  {Style.verb.paint colours e.found.slot.name} {Style.remark.paint colours age} " ++
    about ++ Style.error.paint colours (status e.inspection.status)

/-- The list of saved games. -/
def savedGames (colours : Bool) (now : Int) (entries : List Save.Entry) : List String :=
  if entries.isEmpty then [Style.remark.paint colours "No saved games yet."]
  else entries.map (savedGame colours now)

/-! ## Help -/

/-- The commands and what they do. -/
def usages : List (String × String) :=
  [("look", "describe the current scene"),
    ("verbs <actor>", "list the verbs an actor answers to"),
    ("do <verb> <actor> [with <target>]", "run a verb as the player"),
    ("click <x> <y> [verb]", "run a verb on whatever is under a point"),
    ("walk <x> <y>", "walk the player to a point"),
    ("tick [secs]", "advance one frame"),
    ("wait <secs>", "advance game time"),
    ("choose <n>", "answer the open dialog"),
    ("done <actor>", "finish the animation playing on an actor"),
    ("running", "list verbs waiting on an action"),
    ("cancel <n>", "cancel a running verb"),
    ("scene <id>", "switch to another scene"),
    ("save <slot> / load <slot> / saves", "manage saved games"),
    ("quit", "leave")]

/-- The width of the column of commands. -/
def usageWidth : Nat := 36

/-- The list of commands. -/
def help (colours : Bool) : List String :=
  Style.subheading.paint colours "Commands" ::
    usages.map fun (usage, what) =>
      s!"  {Style.verb.paint colours (padRight usageWidth usage)} " ++
        Style.remark.paint colours what

end Report

end Stagecraft
