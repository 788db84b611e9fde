import Stagecraft.Definition.Decode
import Stagecraft.World.Basic

/-!
# Reading stored worlds

The readers of the stored form of a world.  Nothing that is stored has a standard value, except that
an absent optional value may be left out; the cursor of a script and the progress of an action may
not, since without them a verb in the middle of its run would look like one that has not begun.
-/

namespace Stagecraft

open Ron Definition

namespace Save

/-- Read an optional text that may be left out. -/
def textOf? (e : Extensions) (f : Fields) (name : String) : Option (Option String) :=
  optionTextOf e f name

/-- Read a point of a stored world. -/
def readPoint (e : Extensions) : Reader Point := Point.reader "Vec2" e

/-- Read an owner. -/
def readOwner (e : Extensions) : Reader Owner :=
  readVariant fun limit form =>
    match form with
    | .plain "World" => some .world
    | .single "Scene" id => (readPart limit readText id).map .scene
    | .fields "Actor" entries => readParts e limit entries ["scene", "actor"] fun f => do
      let scene ← f.required "scene" readText
      let actor ← f.required "actor" readText
      some (.actor scene actor)
    | _ => none

/-- Read a key. -/
def readKey (e : Extensions) : Reader Key :=
  readRecord e "VerbKey" ["id", "state", "target"] fun f => do
    let id ← f.required "id" readText
    let state ← textOf? e f "state"
    let target ← textOf? e f "target"
    some ⟨id, state, target⟩

/-- Read a script, given how to read one action. -/
def readScriptOf (e : Extensions) (each : Reader Action) : Reader (Script Action) :=
  readRecord e "Script" ["actions", "ip", "suspended"] fun f => do
    let actions ← f.required "actions" (readList each)
    let ip ← f.required "ip" (readOption e readCount)
    let suspended ← f.required "suspended" readBool
    some ⟨actions, ip, suspended⟩

/-- Read a verb, given how to read one action. -/
def readVerbOf (e : Extensions) (each : Reader Action) : Reader Verb :=
  readRecord e "Verb" ["id", "state", "target", "script"] fun f => do
    let id ← f.required "id" readText
    let state ← textOf? e f "state"
    let target ← textOf? e f "target"
    let script ← f.required "script" (readScriptOf e each)
    some ⟨⟨id, state, target⟩, script⟩

/-- Read an action with its progress.  The fuel counts levels of actions, of which there are no more
than levels of nesting. -/
def readActionOf (e : Extensions) : Nat → Reader Action
  | 0 => fun _ _ => none
  | fuel + 1 => readVariant fun limit form =>
    match form with
    | .fields name entries =>
      let parts (known : List String) (build : Fields → Option Action) :=
        readParts e limit entries known build
      let actorOf (f : Fields) := textOf? e f "actor"
      match name with
      | "SetState" => parts ["target", "state"] fun f => do
        let target ← f.required "target" Target.reader
        let state ← textOf? e f "state"
        some (.setState target state)
      | "SetProperty" => parts ["target", "name", "value"] fun f => do
        let target ← f.required "target" Target.reader
        let name ← f.required "name" readText
        let value ← textOf? e f "value"
        some (.setProperty target name value)
      | "SetActorAttr" => parts ["actor", "visible", "interaction", "layer"] fun f => do
        let actor ← actorOf f
        let visible ← f.withDefault "visible" (readOption e readBool) none
        let interaction ← f.withDefault "interaction" (readOption e readBool) none
        let layer ← textOf? e f "layer"
        some (.setActorAttr actor visible interaction layer)
      | "Position" => parts ["actor", "pos"] fun f => do
        let actor ← actorOf f
        let pos ← f.required "pos" (readPoint e)
        some (.position actor pos)
      | "Goto" => parts ["actor", "pos", "speed", "origin"] fun f => do
        let actor ← actorOf f
        let pos ← f.required "pos" (readPoint e)
        let speed ← f.withDefault "speed" (readOption e readSingle) none
        let origin ← f.required "origin" (readOptionRecord e "Vec2" (readPoint e))
        some (.goto actor pos speed origin)
      | "PlayAnimation" =>
        parts ["actor", "animation", "duration", "wait", "elapsed"] fun f => do
          let actor ← actorOf f
          let animation ← f.required "animation" readText
          let duration ← f.required "duration" readSingle
          let waits ← f.required "wait" readBool
          let elapsed ← f.required "elapsed" readSingle
          some (.playAnimation actor animation duration waits elapsed)
      | "PlaySound" => parts ["actor", "sound"] fun f => do
        let actor ← actorOf f
        let sound ← f.required "sound" readText
        some (.playSound actor sound)
      | "Say" => parts ["actor", "text", "duration", "wait", "elapsed"] fun f => do
        let actor ← actorOf f
        let text ← f.required "text" readText
        let duration ← f.withDefault "duration" (readOption e readSingle) none
        let waits ← f.required "wait" readBool
        let elapsed ← f.required "elapsed" readSingle
        some (.say actor text duration waits elapsed)
      | "Wait" => parts ["seconds", "elapsed"] fun f => do
        let seconds ← f.required "seconds" readSingle
        let elapsed ← f.required "elapsed" readSingle
        some (.wait seconds elapsed)
      | "ShowDialog" => parts ["actor", "dialog"] fun f => do
        let actor ← actorOf f
        let dialog ← f.required "dialog" readText
        some (.showDialog actor dialog)
      | "Conditional" => parts ["condition", "script"] fun f => do
        let condition ← f.required "condition" (Condition.readerOf false e nestingLimit)
        let script ← f.required "script" (readScriptOf e (readActionOf e fuel))
        some (.conditional condition script)
      | "RunVerb" => parts ["owner", "verb", "target", "bound", "script"] fun f => do
        let whose ← f.required "owner" Target.reader
        let verb ← f.required "verb" readText
        let target ← textOf? e f "target"
        let bound ← f.required "bound" (readOption e (readOwner e))
        let script ← f.required "script" (readScriptOf e (readActionOf e fuel))
        some (.runVerb whose verb target bound script)
      | "CancelVerb" => parts ["owner", "verb", "target"] fun f => do
        let whose ← f.required "owner" Target.reader
        let verb ← f.required "verb" readText
        let target ← textOf? e f "target"
        some (.cancelVerb whose verb target)
      | "AddVerb" => parts ["owner", "verb"] fun f => do
        let whose ← f.required "owner" Target.reader
        let verb ← f.required "verb" (readVerbOf e (readActionOf e fuel))
        some (.addVerb whose verb.key verb.script)
      | "ChangeScene" => parts ["scene"] fun f => (f.required "scene" readText).map .changeScene
      | "SetPlayer" => parts ["actor"] fun f => (actorOf f).map .setPlayer
      | "RemoveActor" => parts ["actor"] fun f => (f.required "actor" readText).map .removeActor
      | _ => none
    | _ => none

/-- Read a verb. -/
def readVerb (e : Extensions) : Reader Verb := readVerbOf e (readActionOf e nestingLimit)

/-- Read a verb table. -/
def readVerbs (e : Extensions) : Reader VerbTable := fun limit node =>
  (readList (readVerb e) limit node).map VerbTable.ofVerbs

/-- Read an option of a dialog. -/
def readDialogOption (e : Extensions) : Reader DialogOption :=
  readRecord e "DialogOption" ["text", "verb", "once", "chosen"] fun f => do
    let text ← f.required "text" readText
    let verb ← textOf? e f "verb"
    let once ← f.required "once" readBool
    let chosen ← f.required "chosen" readBool
    some ⟨text, verb, once, chosen⟩

/-- Read a dialog. -/
def readDialog (e : Extensions) : Reader Dialog :=
  readRecord e "Dialog" ["id", "options"] fun f => do
    let id ← f.required "id" readText
    let options ← f.required "options" (readList (readDialogOption e))
    some ⟨id, options⟩

/-- Read a sound. -/
def readSound (e : Extensions) : Reader Sound :=
  readRecord e "SoundFx" ["id", "file", "looping", "volume"] fun f => do
    let id ← f.required "id" readText
    let file ← f.required "file" readText
    let looping ← f.required "looping" readBool
    let volume ← f.required "volume" readSingle
    some ⟨id, file, looping, volume⟩

/-- Read a region. -/
def readRegion (e : Extensions) : Reader Polygon :=
  readRecord e "Polygon" ["vertices", "position"] fun f => do
    let vertices ← f.required "vertices" (readList (readPoint e))
    let position ← f.required "position" (readPoint e)
    some ⟨vertices, position⟩

/-- Read an actor. -/
def readActor (e : Extensions) : Reader Actor :=
  readRecord e "Actor"
    ["id", "desc", "scene", "state", "verbs", "bbox", "layer", "z_index", "visible", "interaction",
      "properties", "dialogs", "sounds", "playing_sound", "animation", "player_inside"] fun f => do
    let id ← f.required "id" readText
    let desc ← f.required "desc" readText
    let scene ← textOf? e f "scene"
    let state ← textOf? e f "state"
    let verbs ← f.required "verbs" (readVerbs e)
    let region ← f.required "bbox" (readRegion e)
    let layer ← f.required "layer" readText
    let zIndex ← f.required "z_index" readSingle
    let visible ← f.required "visible" readBool
    let interaction ← f.required "interaction" readBool
    let properties ← f.required "properties" readProperties
    let dialogs ← f.required "dialogs" (readList (readDialog e))
    let sounds ← f.required "sounds" (readList (readSound e))
    let playingSound ← textOf? e f "playing_sound"
    let animation ← textOf? e f "animation"
    let playerInside ← f.required "player_inside" readBool
    some
      { id, desc, scene, state, verbs, region, layer, zIndex, visible, interaction, properties,
        dialogs, sounds, playingSound, animation, playerInside }

/-- Read a layer. -/
def readLayer (e : Extensions) : Reader Layer :=
  readRecord e "SceneLayer" ["name", "visible", "dynamic", "actors"] fun f => do
    let name ← f.required "name" readText
    let visible ← f.required "visible" readBool
    let dynamic ← f.required "dynamic" readBool
    let actors ← f.required "actors" (readList readText)
    some ⟨name, visible, dynamic, actors⟩

/-- Read a scene. -/
def readScene (e : Extensions) : Reader Scene :=
  readRecord e "Scene" ["id", "state", "verbs", "actors", "layers", "properties"] fun f => do
    let id ← f.required "id" readText
    let state ← textOf? e f "state"
    let verbs ← f.required "verbs" (readVerbs e)
    let actors ← f.required "actors" (readMap (readActor e))
    let layers ← f.required "layers" (readList (readLayer e))
    let properties ← f.required "properties" readProperties
    some { id, state, verbs, actors := Roster.ofList actors, layers, properties }

/-- Read a handle. -/
def readHandle (e : Extensions) : Reader Handle :=
  readRecord e "VerbHandle" ["owner", "key"] fun f => do
    let owner ← f.required "owner" (readOwner e)
    let key ← f.required "key" (readKey e)
    some ⟨owner, key⟩

/-- Read an open dialog. -/
def readOpenDialog (e : Extensions) : Reader OpenDialog :=
  readRecord e "ActiveDialog" ["handle", "scene", "actor", "dialog"] fun f => do
    let handle ← f.required "handle" (readHandle e)
    let scene ← f.required "scene" readText
    let actor ← f.required "actor" readText
    let dialog ← f.required "dialog" readText
    some ⟨handle, scene, actor, dialog⟩

/-- Read a world. -/
def readWorld (e : Extensions) : Reader World :=
  readRecord e "World"
    ["title", "scenes", "current_scene", "player", "state", "verbs", "properties", "active_dialog",
      "elapsed", "version"] fun f => do
    let title ← f.required "title" readText
    let scenes ← f.required "scenes" (readMap (readScene e))
    let currentScene ← textOf? e f "current_scene"
    let player ← textOf? e f "player"
    let state ← textOf? e f "state"
    let verbs ← f.required "verbs" (readVerbs e)
    let properties ← f.required "properties" readProperties
    let openDialog ←
      f.withDefault "active_dialog" (readOptionRecord e "ActiveDialog" (readOpenDialog e)) none
    let elapsed ← f.required "elapsed" readDouble
    let version ← f.required "version" readText
    some
      { title, scenes := Table.ofList scenes, currentScene, player, state, verbs, properties,
        openDialog, elapsed, version }

end Save

/-- The world that a stored text holds. -/
def World.parse? (text : String) : Option World := Document.read text Save.readWorld

end Stagecraft
