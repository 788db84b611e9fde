import Stagecraft.Definition.Basic
import Stagecraft.Ron.Decode

/-!
# Reading definitions

The readers of the parts of a definition.  What an author leaves out has a standard value, unless
there is none that would make sense.
-/

namespace Stagecraft

open Ron

/-- Read an optional text. -/
def readOptionText (e : Extensions) : Reader (Option String) := readOption e readText

/-- Read a point.  Its record is called by the given name. -/
def Point.reader (name : String) (e : Extensions) : Reader Point :=
  readRecord e name ["x", "y"] fun f => do
    let x ← f.required "x" readSingle
    let y ← f.required "y" readSingle
    some ⟨x, y⟩

/-- Read a target. -/
def Target.reader : Reader Target :=
  readVariant fun limit form =>
    match form with
    | .plain "Owner" => some .owner
    | .plain "Scene" => some .scene
    | .plain "World" => some .world
    | .single "Actor" id => (readPart limit readText id).map .actor
    | _ => none

namespace Definition

/-- Read a point of a definition. -/
def readPoint (e : Extensions) : Reader Point := Point.reader "PointDef" e

/-- Read the properties of something. -/
def readProperties : Reader (Table String String) := fun limit node =>
  (readMap readText limit node).map Table.ofList

/-- Read a target that may be left out. -/
def targetOf (f : Fields) (name : String) : Option Target :=
  f.withDefault name Target.reader .owner

/-- Read an optional text that may be left out. -/
def optionTextOf (e : Extensions) (f : Fields) (name : String) : Option (Option String) :=
  f.withDefault name (readOptionText e) none

end Definition

open Definition

/-- Read a condition.  The fuel counts levels of conditions, of which there are no more than levels
of nesting. -/
def Condition.readerOf (standard : Bool) (e : Extensions) : Nat → Reader Condition
  | 0 => fun _ _ => none
  | fuel + 1 =>
    let target := fun (f : Fields) =>
      if standard then targetOf f "target" else f.required "target" Target.reader
    readVariant fun limit form =>
      match form with
      | .fields "StateIs" entries => readParts e limit entries ["target", "state"] fun f => do
        let target ← target f
        let state ← optionTextOf e f "state"
        some (.stateIs target state)
      | .fields "PropertyIs" entries =>
        readParts e limit entries ["target", "name", "value"] fun f => do
          let target ← target f
          let name ← f.required "name" readText
          let value ← optionTextOf e f "value"
          some (.propertyIs target name value)
      | .fields "Visible" entries => readParts e limit entries ["actor"] fun f =>
        (optionTextOf e f "actor").map .visible
      | .fields "PlayerInside" entries => readParts e limit entries ["actor"] fun f =>
        (optionTextOf e f "actor").map .playerInside
      | .single "Not" part => (readPart limit (Condition.readerOf standard e fuel) part).map .not
      | .single "All" part =>
        (readPart limit (readList (Condition.readerOf standard e fuel)) part).map .all
      | .single "Any" part =>
        (readPart limit (readList (Condition.readerOf standard e fuel)) part).map .any
      | _ => none

/-- Read the key and the body of a verb, given how to read one instruction. -/
def VerbDefinition.readerOf (e : Extensions) (each : Reader Instruction) :
    Reader VerbDefinition :=
  readRecord e "VerbDef" ["id", "state", "target", "actions"] fun f => do
    let id ← f.required "id" readText
    let state ← optionTextOf e f "state"
    let target ← optionTextOf e f "target"
    let body ← f.withDefault "actions" (readList each) []
    some ⟨⟨id, state, target⟩, body⟩

/-- Read an instruction.  The fuel counts levels of instructions, of which there are no more than
levels of nesting. -/
def Instruction.readerOf (e : Extensions) : Nat → Reader Instruction
  | 0 => fun _ _ => none
  | fuel + 1 => readVariant fun limit form =>
    match form with
    | .fields name entries =>
      let parts (known : List String) (build : Fields → Option Instruction) :=
        readParts e limit entries known build
      let actorOf (f : Fields) := optionTextOf e f "actor"
      match name with
      | "SetState" => parts ["target", "state"] fun f => do
        let target ← targetOf f "target"
        let state ← optionTextOf e f "state"
        some (.setState target state)
      | "SetProperty" => parts ["target", "name", "value"] fun f => do
        let target ← targetOf f "target"
        let name ← f.required "name" readText
        let value ← optionTextOf e f "value"
        some (.setProperty target name value)
      | "SetActorAttr" => parts ["actor", "visible", "interaction", "layer"] fun f => do
        let actor ← actorOf f
        let visible ← f.withDefault "visible" (readOption e readBool) none
        let interaction ← f.withDefault "interaction" (readOption e readBool) none
        let layer ← optionTextOf e f "layer"
        some (.setActorAttr actor visible interaction layer)
      | "Position" => parts ["actor", "pos"] fun f => do
        let actor ← actorOf f
        let pos ← f.required "pos" (readPoint e)
        some (.position actor pos)
      | "Goto" => parts ["actor", "pos", "speed"] fun f => do
        let actor ← actorOf f
        let pos ← f.required "pos" (readPoint e)
        let speed ← f.withDefault "speed" (readOption e readSingle) none
        some (.goto actor pos speed)
      | "PlayAnimation" => parts ["actor", "animation", "duration", "wait"] fun f => do
        let actor ← actorOf f
        let animation ← f.required "animation" readText
        let duration ← f.withDefault "duration" readSingle 0
        let waits ← f.withDefault "wait" readBool false
        some (.playAnimation actor animation duration waits)
      | "PlaySound" => parts ["actor", "sound"] fun f => do
        let actor ← actorOf f
        let sound ← f.required "sound" readText
        some (.playSound actor sound)
      | "Say" => parts ["actor", "text", "duration", "wait"] fun f => do
        let actor ← actorOf f
        let text ← f.required "text" readText
        let duration ← f.withDefault "duration" (readOption e readSingle) none
        let waits ← f.withDefault "wait" readBool true
        some (.say actor text duration waits)
      | "Wait" => parts ["seconds"] fun f => (f.required "seconds" readSingle).map .wait
      | "ShowDialog" => parts ["actor", "dialog"] fun f => do
        let actor ← actorOf f
        let dialog ← f.required "dialog" readText
        some (.showDialog actor dialog)
      | "Conditional" => parts ["condition", "actions"] fun f => do
        let condition ← f.required "condition" (Condition.readerOf true e nestingLimit)
        let body ← f.withDefault "actions" (readList (Instruction.readerOf e fuel)) []
        some (.conditional condition body)
      | "RunVerb" => parts ["owner", "verb", "target"] fun f => do
        let whose ← targetOf f "owner"
        let verb ← f.required "verb" readText
        let target ← optionTextOf e f "target"
        some (.runVerb whose verb target)
      | "CancelVerb" => parts ["owner", "verb", "target"] fun f => do
        let whose ← targetOf f "owner"
        let verb ← f.required "verb" readText
        let target ← optionTextOf e f "target"
        some (.cancelVerb whose verb target)
      | "AddVerb" => parts ["owner", "verb"] fun f => do
        let whose ← targetOf f "owner"
        let verb ← f.required "verb" (VerbDefinition.readerOf e (Instruction.readerOf e fuel))
        some (.addVerb whose verb.key verb.body)
      | "ChangeScene" => parts ["scene"] fun f => (f.required "scene" readText).map .changeScene
      | "SetPlayer" => parts ["actor"] fun f => (actorOf f).map .setPlayer
      | "RemoveActor" => parts ["actor"] fun f => (f.required "actor" readText).map .removeActor
      | _ => none
    | _ => none

namespace Definition

/-- Read a verb. -/
def readVerb (e : Extensions) : Reader VerbDefinition :=
  VerbDefinition.readerOf e (Instruction.readerOf e nestingLimit)

/-- Read a layer. -/
def readLayer (e : Extensions) : Reader LayerDefinition :=
  readRecord e "LayerDef" ["name", "visible", "dynamic"] fun f => do
    let name ← f.required "name" readText
    let visible ← f.withDefault "visible" readBool true
    let dynamic ← f.withDefault "dynamic" readBool false
    some ⟨name, visible, dynamic⟩

/-- Read an option of a dialog. -/
def readDialogOption (e : Extensions) : Reader OptionDefinition :=
  readRecord e "DialogOptionDef" ["text", "verb", "once"] fun f => do
    let text ← f.required "text" readText
    let verb ← optionTextOf e f "verb"
    let once ← f.withDefault "once" readBool false
    some ⟨text, verb, once⟩

/-- Read a dialog. -/
def readDialog (e : Extensions) : Reader DialogDefinition :=
  readRecord e "DialogDef" ["id", "options"] fun f => do
    let id ← f.required "id" readText
    let options ← f.withDefault "options" (readList (readDialogOption e)) []
    some ⟨id, options⟩

/-- Read a sound. -/
def readSound (e : Extensions) : Reader SoundDefinition :=
  readRecord e "SoundDef" ["id", "file", "looping", "volume"] fun f => do
    let id ← f.required "id" readText
    let file ← f.required "file" readText
    let looping ← f.withDefault "looping" readBool false
    let volume ← f.withDefault "volume" readSingle 1
    some ⟨id, file, looping, volume⟩

/-- Read an actor. -/
def readActor (e : Extensions) : Reader ActorDefinition :=
  readRecord e "ActorDef"
    ["id", "desc", "layer", "pos", "bbox", "z_index", "state", "visible", "interaction", "verbs",
      "dialogs", "sounds", "properties"] fun f => do
    let id ← f.required "id" readText
    let desc ← f.withDefault "desc" readText ""
    let layer ← f.withDefault "layer" readText "main"
    let pos ← f.withDefault "pos" (readPoint e) .origin
    let corners ← f.withDefault "bbox" (readList (readPoint e)) []
    let zIndex ← f.withDefault "z_index" readSingle 0
    let state ← optionTextOf e f "state"
    let visible ← f.withDefault "visible" readBool true
    let interaction ← f.withDefault "interaction" readBool true
    let verbs ← f.withDefault "verbs" (readList (readVerb e)) []
    let dialogs ← f.withDefault "dialogs" (readList (readDialog e)) []
    let sounds ← f.withDefault "sounds" (readList (readSound e)) []
    let properties ← f.withDefault "properties" readProperties ∅
    some
      { id, desc, layer, pos, corners, zIndex, state, visible, interaction, verbs, dialogs, sounds,
        properties }

/-- Read a scene. -/
def readScene (e : Extensions) : Reader SceneDefinition :=
  readRecord e "SceneDef" ["id", "state", "layers", "actors", "verbs", "properties"] fun f => do
    let id ← f.required "id" readText
    let state ← optionTextOf e f "state"
    let layers ← f.withDefault "layers" (readList (readLayer e)) []
    let actors ← f.withDefault "actors" (readList (readActor e)) []
    let verbs ← f.withDefault "verbs" (readList (readVerb e)) []
    let properties ← f.withDefault "properties" readProperties ∅
    some { id, state, layers, actors, verbs, properties }

/-- Read how a game begins. -/
def readGame (e : Extensions) : Reader GameDefinition :=
  readRecord e "GameDef" ["title", "slug", "version", "initial_scene", "player"] fun f => do
    let title ← f.required "title" readText
    let slug ← f.withDefault "slug" readText ""
    let version ← f.withDefault "version" readText ""
    let initialScene ← f.required "initial_scene" readText
    let player ← optionTextOf e f "player"
    some { title, slug, version, initialScene, player }

/-- Read a whole definition. -/
def reader (e : Extensions) : Reader Definition :=
  readRecord e "WorldDef" ["game", "scenes", "verbs", "properties"] fun f => do
    let game ← f.required "game" (readGame e)
    let scenes ← f.withDefault "scenes" (readList (readScene e)) []
    let verbs ← f.withDefault "verbs" (readList (readVerb e)) []
    let properties ← f.withDefault "properties" readProperties ∅
    some { game, scenes, verbs, properties }

/-- The definition that a text in object notation writes. -/
def parse? (text : String) : Option Definition := Document.read text reader

end Definition

end Stagecraft
