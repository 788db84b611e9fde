import Stagecraft.Definition.Basic
import Stagecraft.Save.Encode

/-!
# The written form of a definition

A definition is written as a tree in which every field is named, those with a standard value
included.
-/

namespace Stagecraft

open Ron Save

mutual

/-- The written form of an instruction. -/
def Instruction.toTree : Instruction → Tree
  | .setState target state =>
    .structVariant "SetState" [("target", target.toTree), ("state", optionText state)]
  | .setProperty target name value =>
    .structVariant "SetProperty"
      [("target", target.toTree), ("name", .text name), ("value", optionText value)]
  | .setActorAttr actor visible interaction layer =>
    .structVariant "SetActorAttr"
      [("actor", optionText actor), ("visible", Node.option .bool visible),
        ("interaction", Node.option .bool interaction), ("layer", optionText layer)]
  | .position actor pos =>
    .structVariant "Position" [("actor", optionText actor), ("pos", pos.toTree)]
  | .goto actor pos speed =>
    .structVariant "Goto"
      [("actor", optionText actor), ("pos", pos.toTree), ("speed", Node.option single speed)]
  | .playAnimation actor animation duration waits =>
    .structVariant "PlayAnimation"
      [("actor", optionText actor), ("animation", .text animation), ("duration", single duration),
        ("wait", .bool waits)]
  | .playSound actor sound =>
    .structVariant "PlaySound" [("actor", optionText actor), ("sound", .text sound)]
  | .say actor text duration waits =>
    .structVariant "Say"
      [("actor", optionText actor), ("text", .text text),
        ("duration", Node.option single duration), ("wait", .bool waits)]
  | .wait seconds => .structVariant "Wait" [("seconds", single seconds)]
  | .showDialog actor dialog =>
    .structVariant "ShowDialog" [("actor", optionText actor), ("dialog", .text dialog)]
  | .conditional condition body =>
    .structVariant "Conditional"
      [("condition", condition.toTree), ("actions", .list (Instruction.toTrees body))]
  | .runVerb whose verb target =>
    .structVariant "RunVerb"
      [("owner", whose.toTree), ("verb", .text verb), ("target", optionText target)]
  | .cancelVerb whose verb target =>
    .structVariant "CancelVerb"
      [("owner", whose.toTree), ("verb", .text verb), ("target", optionText target)]
  | .addVerb whose key body =>
    .structVariant "AddVerb"
      [("owner", whose.toTree),
        ("verb", .struct (key.toFields ++ [("actions", .list (Instruction.toTrees body))]))]
  | .changeScene scene => .structVariant "ChangeScene" [("scene", .text scene)]
  | .setPlayer actor => .structVariant "SetPlayer" [("actor", optionText actor)]
  | .removeActor actor => .structVariant "RemoveActor" [("actor", .text actor)]

/-- The written forms of a list of instructions. -/
def Instruction.toTrees : List Instruction → List Tree
  | [] => []
  | instruction :: rest => instruction.toTree :: Instruction.toTrees rest

end

/-- The written form of a verb definition. -/
def VerbDefinition.toTree (d : VerbDefinition) : Tree :=
  .struct (d.key.toFields ++ [("actions", .list (Instruction.toTrees d.body))])

/-- The written form of a layer definition. -/
def LayerDefinition.toTree (d : LayerDefinition) : Tree :=
  .struct [("name", .text d.name), ("visible", .bool d.visible), ("dynamic", .bool d.dynamic)]

/-- The written form of a dialog definition. -/
def DialogDefinition.toTree (d : DialogDefinition) : Tree :=
  .struct
    [("id", .text d.id),
      ("options", list (fun (o : OptionDefinition) => .struct
        [("text", .text o.text), ("verb", optionText o.verb), ("once", .bool o.once)]) d.options)]

/-- The written form of a sound definition. -/
def SoundDefinition.toTree (d : SoundDefinition) : Tree :=
  .struct
    [("id", .text d.id), ("file", .text d.file), ("looping", .bool d.looping),
      ("volume", single d.volume)]

/-- The written form of an actor definition. -/
def ActorDefinition.toTree (d : ActorDefinition) : Tree :=
  .struct
    [("id", .text d.id), ("desc", .text d.desc), ("layer", .text d.layer), ("pos", d.pos.toTree),
      ("bbox", list Point.toTree d.corners), ("z_index", single d.zIndex),
      ("state", optionText d.state), ("visible", .bool d.visible),
      ("interaction", .bool d.interaction), ("verbs", list VerbDefinition.toTree d.verbs),
      ("dialogs", list DialogDefinition.toTree d.dialogs),
      ("sounds", list SoundDefinition.toTree d.sounds),
      ("properties", textMap .text d.properties.entries)]

/-- The written form of a scene definition. -/
def SceneDefinition.toTree (d : SceneDefinition) : Tree :=
  .struct
    [("id", .text d.id), ("state", optionText d.state),
      ("layers", list LayerDefinition.toTree d.layers),
      ("actors", list ActorDefinition.toTree d.actors),
      ("verbs", list VerbDefinition.toTree d.verbs),
      ("properties", textMap .text d.properties.entries)]

/-- The written form of a game definition. -/
def GameDefinition.toTree (d : GameDefinition) : Tree :=
  .struct
    [("title", .text d.title), ("slug", .text d.slug), ("version", .text d.version),
      ("initial_scene", .text d.initialScene), ("player", optionText d.player)]

/-- The written form of a definition. -/
def Definition.toTree (d : Definition) : Tree :=
  .struct
    [("game", d.game.toTree), ("scenes", list SceneDefinition.toTree d.scenes),
      ("verbs", list VerbDefinition.toTree d.verbs),
      ("properties", textMap .text d.properties.entries)]

end Stagecraft
