import Stagecraft.Ron.Node
import Stagecraft.World.Basic

/-!
# The stored form of a world

A world is stored as a tree in which every field is named, in a fixed order.  Verbs are stored in
the order of their keys, actors in the order in which they came, and every cursor and every bit of
progress is stored with the action it belongs to.
-/

namespace Stagecraft

open Ron

namespace Save

/-- An optional text. -/
def optionText : Option String → Tree := Node.option .text

/-- A 32-bit number. -/
def single (x : Single) : Tree := .number (.single x)

/-- A list. -/
def list {α : Type} (each : α → Tree) (items : List α) : Tree := .list (items.map each)

/-- A map from texts. -/
def textMap {α : Type} (each : α → Tree) (entries : List (String × α)) : Tree :=
  .map (entries.map fun (key, value) => (.text key, each value))

end Save

open Save

/-- The stored form of a point. -/
def Point.toTree (p : Point) : Tree := .struct [("x", single p.x), ("y", single p.y)]

/-- The stored form of a target. -/
def Target.toTree : Target → Tree
  | .owner => .word "Owner"
  | .actor id => .variant "Actor" (.text id)
  | .scene => .word "Scene"
  | .world => .word "World"

/-- The stored form of an owner. -/
def Owner.toTree : Owner → Tree
  | .world => .word "World"
  | .scene id => .variant "Scene" (.text id)
  | .actor home id => .structVariant "Actor" [("scene", .text home), ("actor", .text id)]

/-- The fields of a key. -/
def Key.toFields (k : Key) : List (String × Tree) :=
  [("id", .text k.id), ("state", optionText k.state), ("target", optionText k.target)]

mutual

/-- The stored form of a condition. -/
def Condition.toTree : Condition → Tree
  | .stateIs target state =>
    .structVariant "StateIs" [("target", target.toTree), ("state", optionText state)]
  | .propertyIs target name value =>
    .structVariant "PropertyIs"
      [("target", target.toTree), ("name", .text name), ("value", optionText value)]
  | .visible actor => .structVariant "Visible" [("actor", optionText actor)]
  | .playerInside actor => .structVariant "PlayerInside" [("actor", optionText actor)]
  | .not inner => .variant "Not" inner.toTree
  | .all list => .variant "All" (.list (Condition.toTrees list))
  | .any list => .variant "Any" (.list (Condition.toTrees list))

/-- The stored forms of a list of conditions. -/
def Condition.toTrees : List Condition → List Tree
  | [] => []
  | condition :: rest => condition.toTree :: Condition.toTrees rest

end

mutual

/-- The stored form of an action with its progress. -/
def Action.toTree : Action → Tree
  | .setState target state =>
    .structVariant "SetState" [("target", target.toTree), ("state", optionText state)]
  | .setProperty target name value =>
    .structVariant "SetProperty"
      [("target", target.toTree), ("name", .text name), ("value", optionText value)]
  | .setActorAttr actor visible interaction layer =>
    .structVariant "SetActorAttr"
      [("actor", optionText actor), ("visible", Node.option .bool visible),
        ("interaction", Node.option .bool interaction), ("layer", optionText layer)]
  | .position actor pos =>
    .structVariant "Position" [("actor", optionText actor), ("pos", pos.toTree)]
  | .goto actor pos speed origin =>
    .structVariant "Goto"
      [("actor", optionText actor), ("pos", pos.toTree), ("speed", Node.option single speed),
        ("origin", Node.option Point.toTree origin)]
  | .playAnimation actor animation duration waits elapsed =>
    .structVariant "PlayAnimation"
      [("actor", optionText actor), ("animation", .text animation), ("duration", single duration),
        ("wait", .bool waits), ("elapsed", single elapsed)]
  | .playSound actor sound =>
    .structVariant "PlaySound" [("actor", optionText actor), ("sound", .text sound)]
  | .say actor text duration waits elapsed =>
    .structVariant "Say"
      [("actor", optionText actor), ("text", .text text),
        ("duration", Node.option single duration), ("wait", .bool waits),
        ("elapsed", single elapsed)]
  | .wait seconds elapsed =>
    .structVariant "Wait" [("seconds", single seconds), ("elapsed", single elapsed)]
  | .showDialog actor dialog =>
    .structVariant "ShowDialog" [("actor", optionText actor), ("dialog", .text dialog)]
  | .conditional condition script =>
    .structVariant "Conditional" [("condition", condition.toTree), ("script", script.toTree)]
  | .runVerb whose verb target bound script =>
    .structVariant "RunVerb"
      [("owner", whose.toTree), ("verb", .text verb), ("target", optionText target),
        ("bound", Node.option Owner.toTree bound), ("script", script.toTree)]
  | .cancelVerb whose verb target =>
    .structVariant "CancelVerb"
      [("owner", whose.toTree), ("verb", .text verb), ("target", optionText target)]
  | .addVerb whose key script =>
    .structVariant "AddVerb"
      [("owner", whose.toTree),
        ("verb", .struct (key.toFields ++ [("script", script.toTree)]))]
  | .changeScene scene => .structVariant "ChangeScene" [("scene", .text scene)]
  | .setPlayer actor => .structVariant "SetPlayer" [("actor", optionText actor)]
  | .removeActor actor => .structVariant "RemoveActor" [("actor", .text actor)]

/-- The stored form of a script with its cursor. -/
def Script.toTree : Script Action → Tree
  | ⟨actions, ip, suspended⟩ =>
    .struct
      [("actions", .list (Action.toTrees actions)),
        ("ip", Node.option (fun ip => .number (.natural ip)) ip), ("suspended", .bool suspended)]

/-- The stored forms of a list of actions. -/
def Action.toTrees : List Action → List Tree
  | [] => []
  | action :: rest => action.toTree :: Action.toTrees rest

end

/-- The stored form of a verb. -/
def Verb.toTree (v : Verb) : Tree := .struct (v.key.toFields ++ [("script", v.script.toTree)])

/-- The stored form of a verb table. -/
def VerbTable.toTree (t : VerbTable) : Tree := list Verb.toTree t.toVerbs

/-- The stored form of a dialog. -/
def Dialog.toTree (d : Dialog) : Tree :=
  .struct
    [("id", .text d.id),
      ("options", list (fun (o : DialogOption) => .struct
        [("text", .text o.text), ("verb", optionText o.verb), ("once", .bool o.once),
          ("chosen", .bool o.chosen)]) d.options)]

/-- The stored form of a sound. -/
def Sound.toTree (s : Sound) : Tree :=
  .struct
    [("id", .text s.id), ("file", .text s.file), ("looping", .bool s.looping),
      ("volume", single s.volume)]

/-- The stored form of an actor. -/
def Actor.toTree (a : Actor) : Tree :=
  .struct
    [("id", .text a.id), ("desc", .text a.desc), ("scene", optionText a.scene),
      ("state", optionText a.state), ("verbs", VerbTable.toTree a.verbs),
      ("bbox", .struct
        [("vertices", list Point.toTree a.region.vertices),
          ("position", a.region.position.toTree)]),
      ("layer", .text a.layer), ("z_index", single a.zIndex), ("visible", .bool a.visible),
      ("interaction", .bool a.interaction), ("properties", textMap .text a.properties.entries),
      ("dialogs", list Dialog.toTree a.dialogs), ("sounds", list Sound.toTree a.sounds),
      ("playing_sound", optionText a.playingSound), ("animation", optionText a.animation),
      ("player_inside", .bool a.playerInside)]

/-- The stored form of a layer. -/
def Layer.toTree (l : Layer) : Tree :=
  .struct
    [("name", .text l.name), ("visible", .bool l.visible), ("dynamic", .bool l.dynamic),
      ("actors", list .text l.actors)]

/-- The stored form of a scene. -/
def Scene.toTree (s : Scene) : Tree :=
  .struct
    [("id", .text s.id), ("state", optionText s.state), ("verbs", VerbTable.toTree s.verbs),
      ("actors", textMap Actor.toTree s.actors.entries), ("layers", list Layer.toTree s.layers),
      ("properties", textMap .text s.properties.entries)]

/-- The stored form of an open dialog. -/
def OpenDialog.toTree (d : OpenDialog) : Tree :=
  .struct
    [("handle", .struct
        [("owner", d.handle.owner.toTree), ("key", .struct d.handle.key.toFields)]),
      ("scene", .text d.scene), ("actor", .text d.actor), ("dialog", .text d.dialog)]

/-- The stored form of a world. -/
def World.toTree (w : World) : Tree :=
  .struct
    [("title", .text w.title), ("scenes", textMap Scene.toTree w.scenes.entries),
      ("current_scene", optionText w.currentScene), ("player", optionText w.player),
      ("state", optionText w.state), ("verbs", VerbTable.toTree w.verbs),
      ("properties", textMap .text w.properties.entries),
      ("active_dialog", Node.option OpenDialog.toTree w.openDialog),
      ("elapsed", .number (.double w.elapsed)), ("version", .text w.version)]

end Stagecraft
