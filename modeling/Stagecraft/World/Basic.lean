import Stagecraft.World.Scene

/-!
# The world

The world is everything that is kept when a game is saved: the scenes, which of them is current, who
the player is, the global verbs, the open dialog and the time that has passed.  What a verb can be
about (the world, a scene, an actor) is looked up and changed through its owner.
-/

namespace Stagecraft

/-- The version of the program, which is stored in every saved game. -/
def version : String := "0.1.0"

/-- The dialog on the screen, and the verb that waits for the player's choice. -/
structure OpenDialog where
  handle : Handle
  scene : String
  actor : String
  dialog : String
deriving DecidableEq, Inhabited

/-- Everything that is kept of a running game. -/
structure World where
  title : String
  scenes : Table String Scene
  currentScene : Option String
  player : Option String
  state : Option String
  verbs : VerbTable
  properties : Table String String
  openDialog : Option OpenDialog
  elapsed : Double
  version : String
deriving Inhabited

namespace World

/-- A world without anything in it. -/
def empty : World := ⟨"", ∅, none, none, none, ∅, ∅, none, 0, Stagecraft.version⟩

/-! ## Looking things up -/

/-- The scene with the given id. -/
def scene? (w : World) (id : String) : Option Scene := w.scenes.get? id

/-- An actor of a scene. -/
def actor? (w : World) (scene id : String) : Option Actor := (w.scene? scene).bind (·.actor? id)

/-- The scene in which the game is. -/
def current? (w : World) : Option Scene := w.currentScene.bind w.scene?

/-- The player's actor, which has to be in the current scene. -/
def playerActor? (w : World) : Option Actor :=
  w.player.bind fun id => w.current?.bind (·.actor? id)

/-- The verbs of an owner, if it exists. -/
def verbs? (w : World) : Owner → Option VerbTable
  | .world => some w.verbs
  | .scene scene => (w.scene? scene).map (·.verbs)
  | .actor scene id => (w.actor? scene id).map (·.verbs)

/-- The state of an owner, if it exists. -/
def state? (w : World) : Owner → Option (Option String)
  | .world => some w.state
  | .scene scene => (w.scene? scene).map (·.state)
  | .actor scene id => (w.actor? scene id).map (·.state)

/-- The properties of an owner, if it exists. -/
def properties? (w : World) : Owner → Option (Table String String)
  | .world => some w.properties
  | .scene scene => (w.scene? scene).map (·.properties)
  | .actor scene id => (w.actor? scene id).map (·.properties)

/-- The script of a verb, if it is in its table. -/
def script? (w : World) (h : Handle) : Option (Script Action) :=
  (w.verbs? h.owner).bind (·.get? h.key)

/-! ## Changing things -/

/-- Change a scene, if it exists. -/
def modifyScene (w : World) (id : String) (change : Scene → Scene) : World :=
  { w with scenes := w.scenes.modify id change }

/-- Change an actor, if it exists. -/
def modifyActor (w : World) (scene id : String) (change : Actor → Actor) : World :=
  w.modifyScene scene fun s => { s with actors := s.actors.modify id change }

/-- Change the verbs of an owner, if it exists. -/
def modifyVerbs (w : World) (owner : Owner) (change : VerbTable → VerbTable) : World :=
  match owner with
  | .world => { w with verbs := change w.verbs }
  | .scene scene => w.modifyScene scene fun s => { s with verbs := change s.verbs }
  | .actor scene id => w.modifyActor scene id fun a => { a with verbs := change a.verbs }

/-- Give an owner a state, or take its state away. -/
def setState (w : World) (owner : Owner) (state : Option String) : World :=
  match owner with
  | .world => { w with state }
  | .scene scene => w.modifyScene scene fun s => { s with state }
  | .actor scene id => w.modifyActor scene id fun a => { a with state }

/-- Give a property of an owner a value, or take it away. -/
def setProperty (w : World) (owner : Owner) (name : String) (value : Option String) : World :=
  match owner with
  | .world => { w with properties := w.properties.set name value }
  | .scene scene =>
    w.modifyScene scene fun s => { s with properties := s.properties.set name value }
  | .actor scene id =>
    w.modifyActor scene id fun a => { a with properties := a.properties.set name value }

/-- Put a scene into the world, in place of one with the same id. -/
def addScene (w : World) (scene : Scene) : World :=
  { w with scenes := w.scenes.insert scene.id scene }

/-- Change the player's actor, if there is one. -/
def modifyPlayer (w : World) (change : Actor → Actor) : World :=
  match w.currentScene, w.player with
  | some scene, some id => w.modifyActor scene id change
  | _, _ => w

/-! ## Enumerating verbs -/

/-- The handles of an owner's verbs in the order of their keys. -/
def handlesOf (owner : Owner) (verbs : VerbTable) : List Handle :=
  verbs.keys.map fun key => ⟨owner, key⟩

/-- The handles of the verbs of a scene and then of its actors. -/
def sceneHandles (w : World) (id : String) : List Handle :=
  match w.scene? id with
  | none => []
  | some scene =>
    handlesOf (.scene id) scene.verbs ++
      scene.actors.values.flatMap fun actor => handlesOf (.actor id actor.id) actor.verbs

/-- The handles of all verbs: the global ones, then those of each scene. -/
def handles (w : World) : List Handle :=
  handlesOf .world w.verbs ++ w.scenes.keys.flatMap w.sceneHandles

/-- Whether a handle names a parked verb. -/
def isParked (w : World) (h : Handle) : Bool :=
  match w.script? h with
  | some script => script.isParked
  | none => false

/-- The parked verbs to which time passes: the global ones and those of the current scene. -/
def parkedHandles (w : World) : List Handle :=
  let global := w.verbs.parkedKeys.map fun key => Handle.mk .world key
  let inScene :=
    match w.currentScene with
    | some scene => w.sceneHandles scene
    | none => []
  (global ++ inScene).filter w.isParked

/-- The innermost action on which a verb is parked, with the owner it runs for. -/
def leaf? (w : World) (h : Handle) : Option (Action × Owner) :=
  (w.script? h).bind fun script => script.leaf? h.owner

/-! ## Size -/

/-- The owners that exist: the world, its scenes and their actors. -/
def ownerCount (w : World) : Nat :=
  w.scenes.values.foldr (fun scene count => 1 + scene.actors.entries.length + count) 1

/-- The number of actions in all verb tables at any depth, and one more for each table and verb. -/
def weight (w : World) : Nat :=
  w.scenes.values.foldr (fun scene total =>
    scene.actors.values.foldr (fun actor total => actor.verbs.weight + total)
      (scene.verbs.weight + total)) w.verbs.weight

end World

end Stagecraft
