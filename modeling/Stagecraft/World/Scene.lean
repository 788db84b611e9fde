import Stagecraft.Roster
import Stagecraft.World.Actor

/-!
# Scenes

A scene holds its actors in the order in which they came, and layers that list actors from the
topmost layer down.  Pointing at a scene finds the topmost actor that answers.
-/

namespace Stagecraft

/-- A layer of a scene and the actors on it, the later ones over the earlier ones. -/
structure Layer where
  name : String
  visible : Bool
  dynamic : Bool
  actors : List String
deriving DecidableEq, Inhabited

/-- A place of the world. -/
structure Scene where
  id : String
  state : Option String
  verbs : VerbTable
  actors : Roster Actor
  layers : List Layer
  properties : Table String String
deriving Inhabited

namespace Scene

/-- A scene without anything in it. -/
def empty (id : String) : Scene := ⟨id, none, ∅, ∅, [], ∅⟩

/-- The actor with the given id. -/
def actor? (s : Scene) (id : String) : Option Actor := s.actors.get? id

/-- Take an actor off every layer. -/
def unlink (actor : String) (layers : List Layer) : List Layer :=
  layers.map fun layer => { layer with actors := layer.actors.filter (· ≠ actor) }

/-- Put an actor on top of the first layer with the given name, or on a new layer below the others
if there is none. -/
def link (actor name : String) : List Layer → List Layer
  | [] => [⟨name, true, false, [actor]⟩]
  | layer :: rest =>
    if layer.name = name then { layer with actors := layer.actors ++ [actor] } :: rest
    else layer :: link actor name rest

/-- Put an actor into the scene and on its layer, in place of one with the same id. -/
def addActor (s : Scene) (actor : Actor) : Scene :=
  let actor := { actor with scene := some s.id }
  { s with
    layers := link actor.id actor.layer (unlink actor.id s.layers)
    actors := s.actors.insert actor.id actor }

/-- Take an actor out of the scene and off its layers. -/
def removeActor? (s : Scene) (id : String) : Option (Actor × Scene) :=
  (s.actor? id).map fun actor =>
    ({ actor with scene := none },
      { s with actors := s.actors.erase id, layers := unlink id s.layers })

/-- Move an actor to the top of a layer. -/
def moveToLayer? (s : Scene) (id layer : String) : Option Scene :=
  if s.actors.contains id then
    some { s with
      layers := link id layer (unlink id s.layers)
      actors := s.actors.modify id fun actor => { actor with layer } }
  else none

/-- The actors on a layer from the topmost down: a higher z-index is above a lower one, and of
equals the later one is above. -/
def stack (s : Scene) (layer : Layer) : List Actor :=
  ((layer.actors.filterMap s.actor?).mergeSort fun a b =>
    a.zIndex.orderKey ≤ b.zIndex.orderKey).reverse

/-- Whether an actor answers when the player points at a place. -/
def answersAt (point : Point) (actor : Actor) : Bool :=
  actor.isInteractive && actor.region.contains point

/-- The topmost actor that answers at a place. -/
def actorAt? (s : Scene) (point : Point) : Option Actor :=
  (s.layers.filter (·.visible)).findSome? fun layer => (s.stack layer).find? (answersAt point)

/-- Let an actor compare the player's place with its region.  The player's actor does not notice
itself. -/
def notice (s : Scene) (id : String) (player : Option String) : Option (Crossing × Scene) :=
  match player with
  | none => none
  | some playerId =>
    if playerId = id then none
    else
      match s.actor? playerId, s.actor? id with
      | some playerActor, some actor =>
        (actor.notice playerActor.position).map fun (crossing, actor) =>
          (crossing, { s with actors := s.actors.insert id actor })
      | _, _ => none

end Scene

end Stagecraft
