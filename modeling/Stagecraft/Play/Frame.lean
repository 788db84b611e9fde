import Stagecraft.Play.Stage

/-!
# The frame of a running verb

A frame is the stage as seen from one running verb: which verb it is, for which owner the actions
run at the moment, and whether the verb has been asked to end.  References of actions and conditions
are resolved against the frame.
-/

namespace Stagecraft

/-- The stage as seen from one running verb.  The scope differs from the handle's owner while
another owner's verb runs inside this one. -/
structure Frame where
  handle : Handle
  scope : Owner
  cancelRequested : Bool
  stage : Stage
deriving Inhabited

namespace Frame

/-- The frame in which a verb begins. -/
def enter (handle : Handle) (stage : Stage) : Frame := ⟨handle, handle.owner, false, stage⟩

/-- Change the world. -/
def mapWorld (f : Frame) (change : World → World) : Frame :=
  { f with stage := f.stage.mapWorld change }

/-- Add a line to the journal about what is done. -/
def info (f : Frame) (text : String) : Frame := { f with stage := f.stage.info text }

/-- Add a line to the journal about a failure. -/
def error (f : Frame) (text : String) : Frame := { f with stage := f.stage.error text }

/-- Tell the front end about something. -/
def emit (f : Frame) (event : Event) : Frame := { f with stage := f.stage.emit event }

/-- The frame in which the actions of an inner script run: for another owner, if one is given. -/
def enterScope (f : Frame) (owner : Option Owner) : Frame :=
  { f with scope := owner.getD f.scope }

/-- The frame after an inner script, back in the scope of the outer one. -/
def leaveScope (f inner : Frame) : Frame := { inner with scope := f.scope }

/-! ## References -/

/-- The scene in which the verb acts: that of its owner, or the current one for a global verb. -/
def sceneId (f : Frame) : Except Fault String :=
  match f.scope.sceneId?, f.stage.world.currentScene with
  | some scene, _ => .ok scene
  | none, some scene => .ok scene
  | none, none => .error .noCurrentScene

/-- The scene in which the verb acts. -/
def scene (f : Frame) : Except Fault (String × Scene) := do
  let id ← f.sceneId
  match f.stage.world.scene? id with
  | some scene => .ok (id, scene)
  | none => .error (.noScene id)

/-- The scene and the id of an actor that may be left out, in which case the owner is meant. -/
def actorRef (f : Frame) (actor : Option String) : Except Fault (String × String) :=
  match actor, f.scope with
  | some id, _ => f.sceneId.map (·, id)
  | none, .actor scene id => .ok (scene, id)
  | none, owner => .error (.actorOmitted owner)

/-- An actor that may be left out, with its scene and its id. -/
def actor (f : Frame) (actor : Option String) : Except Fault (String × String × Actor) := do
  let (scene, id) ← f.actorRef actor
  match f.stage.world.actor? scene id with
  | some found => .ok (scene, id, found)
  | none => .error (.noActor id scene)

/-- The owner that a target names. -/
def target (f : Frame) : Target → Except Fault Owner
  | .owner => .ok f.scope
  | .actor id => f.sceneId.map (.actor · id)
  | .scene => f.sceneId.map .scene
  | .world => .ok .world

end Frame

/-! ## Conditions -/

mutual

/-- Whether a condition holds in a frame.  Lists are read from the left and no further than
needed. -/
def Condition.holds (f : Frame) : Condition → Except Fault Bool
  | .stateIs target state => do
    let owner ← f.target target
    match f.stage.world.state? owner with
    | some actual => .ok (actual == state)
    | none => .error (.noOwner owner)
  | .propertyIs target name value => do
    let owner ← f.target target
    match f.stage.world.properties? owner with
    | some properties => .ok (properties.get? name == value)
    | none => .error (.noOwner owner)
  | .visible actor => do
    let (_, _, found) ← f.actor actor
    .ok found.visible
  | .playerInside actor => do
    let (_, _, found) ← f.actor actor
    .ok found.playerInside
  | .not inner => do
    let holds ← inner.holds f
    .ok !holds
  | .all list => Condition.allHold f list
  | .any list => Condition.anyHolds f list

/-- Whether every condition of a list holds. -/
def Condition.allHold (f : Frame) : List Condition → Except Fault Bool
  | [] => .ok true
  | condition :: rest => do
    if ← condition.holds f then Condition.allHold f rest else .ok false

/-- Whether some condition of a list holds. -/
def Condition.anyHolds (f : Frame) : List Condition → Except Fault Bool
  | [] => .ok false
  | condition :: rest => do
    if ← condition.holds f then .ok true else Condition.anyHolds f rest

end

end Stagecraft
