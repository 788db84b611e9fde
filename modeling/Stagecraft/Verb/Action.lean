import Stagecraft.Geometry
import Stagecraft.Verb.Condition
import Stagecraft.Verb.Script

/-!
# Actions

An action is one instruction of a verb, together with the progress it has made: the time that has
elapsed, the place a walk started from, or the cursor of an inner script.  Everything else is fixed
when the verb is written.  Clearing the progress of an action gives the action as it was written.
-/

namespace Stagecraft

/-- One instruction of a verb and its progress.  An actor that is left out is the owner. -/
inductive Action where
  /-- Give something a state, or take its state away. -/
  | setState (target : Target) (state : Option String)
  /-- Give a property of something a value, or take it away. -/
  | setProperty (target : Target) (name : String) (value : Option String)
  /-- Change how an actor is shown; what is left out stays as it is. -/
  | setActorAttr (actor : Option String) (visible interaction : Option Bool)
      (layer : Option String)
  /-- Put an actor somewhere at once. -/
  | position (actor : Option String) (pos : Point)
  /-- Walk somewhere; `origin` is where the walk began. -/
  | goto (actor : Option String) (pos : Point) (speed : Option Single) (origin : Option Point)
  /-- Show an animation and, if `wait`, park until it ends. -/
  | playAnimation (actor : Option String) (animation : String) (duration : Single) (wait : Bool)
      (elapsed : Single)
  /-- Start a sound of an actor. -/
  | playSound (actor : Option String) (sound : String)
  /-- Let an actor speak and, if `wait`, park until it has spoken. -/
  | say (actor : Option String) (text : String) (duration : Option Single) (wait : Bool)
      (elapsed : Single)
  /-- Park for a time. -/
  | wait (seconds elapsed : Single)
  /-- Open a dialog of an actor and park until an option is chosen. -/
  | showDialog (actor : Option String) (dialog : String)
  /-- Run the inner script if the condition holds. -/
  | conditional (condition : Condition) (script : Script Action)
  /-- Run a copy of another verb's actions for its owner; `bound` is that owner. -/
  | runVerb (whose : Target) (verb : String) (target : Option String) (bound : Option Owner)
      (script : Script Action)
  /-- Cancel a verb. -/
  | cancelVerb (whose : Target) (verb : String) (target : Option String)
  /-- Give an owner a new verb. -/
  | addVerb (whose : Target) (key : Key) (script : Script Action)
  /-- Make another scene the current one. -/
  | changeScene (scene : String)
  /-- Give control to another actor, or to nobody. -/
  | setPlayer (actor : Option String)
  /-- Take an actor out of its scene. -/
  | removeActor (actor : String)
deriving Inhabited

/-- A verb: its key among its owner's verbs, and what it does. -/
structure Verb where
  key : Key
  script : Script Action
deriving Inhabited

namespace Action

/-- The name of an action's kind. -/
def name : Action → String
  | setState .. => "SetState"
  | setProperty .. => "SetProperty"
  | setActorAttr .. => "SetActorAttr"
  | position .. => "Position"
  | goto .. => "Goto"
  | playAnimation .. => "PlayAnimation"
  | playSound .. => "PlaySound"
  | say .. => "Say"
  | wait .. => "Wait"
  | showDialog .. => "ShowDialog"
  | conditional .. => "Conditional"
  | runVerb .. => "RunVerb"
  | cancelVerb .. => "CancelVerb"
  | addVerb .. => "AddVerb"
  | changeScene .. => "ChangeScene"
  | setPlayer .. => "SetPlayer"
  | removeActor .. => "RemoveActor"

/-- Whether a script may be parked on the action. -/
def canPark : Action → Bool
  | playAnimation _ _ _ waits _ => waits
  | say _ _ _ waits _ => waits
  | goto .. | wait .. | showDialog .. | conditional .. | runVerb .. => true
  | _ => false

/-- The script inside an action, and the owner its actions run for if it is not that of the script
around it. -/
def inner? : Action → Option (Script Action × Option Owner)
  | conditional _ script => some (script, none)
  | runVerb _ _ _ bound script => some (script, bound)
  | _ => none

end Action

/-! ## Clearing progress -/

mutual

/-- An action without progress. -/
def Action.reset : Action → Action
  | .goto actor pos speed _ => .goto actor pos speed none
  | .playAnimation actor animation duration waits _ =>
    .playAnimation actor animation duration waits 0
  | .say actor text duration waits _ => .say actor text duration waits 0
  | .wait seconds _ => .wait seconds 0
  | .conditional condition script => .conditional condition script.reset
  | .runVerb whose verb target _ _ => .runVerb whose verb target none (.ofActions [])
  | action => action

/-- A script that has not been started and whose actions have no progress. -/
def Script.reset : Script Action → Script Action
  | ⟨actions, _, _⟩ => .ofActions (Action.resetAll actions)

/-- Actions without progress. -/
def Action.resetAll : List Action → List Action
  | [] => []
  | action :: rest => action.reset :: Action.resetAll rest

end

/-! ## The innermost parked action -/

mutual

/-- The innermost action that a parked action waits on, with the owner it runs for. -/
def Action.leaf? (owner : Owner) : Action → Option (Action × Owner)
  | .conditional _ script => script.leaf? owner
  | .runVerb _ _ _ bound script => script.leaf? (bound.getD owner)
  | action => some (action, owner)

/-- The innermost action on which a script is parked, with the owner it runs for. -/
def Script.leaf? (owner : Owner) : Script Action → Option (Action × Owner)
  | ⟨actions, some ip, true⟩ => Action.leafAt? owner ip actions
  | _ => none

/-- The innermost parked action below the action at a position. -/
def Action.leafAt? (owner : Owner) : Nat → List Action → Option (Action × Owner)
  | _, [] => none
  | 0, action :: _ => action.leaf? owner
  | ip + 1, _ :: rest => Action.leafAt? owner ip rest

end

/-! ## Cursors that cannot be -/

/-- What is wrong with the cursor of a stored script. -/
inductive Corruption where
  | pastEnd (ip length : Nat)
  | suspendedOutside (ip : Option Nat) (length : Nat)
  | neverSuspends (action : String)
  | noBoundOwner
  | neverWalked
  | innerNotSuspended (action : String)
  | dialogNotAwaited (dialog : String)
deriving DecidableEq, Inhabited

/-- What keeps an action from being one a script is parked on, leaving its inner script aside. -/
def Action.parkingFault? : Action → Option Corruption
  | .goto _ _ _ none => some .neverWalked
  | .runVerb _ _ _ none _ => some .noBoundOwner
  | .conditional _ script =>
    if script.suspended then none else some (.innerNotSuspended "Conditional")
  | .runVerb _ _ _ (some _) script =>
    if script.suspended then none else some (.innerNotSuspended "RunVerb")
  | action => if action.canPark then none else some (.neverSuspends action.name)

mutual

/-- What is wrong below an action on which a script is parked. -/
def Action.corruption? : Action → Option Corruption
  | .conditional condition script =>
    (Action.conditional condition script).parkingFault?.or script.corruption?
  | .runVerb whose verb target bound script =>
    (Action.runVerb whose verb target bound script).parkingFault?.or script.corruption?
  | action => action.parkingFault?

/-- What is wrong with the cursor of a script, or with that of a script on which it waits. -/
def Script.corruption? : Script Action → Option Corruption
  | ⟨actions, ip, suspended⟩ =>
    match ip with
    | none => if suspended then some (.suspendedOutside none actions.length) else none
    | some ip =>
      if actions.length < ip then some (.pastEnd ip actions.length)
      else if suspended then
        if ip = actions.length then some (.suspendedOutside (some ip) actions.length)
        else Action.corruptionAt? ip actions
      else none

/-- What is wrong below the action at a position. -/
def Action.corruptionAt? : Nat → List Action → Option Corruption
  | _, [] => none
  | 0, action :: _ => action.corruption?
  | ip + 1, _ :: rest => Action.corruptionAt? ip rest

end

/-! ## Size -/

mutual

/-- The number of actions at or below an action, also in the verbs it may install. -/
def Action.weight : Action → Nat
  | .conditional _ script => script.weight + 1
  | .runVerb _ _ _ _ script => script.weight + 1
  | .addVerb _ _ script => script.weight + 1
  | _ => 1

/-- One more than the number of actions of a script at any depth. -/
def Script.weight : Script Action → Nat
  | ⟨actions, _, _⟩ => Action.weightAll actions + 1

/-- The number of actions of a list at any depth. -/
def Action.weightAll : List Action → Nat
  | [] => 0
  | action :: rest => action.weight + Action.weightAll rest

end

end Stagecraft
