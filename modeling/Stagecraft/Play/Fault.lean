import Stagecraft.Decimal.Shortest
import Stagecraft.Verb.Action

/-!
# What can go wrong

A fault is why an action or a command could not be carried out.  Faults are values that name their
cause; the wording stands in one place.
-/

namespace Stagecraft

/-- The wording of a corruption. -/
def Corruption.message : Corruption → String
  | .pastEnd ip length => s!"ip {ip} is past the end of {length} action(s)"
  | .suspendedOutside none length => s!"suspended with ip None outside 0..{length}"
  | .suspendedOutside (some ip) length => s!"suspended with ip Some({ip}) outside 0..{length}"
  | .neverSuspends action => s!"suspended on {action}, which never suspends"
  | .noBoundOwner => "suspended on RunVerb with no bound owner"
  | .neverWalked => "suspended on Goto that never started walking"
  | .innerNotSuspended action => s!"suspended on {action} whose sequence is not suspended"
  | .dialogNotAwaited dialog => s!"dialog '{dialog}' is open but the verb is not waiting on it"

/-- Why a verb cannot be resumed, or a stored one cannot be taken up again. -/
inductive VerbError where
  | notSuspended (key : Key) (ip : Option Nat)
  | corrupt (verb : String) (reason : Corruption)
  | notFound (handle : Handle)
deriving DecidableEq, Inhabited

/-- The wording of a verb error. -/
def VerbError.message : VerbError → String
  | .notSuspended key none => s!"verb {key.text} is not suspended (ip None)"
  | .notSuspended key (some ip) => s!"verb {key.text} is not suspended (ip Some({ip}))"
  | .corrupt verb reason => s!"verb {verb} has corrupt saved state: {reason.message}"
  | .notFound handle => s!"no verb {handle.text}"

/-- Why an action or a command could not be carried out. -/
inductive Fault where
  | noCurrentScene
  | nothingToStart
  | noScene (scene : String)
  | noActor (actor scene : String)
  | noOwner (owner : Owner)
  | actorOmitted (owner : Owner)
  | notInCurrentScene (actor : String)
  | noSound (actor sound : String)
  | noDialog (actor dialog : String)
  | dialogOpen (dialog actor : String)
  | runsItself (handle : Handle)
  | alreadyRunning (handle : Handle)
  | ownerExecuting (owner : Owner) (key : Key)
  | unreachable (speed : Single) (goal : Point)
  | noOpenDialog
  | noOption (dialog : String) (number : Nat)
  | verb (error : VerbError)
  | tooDeep
deriving Inhabited

/-- The wording of a fault. -/
def Fault.message : Fault → String
  | .noCurrentScene => "no current scene"
  | .nothingToStart => "world has no current scene"
  | .noScene scene => s!"scene '{scene}' not found"
  | .noActor actor scene => s!"actor '{actor}' not found in scene '{scene}'"
  | .noOwner owner => s!"{owner.text} not found"
  | .actorOmitted owner => s!"no actor given and {owner.text} is not an actor"
  | .notInCurrentScene actor => s!"actor '{actor}' is not in the current scene"
  | .noSound actor sound => s!"actor '{actor}' has no sound '{sound}'"
  | .noDialog actor dialog => s!"actor '{actor}' has no dialog '{dialog}'"
  | .dialogOpen dialog actor => s!"dialog '{dialog}' of '{actor}' is already open"
  | .runsItself handle => s!"verb {handle.text} cannot run itself"
  | .alreadyRunning handle => s!"verb {handle.text} is already running"
  | .ownerExecuting owner key =>
    s!"{owner.text} cannot gain verbs while its verb {key.text} is executing"
  | .unreachable speed goal =>
    s!"walk speed {showSingle speed} can never reach ({showSingle goal.x}, {showSingle goal.y})"
  | .noOpenDialog => "no dialog is open"
  | .noOption dialog number => s!"dialog '{dialog}' has no option {number}"
  | .verb error => error.message
  | .tooDeep => "verbs run each other too deeply"

end Stagecraft
