import Stagecraft.Verb.Key

/-!
# Conditions

A condition asks for the state or a property of something, for the visibility of an actor, or for
the player's presence at it, and combines such questions.
-/

namespace Stagecraft

/-- A question about the world, as seen from a verb.  An actor that is left out is the owner. -/
inductive Condition where
  | stateIs (target : Target) (state : Option String)
  | propertyIs (target : Target) (name : String) (value : Option String)
  | visible (actor : Option String)
  | playerInside (actor : Option String)
  | not (inner : Condition)
  | all (list : List Condition)
  | any (list : List Condition)
deriving Inhabited

end Stagecraft
