/-!
# Scripts

A script is a list of actions with a cursor.  The cursor is absent before the first run; while the
script runs it is the position of the current action, and at the end it is the number of actions.  A
suspended script is parked on the action at its cursor and waits for that action to complete.
-/

namespace Stagecraft

/-- A list of actions with the position reached in it. -/
structure Script (α : Type) where
  actions : List α
  ip : Option Nat
  suspended : Bool
deriving Inhabited

/-- How a run leaves a script: parked on an action, or at its end. -/
inductive RunState where
  | suspended
  | finished
deriving DecidableEq, Inhabited

namespace Script

variable {α : Type}

/-- The script that has not been started. -/
def ofActions (actions : List α) : Script α := ⟨actions, none, false⟩

/-- The number of actions. -/
def length (s : Script α) : Nat := s.actions.length

/-- Whether the cursor is on an action. -/
def isRunning (s : Script α) : Bool :=
  match s.ip with
  | some ip => ip < s.length
  | none => false

/-- Whether the cursor is past the last action. -/
def isFinished (s : Script α) : Bool :=
  match s.ip with
  | some ip => s.length ≤ ip
  | none => false

/-- The position of the action on which the script is parked. -/
def parkedAt? (s : Script α) : Option Nat :=
  s.ip.filter fun ip => s.suspended && ip < s.length

/-- Whether the script is parked on an action. -/
def isParked (s : Script α) : Bool := s.parkedAt?.isSome

/-- What a caller is told about a script that is left alone. -/
def runState (s : Script α) : RunState := if s.suspended then .suspended else .finished

end Script

end Stagecraft
