import Stagecraft.Play.Perform

/-!
# Continuing parked verbs

A parked verb goes on when time passes or when the event it waits for arrives.  Either is handed
down to the innermost parked action; when that action is done, each script around it advances past
the action it is parked on and is swept further.
-/

namespace Stagecraft

/-- Go past the action at a position and on from there. -/
def Script.advance (perform : Performer) (ip : Nat) (actions : List Action) (f : Frame) :
    Script Action × RunState × Frame :=
  Script.stepFrom perform (ip + 1) actions f

/-! ## Time -/

/-- Let a walking actor walk for a time, and tell whether it has arrived. -/
def Frame.walkOn (f : Frame) (actor : Option String) (goal : Point) (speed : Option Single)
    (delta : Single) : Except Fault (Bool × Frame) := do
  let speed := speed.getD f.stage.settings.walkSpeed
  if speed.isFinite && decide (0 < speed) then
    let (scene, id, walker) ← f.actor actor
    let next := walker.position.stepToward goal (speed * delta)
    .ok (next.sameAs goal, f.mapWorld (·.modifyActor scene id (·.moveTo next)))
  else .error (.unreachable speed goal)

mutual

/-- Let time pass for the action on which a script is parked, and tell whether it is done. -/
def Action.tick (perform : Performer) (delta : Single) :
    Action → Frame → Action × Except Fault Bool × Frame
  | .goto actor pos speed origin, f =>
    match f.walkOn actor pos speed delta with
    | .ok (arrived, f) => (.goto actor pos speed origin, .ok arrived, f)
    | .error reason => (.goto actor pos speed origin, .error reason, f)
  | .playAnimation actor animation duration waits elapsed, f =>
    if duration ≤ 0 then (.playAnimation actor animation duration waits elapsed, .ok false, f)
    else
      let elapsed := elapsed + delta
      (.playAnimation actor animation duration waits elapsed, .ok (decide (duration ≤ elapsed)), f)
  | .say actor text duration waits elapsed, f =>
    let elapsed := elapsed + delta
    let limit := duration.getD (f.stage.settings.speechSeconds text)
    (.say actor text duration waits elapsed, .ok (decide (limit ≤ elapsed)), f)
  | .wait seconds elapsed, f =>
    let elapsed := elapsed + delta
    (.wait seconds elapsed, .ok (decide (seconds ≤ elapsed)), f)
  | .showDialog actor dialog, f => (.showDialog actor dialog, .ok false, f)
  | .conditional condition script, f =>
    let (script, state, f) := script.tick perform delta f
    (.conditional condition script, .ok (state == .finished), f)
  | .runVerb whose verb target bound script, f =>
    let (script, state, inner) := script.tick perform delta (f.enterScope bound)
    (.runVerb whose verb target bound script, .ok (state == .finished), f.leaveScope inner)
  | action, f => (action, .ok true, f)

/-- Let time pass for a script; nothing happens to one that is not parked. -/
def Script.tick (perform : Performer) (delta : Single) :
    Script Action → Frame → Script Action × RunState × Frame
  | ⟨actions, some ip, true⟩, f =>
    match Action.tickAt perform delta ip actions f with
    | none => (⟨actions, some ip, true⟩, .suspended, f)
    | some (actions, .ok false, f) => (⟨actions, some ip, true⟩, .suspended, f)
    | some (actions, .ok true, f) => Script.advance perform ip actions f
    | some (actions, .error reason, f) =>
      Script.advance perform ip actions (f.error
        s!"{f.handle.key.text} step {ip} failed while in progress: {reason.message}")
  | ⟨actions, ip, suspended⟩, f =>
    (⟨actions, ip, suspended⟩, Script.runState ⟨actions, ip, suspended⟩, f)

/-- Let time pass for the action at a position, if there is one. -/
def Action.tickAt (perform : Performer) (delta : Single) :
    Nat → List Action → Frame → Option (List Action × Except Fault Bool × Frame)
  | _, [], _ => none
  | 0, action :: rest, f =>
    let (action, done, f) := action.tick perform delta f
    some (action :: rest, done, f)
  | ip + 1, action :: rest, f =>
    (Action.tickAt perform delta ip rest f).map fun (rest, answer) => (action :: rest, answer)

end

/-! ## Arrival of what a verb waits for -/

mutual

/-- Tell the action on which a script is parked that what it waits for has arrived.  An action
without a script inside is done with that. -/
def Action.resume (perform : Performer) :
    Action → Frame → Except VerbError (Action × RunState × Frame)
  | .conditional condition script, f =>
    (script.resume perform f).map fun (script, state, f) =>
      (.conditional condition script, state, f)
  | .runVerb whose verb target bound script, f =>
    (script.resume perform (f.enterScope bound)).map fun (script, state, inner) =>
      (.runVerb whose verb target bound script, state, f.leaveScope inner)
  | action, f => .ok (action, .finished, f)

/-- Tell a script that what it waits for has arrived.  An inner script hears of it first, and the
outer one goes on only when the inner one is finished. -/
def Script.resume (perform : Performer) :
    Script Action → Frame → Except VerbError (Script Action × RunState × Frame)
  | ⟨actions, some ip, true⟩, f =>
    match Action.resumeAt perform ip actions f with
    | none => .error (.notSuspended f.handle.key (some ip))
    | some (.error reason) => .error reason
    | some (.ok (actions, .suspended, f)) => .ok (⟨actions, some ip, true⟩, .suspended, f)
    | some (.ok (actions, .finished, f)) => .ok (Script.advance perform ip actions f)
  | ⟨_, ip, _⟩, f => .error (.notSuspended f.handle.key ip)

/-- Tell the action at a position, if there is one, that what it waits for has arrived. -/
def Action.resumeAt (perform : Performer) :
    Nat → List Action → Frame → Option (Except VerbError (List Action × RunState × Frame))
  | _, [], _ => none
  | 0, action :: rest, f =>
    some ((action.resume perform f).map fun (action, answer) => (action :: rest, answer))
  | ip + 1, action :: rest, f =>
    (Action.resumeAt perform ip rest f).map fun answer =>
      answer.map fun (rest, answer) => (action :: rest, answer)

end

end Stagecraft
