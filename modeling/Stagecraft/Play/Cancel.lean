import Stagecraft.Play.Frame

/-!
# Cancelling

Cancelling a script ends it at once: the action it is parked on and those after it give up their
progress, and the cursor goes to the end.  A dialog that the verb has opened is closed.  What the
actions before have done stays.
-/

namespace Stagecraft

/-- Close the open dialog, if it was opened by the running verb. -/
def Frame.releaseDialog (f : Frame) : Frame :=
  match f.stage.world.openDialog with
  | some dialog =>
    if dialog.handle = f.handle then
      ((f.mapWorld fun w => { w with openDialog := none }).info
          s!"└─ action: closing dialog '{dialog.dialog}' of '{dialog.actor}'").emit
        (.dialogClosed dialog.actor dialog.dialog)
    else f
  | none => f

mutual

/-- Give up what an action holds while a script is parked on it. -/
def Action.cancel : Action → Frame → Action × Frame
  | .goto actor pos speed _, f => (.goto actor pos speed none, f)
  | .playAnimation actor animation duration waits _, f =>
    (.playAnimation actor animation duration waits 0, f)
  | .say actor text duration waits _, f => (.say actor text duration waits 0, f)
  | .wait seconds _, f => (.wait seconds 0, f)
  | .showDialog actor dialog, f => (.showDialog actor dialog, f.releaseDialog)
  | .conditional condition script, f =>
    let (script, f) := script.cancel f
    (.conditional condition script, f)
  | .runVerb whose verb target bound script, f =>
    let (script, inner) := script.cancel (f.enterScope bound)
    (.runVerb whose verb target bound script, f.leaveScope inner)
  | action, f => (action, f)

/-- End a script: cancel its actions from the cursor on and go to the end. -/
def Script.cancel : Script Action → Frame → Script Action × Frame
  | ⟨actions, none, _⟩, f => (⟨actions, some actions.length, false⟩, f)
  | ⟨actions, some ip, _⟩, f =>
    let (cancelled, f) := Action.cancelFrom ip actions f
    (⟨cancelled, some actions.length, false⟩, f)

/-- Cancel the actions from a position on. -/
def Action.cancelFrom : Nat → List Action → Frame → List Action × Frame
  | _, [], f => ([], f)
  | 0, action :: rest, f =>
    let (action, f) := action.cancel f
    let (rest, f) := Action.cancelFrom 0 rest f
    (action :: rest, f)
  | ip + 1, action :: rest, f =>
    let (rest, f) := Action.cancelFrom ip rest f
    (action :: rest, f)

end

/-- Give up what the action at the cursor holds, before the script is started anew. -/
def Script.release (s : Script Action) (f : Frame) : Frame :=
  match s.ip.bind (s.actions[·]?) with
  | some action => (action.cancel f).2
  | none => f

/-- Cancel a whole verb. -/
def Frame.cancelVerb (f : Frame) (script : Script Action) : Script Action × Frame :=
  script.cancel (f.info s!">>> cancelling verb {f.handle.key.text}")

/-- Cancel a verb that is in its table, and tell whether it was. -/
def Stage.cancelVerb (s : Stage) (handle : Handle) : Bool × Stage :=
  let (answer, s) := s.withVerb handle fun script stage =>
    let (script, f) := (Frame.enter handle stage).cancelVerb script
    (script, (), f.stage)
  (answer.isSome, s)

end Stagecraft
