import Stagecraft.Play.Effect

/-!
# Performing verbs

A script is swept from its cursor: each action is performed in turn, an action that parks stops the
sweep with the cursor on it, and a fault is noted and passed over.  Conditions, verbs run inside
verbs and changes of scene sweep further scripts while an action is performed; each such level uses
up one of a given depth, so every sweep ends.
-/

namespace Stagecraft

/-- What carries out one action: the action with its progress, what follows, and the frame. -/
abbrev Performer := Action → Frame → Action × Outcome × Frame

/-! ## Sweeping a script -/

/-- Perform actions one after the other, the first of them at position `ip`.  The answer holds the
actions with their progress, the position reached and whether the script is parked there.  If the
verb is asked to end, the remaining actions are cancelled. -/
def Action.sweep (perform : Performer) : Nat → List Action → Frame →
    List Action × Nat × RunState × Frame
  | ip, [], f => ([], ip, .finished, f)
  | ip, action :: rest, f =>
    if f.cancelRequested then
      let (cancelled, f) := Action.cancelFrom 0 (action :: rest) f
      (cancelled, ip + (rest.length + 1), .finished, f)
    else
      let (action, outcome, f) := perform action f
      match outcome with
      | .park => (action :: rest, ip, .suspended, f)
      | .proceed =>
        let (rest, reached, state, f) := Action.sweep perform (ip + 1) rest f
        (action :: rest, reached, state, f)
      | .fault reason =>
        let f := f.error
          s!"{f.handle.key.text} step {ip} ({action.name}) failed: {reason.message}"
        let (rest, reached, state, f) := Action.sweep perform (ip + 1) rest f
        (action :: rest, reached, state, f)

namespace Script

/-- Sweep a script from a position. -/
def stepFrom (perform : Performer) (ip : Nat) (actions : List Action) (f : Frame) :
    Script Action × RunState × Frame :=
  let (swept, reached, state, f) := Action.sweep perform ip (actions.drop ip) f
  (⟨actions.take ip ++ swept, some reached, state == .suspended⟩, state, f)

/-- Run a script from its first action.  If it is still running it first lets go of what the action
at its cursor holds. -/
def start (perform : Performer) (s : Script Action) (f : Frame) :
    Script Action × RunState × Frame :=
  stepFrom perform 0 s.reset.actions (s.release f)

/-- Take up a script that was stored between two actions. -/
def reenter (perform : Performer) (s : Script Action) (f : Frame) :
    Script Action × RunState × Frame :=
  match s.ip with
  | some ip =>
    if ip < s.length ∧ s.suspended = false then stepFrom perform ip s.actions f
    else (s, s.runState, f)
  | none => (s, s.runState, f)

end Script

/-! ## Whole verbs -/

/-- End a run of a verb: if the verb has asked for its own end it is cancelled, and if it has come
to its end this is noted. -/
def Frame.settle (s : Script Action) (state : RunState) (f : Frame) :
    Script Action × RunState × Frame :=
  if f.cancelRequested then
    let (s, f) := { f with cancelRequested := false }.cancelVerb s
    (s, .finished, f)
  else
    match state with
    | .finished => (s, state, f.info s!">>> verb {f.handle.key.text} finished")
    | .suspended => (s, state, f)

/-- Run a whole verb from its first action. -/
def Frame.run (perform : Performer) (s : Script Action) (f : Frame) :
    Script Action × RunState × Frame :=
  let (s, state, f) := s.start perform (f.info s!">>> running verb {f.handle.key.text}")
  f.settle s state

namespace Stage

/-- Run the verb of a handle, if it is in its table. -/
def runHandle (perform : Performer) (s : Stage) (handle : Handle) : Option RunState × Stage :=
  s.withVerb handle fun script stage =>
    let (script, state, f) := (Frame.enter handle stage).run perform script
    (script, state, f.stage)

/-- Find a verb on an owner and run it; that there is none is no failure. -/
def runNamed (perform : Performer) (s : Stage) (owner : Owner) (id : String)
    (target : Option String) : Option RunState × Stage :=
  match s.resolve? owner id target with
  | some handle => s.runHandle perform handle
  | none => (none, s)

/-- Make a scene the current one and run its verb `init`. -/
def goToScene (perform : Performer) (s : Stage) (id : String) : Except Fault Stage :=
  if s.world.scenes.contains id then
    let s := (s.mapWorld fun w => { w with currentScene := some id }).info
      s!"current scene is now '{id}'"
    .ok ((s.emit (.sceneChanged id)).runNamed perform (.scene id) "init" none).2
  else .error (.noScene id)

end Stage

/-! ## Actions -/

/-- Perform one action, with `inner` performing the actions of the scripts it starts.  Without
`inner` no script can be started. -/
def Action.performWith (inner : Option Performer) : Performer
  | .setState target state, f =>
    (.setState target state, f.attempt (f.setState target state))
  | .setProperty target name value, f =>
    (.setProperty target name value, f.attempt (f.setProperty target name value))
  | .setActorAttr actor visible interaction layer, f =>
    (.setActorAttr actor visible interaction layer,
      f.attempt (f.setActorAttr actor visible interaction layer))
  | .position actor pos, f => (.position actor pos, f.attempt (f.putActor actor pos))
  | .goto actor pos speed origin, f =>
    match f.startWalk actor pos with
    | .ok (some start, f) => (.goto actor pos speed (some start), .park, f)
    | .ok (none, f) => (.goto actor pos speed origin, .proceed, f)
    | .error reason => (.goto actor pos speed origin, .fault reason, f)
  | .playAnimation actor animation duration waits _, f =>
    (.playAnimation actor animation duration waits 0,
      f.attempt (f.playAnimation actor animation waits))
  | .playSound actor sound, f => (.playSound actor sound, f.attempt (f.playSound actor sound))
  | .say actor text duration waits _, f =>
    (.say actor text duration waits 0, f.attempt (f.say actor text waits))
  | .wait seconds _, f =>
    (.wait seconds 0, .parkIf (decide (0 < seconds)),
      f.info s!"└─ action: Wait({showSingle seconds}s)")
  | .showDialog actor dialog, f =>
    (.showDialog actor dialog, f.attempt (f.showDialog actor dialog))
  | .conditional condition script, f =>
    match condition.holds f with
    | .error reason => (.conditional condition script, .fault reason, f)
    | .ok false =>
      (.conditional condition script, .proceed,
        f.info "└─ action: Conditional(false), skipped")
    | .ok true =>
      match inner with
      | none => (.conditional condition script, .fault .tooDeep, f)
      | some perform =>
        let (script, state, f) := script.start perform
          (f.info s!"└─ action: Conditional(true), entering {script.length} action(s)")
        (.conditional condition script, .ofRunState state, f)
  | .runVerb whose verb target bound script, f =>
    match f.inlineVerb whose verb target with
    | .error reason => (.runVerb whose verb target bound script, .fault reason, f)
    | .ok (none, f) => (.runVerb whose verb target bound script, .proceed, f)
    | .ok (some (owner, actions), f) =>
      match inner with
      | none => (.runVerb whose verb target bound script, .fault .tooDeep, f)
      | some perform =>
        let (script, state, inner) :=
          (Script.ofActions actions).start perform (f.enterScope (some owner))
        (.runVerb whose verb target (some owner) script, .ofRunState state, f.leaveScope inner)
  | .cancelVerb whose verb target, f =>
    (.cancelVerb whose verb target, f.attempt (f.cancelNamed whose verb target))
  | .addVerb whose key script, f =>
    (.addVerb whose key script, f.attempt (f.addVerb whose key script))
  | .changeScene scene, f =>
    let f := f.info s!"└─ action: ChangeScene({scene})"
    match inner with
    | none => (.changeScene scene, .fault .tooDeep, f)
    | some perform =>
      (.changeScene scene, f.attempt ((f.stage.goToScene perform scene).map fun stage =>
        (.proceed, { f with stage })))
  | .setPlayer actor, f =>
    let f := f.info s!"└─ action: SetPlayer({Text.shownOptionText actor})"
    (.setPlayer actor, f.attempt ((f.stage.setPlayer actor).map fun stage =>
      (.proceed, { f with stage })))
  | .removeActor actor, f =>
    let f := f.info s!"└─ action: RemoveActor({actor})"
    (.removeActor actor, f.attempt (f.removeActor actor))

/-- Perform one action, going down through at most `depth` levels of scripts. -/
def Action.perform : Nat → Performer
  | 0 => Action.performWith none
  | depth + 1 => Action.performWith (some (Action.perform depth))

end Stagecraft
