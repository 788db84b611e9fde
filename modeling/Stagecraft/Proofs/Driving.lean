import Stagecraft.Proofs.Cursor
import Stagecraft.Proofs.Effect

/-!
# Driving a script

A script is driven by being run, taken up again, given time, told that what it waits for has
arrived, or cancelled.  Whatever happens to it then, it is left parked on an action that it may be
parked on, or at its end, and the run state that is reported says which.
-/

namespace Stagecraft

/-- Drive a script in the frame of its verb, with `perform` performing its actions. -/
def Driving.drive (perform : Performer) (driving : Driving) (s : Script Action) (f : Frame) :
    Except VerbError (Script Action × RunState × Frame) :=
  match driving with
  | .run => .ok (f.run perform s)
  | .resume => (s.resume perform f).map fun (s, state, f) => f.settle s state
  | .tick delta =>
    let (s, state, f) := s.tick perform delta f
    .ok (f.settle s state)
  | .reenter =>
    let (s, state, f) := s.reenter perform f
    .ok (f.settle s state)
  | .cancel =>
    let (s, f) := f.cancelVerb s
    .ok (s, .finished, f)

/-! ## Performing -/

/-- What performs actions parks only on actions that a script may be parked on. -/
def Performer.Sound (perform : Performer) : Prop :=
  ∀ action f action' f', perform action f = (action', .park, f') → action'.corruption? = none

/-- The part of a list that a sweep has come through: every action of it if the sweep is finished,
and else up to the action on which it is parked. -/
structure Action.Swept (actions swept : List Action) (ip reached : Nat) (state : RunState) :
    Prop where
  length_eq : swept.length = actions.length
  reached_eq : state = .finished → reached = ip + actions.length
  parked : state = .suspended →
    ∃ below action, reached = ip + below ∧ swept[below]? = some action ∧ action.corruption? = none

variable {perform : Performer}

/-- One more action in front of what has been swept. -/
private theorem Action.Swept.cons {rest swept : List Action} {ip reached : Nat} {state : RunState}
    (action action' : Action) (below : Action.Swept rest swept (ip + 1) reached state) :
    Action.Swept (action :: rest) (action' :: swept) ip reached state where
  length_eq := by simp [below.length_eq]
  reached_eq := by
    intro finished
    rw [below.reached_eq finished]
    simp only [List.length_cons]
    omega
  parked := by
    intro suspended
    obtain ⟨offset, parked, reachedEq, here, sound⟩ := below.parked suspended
    exact ⟨offset + 1, parked, by omega, here, sound⟩

theorem Action.swept_sweep (sound : perform.Sound) (ip : Nat) (actions : List Action) (f : Frame) :
    Action.Swept actions (Action.sweep perform ip actions f).1
      ip (Action.sweep perform ip actions f).2.1 (Action.sweep perform ip actions f).2.2.1 := by
  induction actions generalizing ip f with
  | nil => exact ⟨rfl, fun _ => rfl, fun parked => by cases parked⟩
  | cons action rest ih =>
    unfold Action.sweep
    split
    · exact ⟨Action.length_cancelFrom 0 _ f, fun _ => rfl, by simp⟩
    · rcases performed : perform action f with ⟨action', outcome, f'⟩
      cases outcome with
      | park =>
        exact ⟨rfl, by simp, fun _ =>
          ⟨0, action', rfl, rfl, sound action f action' f' performed⟩⟩
      | proceed => exact (ih (ip + 1) f').cons action action'
      | fault reason => exact (ih (ip + 1) _).cons action action'

namespace Script

/-- A sweep from a position of a script leaves it parked or at its end, as it reports. -/
theorem stepFrom_reports (sound : perform.Sound) {ip : Nat} {actions : List Action} {f : Frame}
    {s : Script Action} {state : RunState} {f' : Frame} (inside : ip ≤ actions.length)
    (swept : stepFrom perform ip actions f = (s, state, f')) : s.Reports state := by
  have sweep := Action.swept_sweep sound ip (actions.drop ip) f
  unfold stepFrom at swept
  rcases found : Action.sweep perform ip (actions.drop ip) f with ⟨left, reached, outcome, f''⟩
  rw [found] at sweep swept
  obtain ⟨rfl, rfl, rfl⟩ := swept
  obtain ⟨lengthEq, reachedEq, parked⟩ := sweep
  have lengthLeft : left.length = actions.length - ip := by simpa using lengthEq
  have lengthTake : (actions.take ip).length = ip := by simp [inside]
  cases state with
  | finished =>
    have atEnd : reached = ip + (actions.drop ip).length := reachedEq rfl
    refine ⟨?_, rfl⟩
    simp [length, lengthLeft, atEnd, inside]
  | suspended =>
    refine ⟨rfl, ?_⟩
    obtain ⟨below, action, rfl, here, actionSound⟩ := parked rfl
    refine sound_parked_iff.mpr ⟨action, ?_, actionSound⟩
    rw [List.getElem?_append_right (by omega), lengthTake]
    simpa using here

theorem start_reports (sound : perform.Sound) {s s' : Script Action} {f f' : Frame}
    {state : RunState} (started : s.start perform f = (s', state, f')) : s'.Reports state :=
  stepFrom_reports sound (Nat.zero_le _) started

theorem advance_reports (sound : perform.Sound) {ip : Nat} {actions : List Action} {f f' : Frame}
    {s : Script Action} {state : RunState} (inside : ip < actions.length)
    (advanced : Script.advance perform ip actions f = (s, state, f')) : s.Reports state :=
  stepFrom_reports sound inside advanced

theorem cancel_reports {s s' : Script Action} {f f' : Frame}
    (cancelled : s.cancel f = (s', f')) : s'.Reports .finished := by
  obtain ⟨actions, ip, suspended⟩ := s
  cases ip with
  | none =>
    obtain ⟨rfl, rfl⟩ := Prod.mk.inj cancelled
    exact ⟨rfl, rfl⟩
  | some ip =>
    simp only [Script.cancel] at cancelled
    obtain ⟨rfl, rfl⟩ := Prod.mk.inj cancelled
    exact ⟨by simp [length, Action.length_cancelFrom], rfl⟩

end Script

namespace Action

/-- A script may be parked on a condition exactly if that is so for the script below it. -/
theorem corruption?_conditional {condition : Condition} {script : Script Action} :
    (Action.conditional condition script).corruption? = none ↔
      script.suspended = true ∧ script.corruption? = none := by
  cases suspended : script.suspended <;>
    simp [Action.corruption?, Action.parkingFault?, suspended]

/-- A script may be parked on a verb that it runs exactly if that is so for the script of the verb
and the verb's owner is known. -/
theorem corruption?_runVerb {whose : Target} {verb : String} {target : Option String}
    {bound : Option Owner} {script : Script Action} :
    (Action.runVerb whose verb target bound script).corruption? = none ↔
      bound.isSome ∧ script.suspended = true ∧ script.corruption? = none := by
  cases bound <;> cases suspended : script.suspended <;>
    simp [Action.corruption?, Action.parkingFault?, suspended]

end Action

/-- What is attempted parks only if the effect does. -/
private theorem Frame.parks_of_attempt {f f' : Frame} {effect : Except Fault (Outcome × Frame)}
    (done : f.attempt effect = (.park, f')) : effect = .ok (.park, f') := by
  rcases Frame.attempt_eq done with succeeded | ⟨_, _, failed, _⟩
  · exact succeeded
  · cases failed

/-- Performing an action parks only where a script may be parked, if that is so for the scripts
that the action starts. -/
theorem Action.performWith_sound {inner : Option Performer}
    (innerSound : ∀ perform ∈ inner, perform.Sound) : (Action.performWith inner).Sound := by
  intro action f action' f' performed
  cases action with
  | showDialog actor dialog =>
    obtain ⟨rfl, _⟩ := Prod.mk.inj performed
    rfl
  | conditional condition script =>
    simp only [Action.performWith] at performed
    split at performed
    · cases performed
    · cases performed
    · cases inner with
      | none => cases performed
      | some perform =>
        simp only at performed
        rcases started : script.start perform (f.info
          s!"└─ action: Conditional(true), entering {script.length} action(s)") with
          ⟨script', state, f''⟩
        rw [started] at performed
        cases state with
        | finished => cases performed
        | suspended =>
          cases performed
          exact corruption?_conditional.mpr
            (Script.start_reports (innerSound perform rfl) started)
  | runVerb whose verb target bound script =>
    simp only [Action.performWith] at performed
    split at performed
    · cases performed
    · cases performed
    · next owner actions entered _ =>
      cases inner with
      | none => cases performed
      | some perform =>
        simp only at performed
        rcases started : (Script.ofActions actions).start perform
          (entered.enterScope (some owner)) with ⟨script', state, f''⟩
        rw [started] at performed
        cases state with
        | finished => cases performed
        | suspended =>
          cases performed
          exact corruption?_runVerb.mpr
            ⟨rfl, Script.start_reports (innerSound perform rfl) started⟩
  | cancelVerb whose verb target =>
    cases (Frame.cancelNamed_eq_ok (Frame.parks_of_attempt (Prod.mk.inj performed).2)).1
  | addVerb whose key script =>
    cases (Frame.addVerb_eq_ok (Frame.parks_of_attempt (Prod.mk.inj performed).2)).1
  | changeScene scene =>
    simp only [Action.performWith] at performed
    cases inner with
    | none => cases performed
    | some perform =>
      cases (Frame.onStage_eq_ok (Frame.parks_of_attempt (Prod.mk.inj performed).2)).1
  | _ => exact (Action.performWith_acts _ rfl performed).sound rfl

theorem Action.perform_sound (depth : Nat) : (Action.perform depth).Sound := by
  induction depth with
  | zero => exact Action.performWith_sound (by simp)
  | succ depth ih =>
    refine Action.performWith_sound ?_
    rintro _ ⟨⟩
    exact ih

/-! ## Going on -/

/-- Whether time that passes for an action keeps it one that a script may be parked on. -/
private def Action.TickSound (perform : Performer) (delta : Single) (action : Action) : Prop :=
  ∀ f action' f', action.corruption? = none →
    action.tick perform delta f = (action', .ok false, f') → action'.corruption? = none

private theorem Script.tick_reports_of {delta : Single} (sound : perform.Sound)
    {s s' : Script Action} {f f' : Frame} {state : RunState}
    (below : ∀ action ∈ s.actions, action.TickSound perform delta)
    (suspended : s.suspended = true) (scriptSound : s.corruption? = none)
    (ticked : s.tick perform delta f = (s', state, f')) : s'.Reports state := by
  obtain ⟨ip, action, same, here, actionSound⟩ :=
    Script.exists_ip_of_suspended scriptSound suspended
  obtain ⟨inside, _⟩ := List.getElem?_eq_some_iff.mp here
  rw [same, Script.tick_parked perform delta f here] at ticked
  rcases done : action.tick perform delta f with ⟨action', (reason | (_ | _)), f''⟩
  · rw [done] at ticked
    exact Script.advance_reports sound (by simpa using inside) ticked
  · rw [done] at ticked
    cases ticked
    refine ⟨rfl, Script.sound_parked_iff.mpr ⟨action', by simp [inside], ?_⟩⟩
    exact below action (List.mem_of_getElem? here) f action' f' actionSound done
  · rw [done] at ticked
    exact Script.advance_reports sound (by simpa using inside) ticked

private theorem Action.tickSound (sound : perform.Sound) (delta : Single) (action : Action) :
    action.TickSound perform delta := by
  induction action using Action.nestedInduction with
  | leaf action noInner =>
    intro f action' f' actionSound ticked
    cases action with
    | goto actor pos speed origin =>
      simp only [Action.tick] at ticked
      split at ticked
      · cases ticked
        exact actionSound
      · cases ticked
    | playAnimation actor animation duration waits elapsed =>
      simp only [Action.tick] at ticked
      split at ticked
      · cases ticked
        exact actionSound
      · obtain ⟨rfl, _⟩ := Prod.mk.inj ticked
        exact actionSound
    | say actor text duration waits elapsed =>
      obtain ⟨rfl, _⟩ := Prod.mk.inj ticked
      exact actionSound
    | wait seconds elapsed =>
      obtain ⟨rfl, _⟩ := Prod.mk.inj ticked
      exact actionSound
    | showDialog actor dialog =>
      cases ticked
      exact actionSound
    | conditional condition script => cases noInner
    | runVerb whose verb target bound script => cases noInner
    | _ => cases ticked
  | conditional condition script ih =>
    intro f action' f' actionSound ticked
    obtain ⟨suspended, scriptSound⟩ := corruption?_conditional.mp actionSound
    simp only [Action.tick] at ticked
    rcases done : script.tick perform delta f with ⟨script', state, f''⟩
    rw [done] at ticked
    have reports := Script.tick_reports_of sound ih suspended scriptSound done
    cases state with
    | finished => cases ticked
    | suspended =>
      cases ticked
      exact corruption?_conditional.mpr reports
  | runVerb whose verb target bound script ih =>
    intro f action' f' actionSound ticked
    obtain ⟨isBound, suspended, scriptSound⟩ := corruption?_runVerb.mp actionSound
    simp only [Action.tick] at ticked
    rcases done : script.tick perform delta (f.enterScope bound) with ⟨script', state, f''⟩
    rw [done] at ticked
    have reports := Script.tick_reports_of sound ih suspended scriptSound done
    cases state with
    | finished => cases ticked
    | suspended =>
      cases ticked
      exact corruption?_runVerb.mpr ⟨isBound, reports⟩

/-- Time that passes for a suspended script leaves it parked or at its end, as it reports. -/
theorem Script.tick_reports {delta : Single} (sound : perform.Sound) {s s' : Script Action}
    {f f' : Frame} {state : RunState} (suspended : s.suspended = true)
    (scriptSound : s.corruption? = none) (ticked : s.tick perform delta f = (s', state, f')) :
    s'.Reports state :=
  Script.tick_reports_of sound (fun action _ => Action.tickSound sound delta action) suspended
    scriptSound ticked

/-- Whether an action that is resumed and goes on waiting may still be waited on. -/
private def Action.ResumeSound (perform : Performer) (action : Action) : Prop :=
  ∀ f action' f', action.corruption? = none →
    action.resume perform f = .ok (action', .suspended, f') → action'.corruption? = none

private theorem Script.resume_reports_of (sound : perform.Sound) {s s' : Script Action}
    {f f' : Frame} {state : RunState} (below : ∀ action ∈ s.actions, action.ResumeSound perform)
    (scriptSound : s.corruption? = none) (resumed : s.resume perform f = .ok (s', state, f')) :
    s'.Reports state := by
  obtain ⟨ip, action, same, here⟩ := Script.exists_of_resume_eq_ok resumed
  obtain ⟨inside, _⟩ := List.getElem?_eq_some_iff.mp here
  rw [same] at scriptSound
  obtain ⟨action₂, here₂, actionSound⟩ := Script.sound_parked_iff.mp scriptSound
  obtain rfl : action = action₂ := Option.some.inj (here.symm.trans here₂)
  rw [same, Script.resume_parked perform f here] at resumed
  rcases done : action.resume perform f with reason | ⟨action', (_ | _), f''⟩
  · rw [done] at resumed
    cases resumed
  · rw [done] at resumed
    cases resumed
    refine ⟨rfl, Script.sound_parked_iff.mpr ⟨action', by simp [inside], ?_⟩⟩
    exact below action (List.mem_of_getElem? here) f action' f' actionSound done
  · rw [done] at resumed
    exact Script.advance_reports sound (by simpa using inside) (Except.ok.inj resumed)

private theorem Action.resumeSound (sound : perform.Sound) (action : Action) :
    action.ResumeSound perform := by
  induction action using Action.nestedInduction with
  | leaf action noInner =>
    intro f action' f' actionSound resumed
    cases action with
    | conditional condition script => cases noInner
    | runVerb whose verb target bound script => cases noInner
    | _ => cases resumed
  | conditional condition script ih =>
    intro f action' f' actionSound resumed
    obtain ⟨suspended, scriptSound⟩ := corruption?_conditional.mp actionSound
    simp only [Action.resume] at resumed
    cases done : script.resume perform f with
    | error reason => simp [done, Except.map] at resumed
    | ok answer =>
      simp only [done, Except.map, Except.ok.injEq, Prod.mk.injEq] at resumed
      obtain ⟨rfl, isSuspended, _⟩ := resumed
      have reports := Script.resume_reports_of sound ih scriptSound done
      rw [isSuspended] at reports
      exact corruption?_conditional.mpr reports
  | runVerb whose verb target bound script ih =>
    intro f action' f' actionSound resumed
    obtain ⟨isBound, suspended, scriptSound⟩ := corruption?_runVerb.mp actionSound
    simp only [Action.resume] at resumed
    cases done : script.resume perform (f.enterScope bound) with
    | error reason => simp [done, Except.map] at resumed
    | ok answer =>
      simp only [done, Except.map, Except.ok.injEq, Prod.mk.injEq] at resumed
      obtain ⟨rfl, isSuspended, _⟩ := resumed
      have reports := Script.resume_reports_of sound ih scriptSound done
      rw [isSuspended] at reports
      exact corruption?_runVerb.mpr ⟨isBound, reports⟩

/-- What a script waits for arrives and leaves it parked or at its end, as it reports. -/
theorem Script.resume_reports (sound : perform.Sound) {s s' : Script Action} {f f' : Frame}
    {state : RunState} (scriptSound : s.corruption? = none)
    (resumed : s.resume perform f = .ok (s', state, f')) : s'.Reports state :=
  Script.resume_reports_of sound (fun action _ => Action.resumeSound sound action) scriptSound
    resumed

/-! ## Whole verbs -/

/-- A verb that has asked for its own end is at its end, and any other is as it was left. -/
theorem Frame.settle_reports {s s' : Script Action} {state state' : RunState} {f f' : Frame}
    (reports : s.Reports state) (settled : f.settle s state = (s', state', f')) :
    s'.Reports state' := by
  unfold Frame.settle at settled
  split at settled
  · rcases done : { f with cancelRequested := false }.cancelVerb s with ⟨s'', f''⟩
    rw [done] at settled
    cases settled
    exact Script.cancel_reports done
  · cases state <;> (cases settled; exact reports)

/-- Settling a sound script changes it only to put it at its end. -/
private theorem Frame.settle_sound {s s' : Script Action} {state state' : RunState} {f f' : Frame}
    (scriptSound : s.corruption? = none) (settled : f.settle s state = (s', state', f')) :
    s'.corruption? = none ∧ (s'.IsBetween → s.IsBetween) := by
  unfold Frame.settle at settled
  split at settled
  · rcases done : { f with cancelRequested := false }.cancelVerb s with ⟨s'', f''⟩
    rw [done] at settled
    cases settled
    have reports : s'.Reports .finished := Script.cancel_reports done
    exact ⟨reports.sound, fun between => absurd between reports.not_isBetween⟩
  · cases state <;> (cases settled; exact ⟨scriptSound, id⟩)

/-- A verb that is run, resumed or cancelled is left as it reports. -/
theorem Driving.drive_reports (sound : perform.Sound) {driving : Driving} {s s' : Script Action}
    {f f' : Frame} {state : RunState} (scriptSound : s.corruption? = none)
    (answers : driving = .run ∨ driving = .resume ∨ driving = .cancel)
    (driven : driving.drive perform s f = .ok (s', state, f')) : s'.Reports state := by
  rcases answers with rfl | rfl | rfl
  · simp only [Driving.drive, Frame.run, Except.ok.injEq] at driven
    exact Frame.settle_reports (Script.start_reports sound rfl) driven
  · simp only [Driving.drive] at driven
    cases done : s.resume perform f with
    | error reason =>
      rw [done] at driven
      cases driven
    | ok answer =>
      obtain ⟨s'', state'', f''⟩ := answer
      rw [done] at driven
      exact Frame.settle_reports (Script.resume_reports sound scriptSound done)
        (Except.ok.inj driven)
  · simp only [Driving.drive, Except.ok.injEq, Prod.mk.injEq] at driven
    obtain ⟨rfl, rfl, _⟩ := driven
    exact Script.cancel_reports rfl

/-- A sound verb is left sound however it is driven, and not between two actions unless it was
there before; taking it up again gets it away from there. -/
theorem Driving.drive_sound (sound : perform.Sound) {driving : Driving} {s s' : Script Action}
    {f f' : Frame} {state : RunState} (scriptSound : s.corruption? = none)
    (driven : driving.drive perform s f = .ok (s', state, f')) :
    s'.corruption? = none ∧ (s'.IsBetween → s.IsBetween ∧ driving ≠ .reenter) := by
  have ofReports : ∀ state, s'.Reports state →
      s'.corruption? = none ∧ (s'.IsBetween → s.IsBetween ∧ driving ≠ .reenter) :=
    fun state reports =>
      ⟨reports.sound, fun between => absurd between reports.not_isBetween⟩
  cases driving with
  | run => exact ofReports _ (drive_reports sound scriptSound (by simp) driven)
  | resume => exact ofReports _ (drive_reports sound scriptSound (by simp) driven)
  | cancel => exact ofReports _ (drive_reports sound scriptSound (by simp) driven)
  | tick delta =>
    simp only [Driving.drive, Except.ok.injEq] at driven
    cases suspended : s.suspended with
    | true =>
      exact ofReports _ (Frame.settle_reports
        (Script.tick_reports sound suspended scriptSound rfl) driven)
    | false =>
      rw [Script.tick_of_not_suspended perform delta f suspended] at driven
      obtain ⟨isSound, kept⟩ := Frame.settle_sound scriptSound driven
      exact ⟨isSound, fun between => ⟨kept between, by simp⟩⟩
  | reenter =>
    simp only [Driving.drive, Except.ok.injEq] at driven
    by_cases between : s.IsBetween
    · obtain ⟨ip, _, inside, taken⟩ := between.reenter_eq perform f
      rw [taken] at driven
      exact ofReports _ (Frame.settle_reports
        (Script.stepFrom_reports sound (Nat.le_of_lt inside) rfl) driven)
    · rw [Script.reenter_of_not_isBetween perform f between] at driven
      obtain ⟨isSound, kept⟩ := Frame.settle_sound scriptSound driven
      exact ⟨isSound, fun left => absurd (kept left) between⟩

end Stagecraft
