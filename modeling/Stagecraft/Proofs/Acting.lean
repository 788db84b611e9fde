import Stagecraft.Proofs.Performance

/-!
# Acting

A verb that is driven takes its course out of its table and comes back into it.  Performing an
action is a course at every depth, so everything that verbs do to each other is one.
-/

namespace Stagecraft

variable {perform : Performer}

/-! ## Driving a verb of the world -/

namespace Driving

/-- Whether a way of driving minds what the verb waits for: only time that passes and taking up do
nothing for a verb that waits for a choice. -/
def Minds (driving : Driving) (s : Script Action) : Prop :=
  s.WaitsForChoice → driving = .run ∨ driving = .resume ∨ driving = .cancel

/-- Driving a verb is a course, for which cancelling performs nothing.  Running or cancelling a verb
that waits for a choice closes the dialog. -/
theorem drive_runs {driving : Driving} {s s' : Script Action} {f f' : Frame}
    {state : RunState} (runs : driving = .cancel ∨ perform.Runs) (minds : driving.Minds s)
    (steady : f.cancelRequested = false)
    (driven : driving.drive perform s f = .ok (s', state, f')) :
    ∃ deeds, f.Leaves deeds s' state f' ∧ (driving = .run ∨ driving = .cancel →
      s.WaitsForChoice → ∀ opened, f.stage.world.openDialog = some opened →
        opened.handle = f.handle → .closeDialog ∈ deeds) := by
  cases driving with
  | run =>
    have runs := runs.resolve_left (by simp)
    simp only [Driving.drive, Frame.run, Except.ok.injEq] at driven
    rcases started : s.start perform (f.info s!">>> running verb {f.handle.key.text}") with
      ⟨s₁, state₁, f₁⟩
    rw [started] at driven
    obtain ⟨deeds, ⟨runs', notSuspended⟩, closes⟩ := Script.start_runs runs started
    have left := (Frame.Runs.info f _).append runs'
    obtain ⟨more, settled⟩ := Frame.settle_runs ⟨left, notSuspended⟩ driven
    refine ⟨_, settled, fun _ waits opened isOpen own => ?_⟩
    exact List.mem_append_left _ (List.mem_append_right _ (closes waits opened isOpen own))
  | resume =>
    have runs := runs.resolve_left (by simp)
    simp only [Driving.drive] at driven
    cases done : s.resume perform f with
    | error reason =>
      rw [done] at driven
      cases driven
    | ok answer =>
      obtain ⟨s₁, state₁, f₁⟩ := answer
      rw [done] at driven
      obtain ⟨deeds, left⟩ := Script.resume_runs runs steady done
      obtain ⟨more, settled⟩ := Frame.settle_runs left (Except.ok.inj driven)
      exact ⟨_, settled, by simp⟩
  | tick delta =>
    have runs := runs.resolve_left (by simp)
    simp only [Driving.drive, Except.ok.injEq] at driven
    have notWaiting : ¬ s.WaitsForChoice := fun waits => by simpa using minds waits
    rcases ticked : s.tick perform delta f with ⟨s₁, state₁, f₁⟩
    rw [ticked] at driven
    obtain ⟨deeds, left⟩ := Script.tick_runs runs notWaiting steady ticked
    obtain ⟨more, settled⟩ := Frame.settle_runs left driven
    exact ⟨_, settled, by simp⟩
  | reenter =>
    have runs := runs.resolve_left (by simp)
    simp only [Driving.drive, Except.ok.injEq] at driven
    have notWaiting : ¬ s.WaitsForChoice := fun waits => by simpa using minds waits
    by_cases between : s.IsBetween
    · obtain ⟨ip, _, inside, taken⟩ := between.reenter_eq perform f
      rcases swept : Script.stepFrom perform ip s.actions f with ⟨s₁, state₁, f₁⟩
      rw [taken, swept] at driven
      obtain ⟨deeds, left⟩ := Script.stepFrom_runs runs (Nat.le_of_lt inside) swept
      obtain ⟨more, settled⟩ := Frame.settle_runs left driven
      exact ⟨_, settled, by simp⟩
    · rw [Script.reenter_of_not_isBetween perform f between] at driven
      have noChoice : awaitsChoice (s.leaf? f.scope) = false := by
        cases awaits : awaitsChoice (s.leaf? f.scope) with
        | false => rfl
        | true => exact absurd ⟨f.scope, awaits⟩ notWaiting
      have left : f.Leaves [] s s.runState f := by
        refine ⟨.park noChoice steady, ?_⟩
        unfold Script.runState
        split <;> simp_all
      obtain ⟨more, settled⟩ := Frame.settle_runs left driven
      exact ⟨_, settled, by simp⟩
  | cancel =>
    simp only [Driving.drive, Except.ok.injEq] at driven
    rcases cancelled : f.cancelVerb s with ⟨s₁, f₁⟩
    rw [cancelled] at driven
    cases driven
    obtain ⟨deeds, gives, _, closes, notSuspended⟩ := Frame.cancelVerb_runs cancelled
    refine ⟨deeds, ⟨?_, fun _ => notSuspended⟩, fun _ => closes⟩
    rw [Script.leaf?_of_not_suspended notSuspended]
    exact gives

/-- A verb that waits for a choice is left as it is when that is not minded. -/
theorem drive_of_not_minds {driving : Driving} {s : Script Action} {f : Frame}
    (perform : Performer) (notMinds : ¬ driving.Minds s) (steady : f.cancelRequested = false) :
    driving.drive perform s f = .ok (s, .suspended, f) := by
  obtain ⟨waits, notRun, notResume, notCancel⟩ :
      s.WaitsForChoice ∧ driving ≠ .run ∧ driving ≠ .resume ∧ driving ≠ .cancel := by
    simpa [Minds] using notMinds
  have settles : f.settle s .suspended = (s, .suspended, f) := by
    simp [Frame.settle, steady]
  cases driving with
  | tick delta =>
    simp only [Driving.drive, Script.tick_of_waitsForChoice perform delta f waits, settles]
  | reenter =>
    have suspended : s.suspended = true := by
      obtain ⟨_, _, _, rfl, _⟩ := waits.exists_parked
      rfl
    have notBetween : ¬ s.IsBetween := by
      intro between
      obtain ⟨_, _, _, notSuspended⟩ := between.exists_ip
      rw [suspended] at notSuspended
      cases notSuspended
    have runState : s.runState = .suspended := if_pos suspended
    simp only [Driving.drive, Script.reenter_of_not_isBetween perform f notBetween, runState,
      settles]
  | run => exact absurd rfl notRun
  | resume => exact absurd rfl notResume
  | cancel => exact absurd rfl notCancel

end Driving

namespace Stage

/-- Drive the verb of a handle, if it is in its table.  A verb that cannot be driven so is left
alone. -/
def driveVerb (perform : Performer) (driving : Driving) (s : Stage) (h : Handle) :
    Option (Except VerbError RunState) × Stage :=
  s.withVerb h fun script stage =>
    match driving.drive perform script (.enter h stage) with
    | .error reason => (script, .error reason, stage)
    | .ok (script, state, f) => (script, .ok state, f.stage)

/-- What is answered from a verb can be answered in another way. -/
theorem withVerb_map {α β : Type} (answer : α → β) (s : Stage) (h : Handle)
    (body : Script Action → Stage → Script Action × α × Stage) :
    s.withVerb h (fun script stage =>
        ((body script stage).1, answer (body script stage).2.1, (body script stage).2.2)) =
      ((s.withVerb h body).1.map answer, (s.withVerb h body).2) := by
  by_cases executing : h ∈ s.executing
  · simp [withVerb, executing]
  · cases found : s.world.script? h with
    | none => simp [withVerb, executing, found]
    | some script =>
      rw [withVerb_of_found executing found, withVerb_of_found executing found]
      rcases body script (s.lend h) with ⟨script', answered, after⟩
      simp only
      cases after.world.verbs? h.owner <;> rfl

/-- What has become of a verb that was to be driven, and of the stage. -/
inductive Driven (perform : Performer) (driving : Driving) (s : Stage) (h : Handle) :
    Option (Except VerbError RunState) × Stage → Prop
  /-- The verb is being driven already. -/
  | busy (text : String) (executing : h ∈ s.executing) :
      Driven perform driving s h (none, s.warn text)
  /-- There is no such verb. -/
  | missing (idle : h ∉ s.executing) (absent : s.world.script? h = none) :
      Driven perform driving s h (none, s)
  /-- The verb cannot be driven so. -/
  | refused {script : Script Action} {reason : VerbError} (idle : h ∉ s.executing)
      (found : s.world.script? h = some script)
      (refuses : driving.drive perform script (.enter h (s.lend h)) = .error reason) :
      Driven perform driving s h (some (.error reason), s)
  /-- The verb has been driven. -/
  | done {script script' : Script Action} {state : RunState} {f' : Frame} {deeds : List Deed}
      (idle : h ∉ s.executing) (found : s.world.script? h = some script)
      (driven : driving.drive perform script (.enter h (s.lend h)) = .ok (script', state, f'))
      (leaves : (Frame.enter h (s.lend h)).Leaves deeds script' state f')
      (closes : driving = .run ∨ driving = .cancel → awaitsChoice (script.leaf? h.owner) = true →
        ∀ opened, s.world.openDialog = some opened → opened.handle = h → .closeDialog ∈ deeds) :
      Driven perform driving s h
        (some (.ok state), (f'.stage.closing h script').apply f'.stage)

/-- A dialog is not opened or closed by lending verbs. -/
@[simp] theorem openDialog_lend (s : Stage) (h : Handle) :
    (s.lend h).world.openDialog = s.world.openDialog := by
  unfold lend World.modifyVerbs
  split <;> rfl

/-- A verb that is driven with success comes back. -/
theorem driveVerb_eq_of_ok {perform : Performer} {driving : Driving} {s : Stage} {h : Handle}
    {script script' : Script Action} {state : RunState} {f' : Frame} (idle : h ∉ s.executing)
    (found : s.world.script? h = some script)
    (driven : driving.drive perform script (.enter h (s.lend h)) = .ok (script', state, f'))
    (lent : f'.stage.executing = h :: s.executing) :
    s.driveVerb perform driving h =
      (some (.ok state), (f'.stage.closing h script').apply f'.stage) :=
  withVerb_eq idle found (by rw [driven]) lent

/-- Driving a verb that is minded leaves it in one of these ways. -/
theorem driven_driveVerb (perform : Performer) (driving : Driving) (s : Stage) (h : Handle)
    (runs : driving = .cancel ∨ perform.Runs)
    (minds : ∀ script, s.world.script? h = some script → driving.Minds script) :
    Driven perform driving s h (s.driveVerb perform driving h) := by
  by_cases executing : h ∈ s.executing
  · simp only [driveVerb, withVerb, executing, if_true]
    exact .busy _ executing
  · cases found : s.world.script? h with
    | none =>
      simp only [driveVerb, withVerb, executing, if_false, found]
      exact .missing executing found
    | some script =>
      cases driven : driving.drive perform script (.enter h (s.lend h)) with
      | error reason =>
        unfold driveVerb
        rw [withVerb_of_unchanged executing found (by rw [driven])]
        exact .refused executing found driven
      | ok answer =>
        obtain ⟨script', state, f'⟩ := answer
        obtain ⟨deeds, leaves, closes⟩ := Driving.drive_runs runs (minds script found) rfl driven
        have lent : f'.stage.executing = h :: s.executing := leaves.1.course.executing_eq
        rw [driveVerb_eq_of_ok executing found driven lent]
        refine .done executing found driven leaves fun restarts awaits opened isOpen own => ?_
        exact closes restarts ⟨h.owner, awaits⟩ opened (by simpa [Frame.enter] using isOpen) own

/-- Driving a verb is a course for anyone, in which the verb is taken so at most once, and verbs are
only run and cancelled after that. -/
theorem Driven.exists_own {depth : Nat} {driving : Driving} {s : Stage} {h : Handle}
    {result : Option (Except VerbError RunState) × Stage}
    (driven : Driven (Action.perform depth) driving s h result) (driver : Option Handle) :
    ∃ own rest, own.Sublist [.take h driving] ∧ Deed.AmongVerbs rest ∧
      Course driver s (own ++ rest) result.2 none := by
  cases driven with
  | busy text =>
    exact ⟨[], [.note .warning text], List.nil_sublist _, by simp [Deed.AmongVerbs],
      .ofDeeds ⟨trivial, trivial⟩⟩
  | missing => exact ⟨[], [], List.nil_sublist _, .nil, .ended⟩
  | refused => exact ⟨[], [], List.nil_sublist _, .nil, .ended⟩
  | @done _ script' _ f' deeds idle found driven leaves closes =>
    have comesBack : Deed.AmongVerbs [f'.stage.closing h script'] := by
      unfold closing
      split
      · split <;> simp [Deed.AmongVerbs]
      · simp [Deed.AmongVerbs]
    exact ⟨[.take h driving], _, .refl _, leaves.1.amongVerbs.append comesBack,
      .drive driving depth idle found driven leaves.1.course closes .ended⟩

/-- Driving a verb is a course for anyone. -/
theorem Driven.course {depth : Nat} {driving : Driving} {s : Stage} {h : Handle}
    {result : Option (Except VerbError RunState) × Stage}
    (driven : Driven (Action.perform depth) driving s h result) (driver : Option Handle) :
    ∃ deeds, Course driver s deeds result.2 none := by
  obtain ⟨own, rest, _, _, course⟩ := driven.exists_own driver
  exact ⟨own ++ rest, course⟩

/-- Running or cancelling a verb is a course in which verbs are only run and cancelled. -/
theorem Driven.course_amongVerbs {depth : Nat} {driving : Driving} {s : Stage} {h : Handle}
    {result : Option (Except VerbError RunState) × Stage}
    (driven : Driven (Action.perform depth) driving s h result)
    (either : driving = .run ∨ driving = .cancel) (driver : Option Handle) :
    ∃ deeds, Course driver s deeds result.2 none ∧ Deed.AmongVerbs deeds := by
  obtain ⟨own, rest, atMost, amongVerbs, course⟩ := driven.exists_own driver
  refine ⟨own ++ rest, course, Deed.AmongVerbs.append ?_ amongVerbs⟩
  intro g other member
  obtain ⟨_, rfl⟩ : g = h ∧ other = driving := by simpa using atMost.subset member
  exact either

/-! ## The operations that drive a verb -/

/-- The script, the answer and the stage that are left when a frame is. -/
private def leaving {α : Type} (done : Script Action × α × Frame) : Script Action × α × Stage :=
  (done.1, done.2.1, done.2.2.stage)

/-- What is left of a verb that has been driven, after it has settled. -/
private def settled (done : Script Action × RunState × Frame) :
    Script Action × RunState × Stage :=
  leaving (done.2.2.settle done.1 done.2.1)

/-- What is left of a verb that is to be resumed. -/
private def resuming (perform : Performer) (h : Handle) (script : Script Action) (stage : Stage) :
    Script Action × Except VerbError RunState × Stage :=
  match script.resume perform (Frame.enter h stage) with
  | .error reason => (script, .error reason, stage)
  | .ok (script, state, f) =>
    let (script, state, f) := f.settle script state
    (script, .ok state, f.stage)

/-- A verb is run by driving it. -/
theorem runHandle_eq (perform : Performer) (s : Stage) (h : Handle) :
    s.driveVerb perform .run h =
      ((s.runHandle perform h).1.map .ok, (s.runHandle perform h).2) :=
  withVerb_map (fun state => (.ok state : Except VerbError RunState)) s h fun script stage =>
    leaving ((Frame.enter h stage).run perform script)

/-- A verb is cancelled by driving it. -/
theorem cancelVerb_eq (perform : Performer) (s : Stage) (h : Handle) :
    s.cancelVerb h =
      ((s.driveVerb perform .cancel h).1.isSome, (s.driveVerb perform .cancel h).2) := by
  have same : s.driveVerb perform .cancel h = _ :=
    withVerb_map (fun _ => (.ok .finished : Except VerbError RunState)) s h fun script stage =>
      leaving (((Frame.enter h stage).cancelVerb script).1, (),
        ((Frame.enter h stage).cancelVerb script).2)
  rw [same]
  simp only [Option.isSome_map]
  rfl

/-- Time passes for a verb by driving it. -/
theorem tickVerb_eq (perform : Performer) (delta : Single) (s : Stage) (h : Handle) :
    s.tickVerb perform delta h = (s.driveVerb perform (.tick delta) h).2 :=
  (congrArg Prod.snd
    (withVerb_map (fun state => (.ok state : Except VerbError RunState)) s h fun script stage =>
      settled (script.tick perform delta (Frame.enter h stage)))).symm

/-- A verb is resumed by driving it. -/
theorem resumeVerb_eq (s : Stage) (h : Handle) (depth : Nat) :
    s.resumeVerb h depth =
      ((s.driveVerb (Action.perform depth) .resume h).1.getD (.error (.notFound h)),
        (s.driveVerb (Action.perform depth) .resume h).2) := by
  have same : s.withVerb h (resuming (Action.perform depth) h) =
      s.driveVerb (Action.perform depth) .resume h := by
    refine congrArg (s.withVerb h) (funext fun script => funext fun stage => ?_)
    simp only [resuming, Driving.drive]
    cases script.resume (Action.perform depth) (Frame.enter h stage) <;> rfl
  exact congrArg (fun (result : Option (Except VerbError RunState) × Stage) =>
    (result.1.getD (.error (.notFound h)), result.2)) same

/-- A verb is taken up again by driving it. -/
theorem reenterVerb_eq (perform : Performer) (s : Stage) (h : Handle) :
    s.reenterVerb perform h = (s.world.script? h).elim s fun script =>
      if script.IsBetween then
        ((s.info s!"re-entering verb {h.text} after load").driveVerb perform .reenter h).2
      else s := by
  unfold reenterVerb
  cases s.world.script? h with
  | none => rfl
  | some script =>
    have mapped := withVerb_map (fun state => (.ok state : Except VerbError RunState))
      (s.info s!"re-entering verb {h.text} after load") h fun script stage =>
        settled (script.reenter perform (Frame.enter h stage))
    by_cases between : script.IsBetween
    · have condition : (script.isRunning && !script.isParked) = true := by
        simp [between.1, between.2]
      exact (if_pos condition).trans ((congrArg Prod.snd mapped).symm.trans (if_pos between).symm)
    · have condition : ¬ (script.isRunning && !script.isParked) = true := by
        intro both
        exact between (by simpa [Script.IsBetween] using both)
      exact (if_neg condition).trans (if_neg between).symm

/-! ## Running and cancelling as courses -/

/-- Running a verb is a course for anyone. -/
theorem runHandle_course {depth : Nat} (runs : (Action.perform depth).Runs)
    (driver : Option Handle) (s : Stage) (h : Handle) :
    ∃ deeds, Course driver s deeds (s.runHandle (Action.perform depth) h).2 none ∧
      Deed.AmongVerbs deeds := by
  have driven := driven_driveVerb (Action.perform depth) .run s h (.inr runs) fun _ _ _ => .inl rfl
  rw [runHandle_eq] at driven
  exact driven.course_amongVerbs (.inl rfl) driver

/-- Cancelling a verb is a course for anyone.  No depth is used up by it. -/
theorem cancelVerb_course (driver : Option Handle) (s : Stage) (h : Handle) :
    ∃ deeds, Course driver s deeds (s.cancelVerb h).2 none ∧ Deed.AmongVerbs deeds := by
  have driven := driven_driveVerb (Action.perform 0) .cancel s h (.inl rfl) fun _ _ _ =>
    .inr (.inr rfl)
  rw [cancelVerb_eq (Action.perform 0)]
  exact driven.course_amongVerbs (.inr rfl) driver

theorem runNamed_course {depth : Nat} (runs : (Action.perform depth).Runs)
    (driver : Option Handle) (s : Stage) (owner : Owner) (id : String) (target : Option String) :
    ∃ deeds, Course driver s deeds (s.runNamed (Action.perform depth) owner id target).2 none ∧
      Deed.AmongVerbs deeds := by
  unfold runNamed
  split
  · exact runHandle_course runs driver s _
  · exact ⟨[], .ended, .nil⟩

/-- Going to a scene is a course for anyone. -/
theorem goToScene_course {depth : Nat} (runs : (Action.perform depth).Runs)
    (driver : Option Handle) {s s' : Stage} {id : String}
    (went : s.goToScene (Action.perform depth) id = .ok s') :
    ∃ deeds, Course driver s deeds s' none ∧ Deed.AmongVerbs deeds := by
  unfold goToScene at went
  split at went
  · next present =>
    cases went
    have allowed : Deed.AllAllowed driver s [.goTo id,
        .note .info s!"current scene is now '{id}'", .emit (.sceneChanged id)] :=
      ⟨present, trivial, trivial, trivial⟩
    obtain ⟨deeds, run, amongVerbs⟩ := runNamed_course runs driver
      (Deed.applyAll [.goTo id, .note .info s!"current scene is now '{id}'",
        .emit (.sceneChanged id)] s) (.scene id) "init" none
    exact ⟨_, (Course.ofDeeds allowed).append run, allowed.amongVerbs.append amongVerbs⟩
  · cases went

end Stage

/-! ## Performing actions -/

/-- An effect is attempted in a course if it is one when it succeeds. -/
private theorem Frame.attempt_runs {f f' : Frame} {effect : Except Fault (Outcome × Frame)}
    {outcome : Outcome} (action : Action) (attempted : f.attempt effect = (outcome, f'))
    (succeeds : ∀ outcome f', effect = .ok (outcome, f') →
      ∃ deeds, f.Runs deeds f' (outcome.leaf action f.scope)) :
    ∃ deeds, f.Runs deeds f' (outcome.leaf action f.scope) := by
  rcases Frame.attempt_eq attempted with done | ⟨reason, _, rfl, rfl⟩
  · exact succeeds outcome f' done
  · exact ⟨[], .ended f'⟩

/-- What is done directly is a course, after which the verb may wait for anything but a choice. -/
private theorem Frame.Acts.runs {f f' : Frame} {action action' : Action} {outcome : Outcome}
    (acts : f.Acts action action' outcome f') (steady : f.cancelRequested = false) :
    ∃ deeds, f.Runs deeds f' (outcome.leaf action' f.scope) := by
  rcases acts with ⟨direct, _, _, deeds, rfl, allowed, _⟩
  cases outcome with
  | park =>
    have noChoice : awaitsChoice (action'.leaf? f.scope) = false := by
      cases action' <;> first | rfl | cases direct
    exact ⟨deeds, .parkAfter allowed noChoice steady⟩
  | proceed => exact ⟨deeds, .ofDeeds allowed⟩
  | fault reason => exact ⟨deeds, .ofDeeds allowed⟩

/-- A dialog is opened by the verb that parks on it. -/
private theorem Frame.showDialog_runs {f f' : Frame} {actor : Option String} {dialog : String}
    {outcome : Outcome} (steady : f.cancelRequested = false)
    (done : f.showDialog actor dialog = .ok (outcome, f')) :
    ∃ deeds, f.Runs deeds f' (outcome.leaf (.showDialog actor dialog) f.scope) := by
  rcases Frame.showDialog_eq_ok done with ⟨rfl, text, rfl⟩ |
    ⟨rfl, scene, id, text, options, meant, free, _, rfl⟩
  · exact ⟨_, .info f text⟩
  · refine ⟨_, .shown scene id actor dialog f.scope text _ free, rfl, rfl, fun _ => steady,
      by simp [Deed.AmongVerbs], ?_⟩
    rintro _ _ _ ⟨⟩
    exact ⟨scene, id, rfl, meant⟩

/-- Another verb is cancelled, or the verb itself is asked to end. -/
private theorem Frame.cancelNamed_runs {f f' : Frame} {whose : Target} {verb : String}
    {target : Option String} {outcome : Outcome} {action : Action}
    (done : f.cancelNamed whose verb target = .ok (outcome, f')) :
    ∃ deeds, f.Runs deeds f' (outcome.leaf action f.scope) := by
  obtain ⟨rfl, text, ⟨requested, rfl⟩ | ⟨h, _, _, stage, rfl, cancels⟩⟩ :=
    Frame.cancelNamed_eq_ok done
  · have noted := Frame.Runs.info f text
    exact ⟨_, noted.course, noted.handle_eq, noted.scope_eq, nofun, noted.amongVerbs,
      noted.shows⟩
  · have noted := Frame.Runs.info f text
    obtain ⟨deeds, cancelled, amongVerbs⟩ :=
      Stage.cancelVerb_course (some f.handle) (f.info text).stage h
    have cancelRuns := Frame.Runs.ofCourse (f := f.info text) cancelled amongVerbs
    rcases cancels with rfl | ⟨warning, rfl⟩
    · exact ⟨_, noted.append cancelRuns⟩
    · have warned : Frame.Runs _ [.note .warning warning] _ none :=
        .ofDeeds (f := { f.info text with stage := ((f.info text).stage.cancelVerb h).2 })
          ⟨trivial, trivial⟩
      exact ⟨_, noted.append (cancelRuns.append warned)⟩

/-- Performing an action is a course, if that is so for the scripts that the action starts. -/
theorem Action.performWith_runs (inner : Option Nat)
    (innerRuns : ∀ depth ∈ inner, (Action.perform depth).Runs) :
    (Action.performWith (inner.map Action.perform)).Runs := by
  intro action f action' outcome f' steady performed
  cases action with
  | showDialog actor dialog =>
    obtain ⟨rfl, attempted⟩ := Prod.mk.inj performed
    exact Frame.attempt_runs _ attempted fun outcome f' done => Frame.showDialog_runs steady done
  | conditional condition script =>
    simp only [Action.performWith] at performed
    split at performed
    · cases performed
      exact ⟨[], .ended f⟩
    · cases performed
      exact ⟨_, .info f _⟩
    · cases inner with
      | none =>
        cases performed
        exact ⟨[], .ended f⟩
      | some depth =>
        simp only [Option.map_some] at performed
        rcases started : script.start (Action.perform depth) (f.info
          s!"└─ action: Conditional(true), entering {script.length} action(s)") with
          ⟨script', state, f₁⟩
        rw [started] at performed
        cases performed
        obtain ⟨deeds, left, _⟩ := Script.start_runs (innerRuns depth rfl) started
        obtain ⟨more, runs⟩ := left.attends (.conditional condition script') rfl
        rw [← Outcome.leaf_ofRunState] at runs
        exact ⟨_, (Frame.Runs.info f _).append runs⟩
  | runVerb whose verb target bound script =>
    simp only [Action.performWith] at performed
    split at performed
    · cases performed
      exact ⟨[], .ended f⟩
    · next f₁ none_ =>
      cases performed
      obtain ⟨text, rfl⟩ := Frame.inlineVerb_eq_ok none_
      exact ⟨_, .info f text⟩
    · next owner actions f₁ some_ =>
      obtain ⟨text, rfl⟩ := Frame.inlineVerb_eq_ok some_
      cases inner with
      | none =>
        cases performed
        exact ⟨_, .info f text⟩
      | some depth =>
        simp only [Option.map_some] at performed
        rcases started : (Script.ofActions actions).start (Action.perform depth)
          ((f.info text).enterScope (some owner)) with ⟨script', state, f₂⟩
        rw [started] at performed
        cases performed
        obtain ⟨deeds, left, _⟩ := Script.start_runs (innerRuns depth rfl) started
        obtain ⟨more, runs⟩ :=
          left.attendsInScope (.runVerb whose verb target (some owner) script') rfl
        rw [← Outcome.leaf_ofRunState] at runs
        exact ⟨_, (Frame.Runs.info f text).append runs⟩
  | cancelVerb whose verb target =>
    obtain ⟨rfl, attempted⟩ := Prod.mk.inj performed
    exact Frame.attempt_runs _ attempted fun outcome f' done => Frame.cancelNamed_runs done
  | addVerb whose key script =>
    obtain ⟨rfl, attempted⟩ := Prod.mk.inj performed
    refine Frame.attempt_runs _ attempted fun outcome f' done => ?_
    obtain ⟨rfl, owner, text, _, notOwn, present, rfl⟩ := Frame.addVerb_eq_ok done
    exact ⟨_, .ofDeeds ⟨trivial, ⟨⟨f.handle, rfl, notOwn⟩, present, script, rfl⟩, trivial⟩⟩
  | changeScene scene =>
    simp only [Action.performWith] at performed
    have noted := Frame.Runs.info f s!"└─ action: ChangeScene({scene})"
    cases inner with
    | none =>
      cases performed
      exact ⟨_, noted⟩
    | some depth =>
      simp only [Option.map_some] at performed
      obtain ⟨rfl, attempted⟩ := Prod.mk.inj performed
      obtain ⟨deeds, runs⟩ := Frame.attempt_runs (.changeScene scene) attempted
        fun outcome f' done => by
          obtain ⟨rfl, stage, went, rfl⟩ := Frame.onStage_eq_ok done
          obtain ⟨deeds, course, amongVerbs⟩ := Stage.goToScene_course (innerRuns depth rfl)
            (some f.handle) went
          exact ⟨deeds, .ofCourse course amongVerbs⟩
      exact ⟨_, noted.append runs⟩
  | _ => exact (Action.performWith_acts _ rfl performed).runs steady

/-- Performing an action is a course at every depth. -/
theorem Action.perform_runs (depth : Nat) : (Action.perform depth).Runs := by
  induction depth with
  | zero => exact Action.performWith_runs none (by simp)
  | succ depth ih =>
    refine Action.performWith_runs (some depth) ?_
    rintro _ ⟨⟩
    exact ih

end Stagecraft
