import Stagecraft.Proofs.GivingUp

/-!
# Performances

Whatever a verb does while it is driven is a course: performing an action, sweeping a script, and
going on with it when time passes or when what it waits for arrives.
-/

namespace Stagecraft

/-- The action on which a performed action leaves its script parked, if it does. -/
def Outcome.leaf (outcome : Outcome) (action : Action) (owner : Owner) : Leaf :=
  match outcome with
  | .park => action.leaf? owner
  | _ => none

/-- An action around a script parks as long as the script is suspended. -/
theorem Outcome.leaf_ofRunState (state : RunState) (action : Action) (owner : Owner) :
    (Outcome.ofRunState state).leaf action owner =
      if state == .suspended then action.leaf? owner else none := by
  cases state <;> rfl

/-- What performs actions does so in courses. -/
def Performer.Runs (perform : Performer) : Prop :=
  ∀ action f action' outcome f', f.cancelRequested = false →
    perform action f = (action', outcome, f') →
      ∃ deeds, f.Runs deeds f' (outcome.leaf action' f.scope)

variable {perform : Performer}

/-! ## Sweeping -/

/-- The leaf of a script whose cursor is where a sweep has come to. -/
private theorem leaf?_at {before swept : List Action} {action : Action} {ip : Nat} {owner : Owner}
    (length_eq : before.length = ip) :
    Script.leaf? owner ⟨before ++ action :: swept, some ip, true⟩ = action.leaf? owner := by
  subst length_eq
  simp [Script.leaf?, Action.leafAt?_eq]

/-- A sweep is a course that ends with what it leaves behind in the whole script. -/
theorem Action.sweep_runs (runs : perform.Runs) {ip : Nat} {actions swept : List Action}
    {f f' : Frame} {reached : Nat} {state : RunState} (before : List Action)
    (length_eq : before.length = ip)
    (swept_eq : Action.sweep perform ip actions f = (swept, reached, state, f')) :
    ∃ deeds, f.Runs deeds f'
      (Script.leaf? f.scope ⟨before ++ swept, some reached, state == .suspended⟩) := by
  induction actions generalizing ip before swept f with
  | nil =>
    cases swept_eq
    exact ⟨[], .ended _⟩
  | cons action rest ih =>
    unfold Action.sweep at swept_eq
    split at swept_eq
    · obtain ⟨deeds, gives, _⟩ := Action.cancelFrom_givesUp 0 (action :: rest) f
      cases swept_eq
      exact ⟨deeds, gives⟩
    · next notRequested =>
      rcases performed : perform action f with ⟨done, outcome, f₁⟩
      rw [performed] at swept_eq
      obtain ⟨deeds, first⟩ := runs action f done outcome f₁ (by simpa using notRequested)
        performed
      cases outcome with
      | park =>
        cases swept_eq
        refine ⟨deeds, ?_⟩
        have sameLeaf : Script.leaf? f.scope
            ⟨before ++ done :: rest, some reached, true⟩ = done.leaf? f.scope :=
          leaf?_at length_eq
        exact sameLeaf ▸ first
      | proceed =>
        rcases later : Action.sweep perform (ip + 1) rest f₁ with ⟨swept', reached', state', f₂⟩
        simp only [later] at swept_eq
        cases swept_eq
        obtain ⟨more, second⟩ := ih (before ++ [done]) (by simp [length_eq]) later
        rw [first.scope_eq, ← List.append_cons] at second
        exact ⟨deeds ++ more, first.append second⟩
      | fault reason =>
        rcases later : Action.sweep perform (ip + 1) rest (f₁.error
          s!"{f₁.handle.key.text} step {ip} ({done.name}) failed: {reason.message}") with
          ⟨swept', reached', state', f₂⟩
        simp only [later] at swept_eq
        cases swept_eq
        obtain ⟨more, second⟩ := ih (before ++ [done]) (by simp [length_eq]) later
        have failed := first.append (.error f₁
          s!"{f₁.handle.key.text} step {ip} ({done.name}) failed: {reason.message}")
        rw [failed.scope_eq, ← List.append_cons] at second
        exact ⟨_, failed.append second⟩

/-- What one verb does to leave a script behind.  A script that is reported to be finished is parked
on nothing. -/
def Frame.Leaves (f : Frame) (deeds : List Deed) (s : Script Action)
    (state : RunState) (f' : Frame) : Prop :=
  f.Runs deeds f' (s.leaf? f.scope) ∧ (state = .finished → s.suspended = false)

namespace Script

/-- Nothing is waited for below a script that is not suspended. -/
theorem leaf?_of_not_suspended {s : Script Action} {owner : Owner}
    (notSuspended : s.suspended = false) : s.leaf? owner = none := by
  obtain ⟨actions, ip, suspended⟩ := s
  subst notSuspended
  cases ip <;> rfl

/-- Nothing is waited for below a script that has not been started. -/
theorem leaf?_reset (s : Script Action) (owner : Owner) : s.reset.leaf? owner = none := by
  rw [reset_eq]
  rfl

/-- A script that is not suspended does not wait. -/
theorem not_waitsForChoice {s : Script Action} (notSuspended : s.suspended = false) :
    ¬ s.WaitsForChoice := by
  rintro ⟨owner, isChoice⟩
  rw [leaf?_of_not_suspended notSuspended] at isChoice
  cases isChoice

/-- Sweeping a script from a position is a course. -/
theorem stepFrom_runs (runs : perform.Runs) {ip : Nat} {actions : List Action} {f f' : Frame}
    {s : Script Action} {state : RunState} (inside : ip ≤ actions.length)
    (swept_eq : stepFrom perform ip actions f = (s, state, f')) :
    ∃ deeds, f.Leaves deeds s state f' := by
  unfold stepFrom at swept_eq
  rcases swept : Action.sweep perform ip (actions.drop ip) f with ⟨left, reached, state', f''⟩
  rw [swept] at swept_eq
  cases swept_eq
  obtain ⟨deeds, course⟩ := Action.sweep_runs runs (actions.take ip) (by simp [inside])
    swept
  refine ⟨deeds, course, ?_⟩
  rintro rfl
  rfl

/-- Running a script from its first action is a course, which begins with giving up the action at
its cursor. -/
theorem start_runs (runs : perform.Runs) {s s' : Script Action} {f f' : Frame} {state : RunState}
    (started : s.start perform f = (s', state, f')) :
    ∃ deeds, f.Leaves deeds s' state f' ∧ (s.WaitsForChoice →
      ∀ opened, f.stage.world.openDialog = some opened → opened.handle = f.handle →
        .closeDialog ∈ deeds) := by
  obtain ⟨deeds, released, _, _, closes⟩ := s.release_givesUp f
  obtain ⟨more, swept, notSuspended⟩ := stepFrom_runs runs (Nat.zero_le _) started
  rw [released.scope_eq] at swept
  refine ⟨deeds ++ more, ⟨released.append swept, notSuspended⟩, ?_⟩
  intro waits opened isOpen own
  exact List.mem_append_left _ (closes waits opened isOpen own)

/-- Going on past an action is a course. -/
theorem advance_runs (runs : perform.Runs) {ip : Nat} {actions : List Action} {f f' : Frame}
    {s : Script Action} {state : RunState} (inside : ip < actions.length)
    (advanced : advance perform ip actions f = (s, state, f')) :
    ∃ deeds, f.Leaves deeds s state f' :=
  stepFrom_runs runs inside advanced

end Script

/-! ## Whole verbs -/

/-- Cancelling a whole verb is a course, which opens no dialog and closes the one on which the verb
waits. -/
theorem Frame.cancelVerb_runs {f f' : Frame} {s s' : Script Action}
    (cancelled : f.cancelVerb s = (s', f')) :
    ∃ deeds, f.Runs deeds f' none ∧ (∀ opened, .openDialog opened ∉ deeds) ∧ (s.WaitsForChoice →
      ∀ opened, f.stage.world.openDialog = some opened → opened.handle = f.handle →
        .closeDialog ∈ deeds) ∧ s'.suspended = false := by
  obtain ⟨deeds, gives, _, opensNone, closes⟩ := s.cancel_givesUp
    (f.info s!">>> cancelling verb {f.handle.key.text}")
  unfold Frame.cancelVerb at cancelled
  rw [cancelled] at gives
  refine ⟨_, (Frame.Runs.info f _).append gives, by simpa using opensNone, ?_,
    (Script.cancel_reports cancelled).2⟩
  intro waits opened isOpen own
  exact List.mem_append_right _ (closes waits opened isOpen own)

/-- A verb that is parked is left as it is, and any other is ended or noted to be at its end. -/
theorem Frame.settle_runs {f f₁ f' : Frame} {deeds : List Deed} {s s' : Script Action}
    {state state' : RunState} (left : f.Leaves deeds s state f₁)
    (settled : f₁.settle s state = (s', state', f')) :
    ∃ more, f.Leaves (deeds ++ more) s' state' f' := by
  obtain ⟨runs, notSuspended⟩ := left
  unfold Frame.settle at settled
  split at settled
  · next requested =>
    have noLeaf : s.leaf? f.scope = none := by
      cases parked : s.leaf? f.scope with
      | none => rfl
      | some leaf =>
        have steady := runs.steady (by simp [parked])
        simp [requested] at steady
    rw [noLeaf] at runs
    have calm : f.Runs deeds { f₁ with cancelRequested := false } none :=
      ⟨runs.course, runs.handle_eq, runs.scope_eq, by simp, runs.amongVerbs, runs.shows⟩
    rcases cancelled : { f₁ with cancelRequested := false }.cancelVerb s with ⟨s₂, f₂⟩
    rw [cancelled] at settled
    cases settled
    obtain ⟨more, gives, _, _, notSuspended'⟩ := Frame.cancelVerb_runs cancelled
    refine ⟨more, ?_, fun _ => notSuspended'⟩
    rw [Script.leaf?_of_not_suspended notSuspended']
    exact calm.append gives
  · cases state with
    | suspended =>
      cases settled
      exact ⟨[], by simpa using ⟨runs, notSuspended⟩⟩
    | finished =>
      cases settled
      have noLeaf : s.leaf? f.scope = none := Script.leaf?_of_not_suspended (notSuspended rfl)
      rw [noLeaf] at runs
      have finished := runs.append (.info f₁ s!">>> verb {f₁.handle.key.text} finished")
      rw [← noLeaf] at finished
      exact ⟨_, finished, notSuspended⟩

/-! ## Going on -/

/-- What one verb does for the action on which it is parked: unless the action is over then, the
verb is still parked on it. -/
def Frame.Attends (f : Frame) (action : Action) (goesOn : Bool) (f' : Frame) : Prop :=
  ∃ deeds, f.Runs deeds f' (if goesOn then action.leaf? f.scope else none)

/-- What is done for the action at its cursor is what a parked script does. -/
private theorem Frame.Attends.leaves {f f' : Frame} {actions : List Action} {action : Action}
    {ip : Nat} (inside : ip < actions.length) (attends : f.Attends action true f') :
    ∃ deeds, f.Leaves deeds ⟨actions.set ip action, some ip, true⟩ .suspended f' := by
  obtain ⟨deeds, runs⟩ := attends
  refine ⟨deeds, ?_, by simp⟩
  simpa [Script.leaf?, Action.leafAt?_eq, inside] using runs

/-- When the action at its cursor is over, a script goes on past it. -/
private theorem Frame.Attends.advances (runs : perform.Runs) {f f₁ f' : Frame}
    {actions : List Action} {action action' : Action} {ip : Nat} {s : Script Action}
    {state : RunState} (inside : ip < actions.length) (attends : f.Attends action false f₁)
    (advanced : Script.advance perform ip (actions.set ip action') f₁ = (s, state, f')) :
    ∃ deeds, f.Leaves deeds s state f' := by
  obtain ⟨deeds, first⟩ := attends
  obtain ⟨more, second, notSuspended⟩ := Script.advance_runs runs (by simpa using inside) advanced
  rw [first.scope_eq] at second
  exact ⟨deeds ++ more, first.append second, notSuspended⟩

/-- An action goes on as long as the script in it is suspended. -/
theorem Frame.Leaves.attends {f f' : Frame} {deeds : List Deed} {s : Script Action}
    {state : RunState} (left : f.Leaves deeds s state f') (action : Action)
    (sameLeaf : action.leaf? f.scope = s.leaf? f.scope) :
    f.Attends action (state == .suspended) f' := by
  obtain ⟨runs, notSuspended⟩ := left
  refine ⟨deeds, ?_⟩
  cases state with
  | suspended => simpa [sameLeaf] using runs
  | finished => simpa [Script.leaf?_of_not_suspended (notSuspended rfl)] using runs

/-- The same where the script in the action runs for another owner. -/
theorem Frame.Leaves.attendsInScope {f f' : Frame} {deeds : List Deed} {s : Script Action}
    {state : RunState} {bound : Option Owner} (left : (f.enterScope bound).Leaves deeds s state f')
    (action : Action) (sameLeaf : action.leaf? f.scope = s.leaf? (bound.getD f.scope)) :
    f.Attends action (state == .suspended) (f.leaveScope f') := by
  obtain ⟨inner, notSuspended⟩ := left
  have runs : f.Runs deeds (f.leaveScope f') (s.leaf? (bound.getD f.scope)) := inner.inScope
  refine ⟨deeds, ?_⟩
  cases state with
  | suspended => simpa [sameLeaf] using runs
  | finished => simpa [Script.leaf?_of_not_suspended (notSuspended rfl)] using runs

/-- Whether an action that time passes for goes on. -/
def goesOn : Except Fault Bool → Bool
  | .ok false => true
  | _ => false

/-- An action that waits for anything but a choice goes on waiting, or is over. -/
private theorem Frame.Attends.restsOn {f : Frame} {action : Action} {passed : Prop} [Decidable passed]
    (noChoice : awaitsChoice (action.leaf? f.scope) = false) (steady : f.cancelRequested = false) :
    f.Attends action (goesOn (.ok (decide passed))) f := by
  refine ⟨[], ?_⟩
  by_cases isOver : passed
  · simpa [goesOn, isOver] using Frame.Runs.ended f
  · simpa [goesOn, isOver] using Frame.Runs.park noChoice steady

/-- Whether it is a course when time passes for an action that does not wait for a choice. -/
def Action.TickRuns (perform : Performer) (delta : Single) (action : Action) : Prop :=
  ∀ f action' done f', ¬ action.WaitsForChoice → f.cancelRequested = false →
    action.tick perform delta f = (action', done, f') → f.Attends action' (goesOn done) f'

private theorem Script.tick_runs_of (runs : perform.Runs) {delta : Single} {s s' : Script Action}
    {f f' : Frame} {state : RunState} (below : ∀ action ∈ s.actions, action.TickRuns perform delta)
    (noChoice : ¬ s.WaitsForChoice) (steady : f.cancelRequested = false)
    (ticked : s.tick perform delta f = (s', state, f')) : ∃ deeds, f.Leaves deeds s' state f' := by
  rcases s.parked_or_still with ⟨actions, ip, action, rfl, here⟩ | still
  · obtain ⟨inside, _⟩ := List.getElem?_eq_some_iff.mp here
    have notAwaited : ¬ action.WaitsForChoice := by
      rintro ⟨owner, isChoice⟩
      exact noChoice ⟨owner, by simpa [Script.leaf?, Action.leafAt?_eq, here] using isChoice⟩
    rw [Script.tick_parked perform delta f here] at ticked
    rcases done : action.tick perform delta f with ⟨action', (reason | (_ | _)), f₁⟩ <;>
      (rw [done] at ticked
       have attends := below action (List.mem_of_getElem? here) f _ _ _ notAwaited steady done)
    · obtain ⟨deeds, failed⟩ := attends
      have noted : f.Attends action' false (f₁.error
          s!"{f₁.handle.key.text} step {ip} failed while in progress: {reason.message}") :=
        ⟨_, failed.append (.error f₁ _)⟩
      exact noted.advances runs inside ticked
    · cases ticked
      exact attends.leaves inside
    · exact attends.advances runs inside ticked
  · rw [still.tick] at ticked
    cases ticked
    refine ⟨[], ?_, fun finished => ?_⟩
    · rw [still.leaf]
      exact .ended f
    · cases suspended : s.suspended with
      | false => rfl
      | true => simp [Script.runState, suspended] at finished

theorem Action.tickRuns (runs : perform.Runs) (delta : Single) (action : Action) :
    action.TickRuns perform delta := by
  induction action using Action.nestedInduction with
  | leaf action noInner =>
    intro f action' done f' noChoice steady ticked
    cases action with
    | goto actor pos speed origin =>
      simp only [Action.tick] at ticked
      split at ticked
      · next arrived walked done =>
        cases ticked
        obtain ⟨scene, id, place, _, present, rfl⟩ := Frame.walkOn_eq_ok done
        cases arrived with
        | true => exact ⟨_, .ofDeeds ⟨present, trivial⟩⟩
        | false => exact ⟨_, .parkAfter ⟨present, trivial⟩ rfl steady⟩
      · cases ticked
        exact ⟨[], .ended f⟩
    | playAnimation actor animation duration waits elapsed =>
      simp only [Action.tick] at ticked
      split at ticked
      · cases ticked
        exact ⟨[], .park rfl steady⟩
      · cases ticked
        exact .restsOn rfl steady
    | say actor text duration waits elapsed =>
      cases ticked
      exact .restsOn rfl steady
    | wait seconds elapsed =>
      cases ticked
      exact .restsOn rfl steady
    | showDialog actor dialog => exact absurd ⟨f.scope, rfl⟩ noChoice
    | conditional condition script => cases noInner
    | runVerb whose verb target bound script => cases noInner
    | _ =>
      cases ticked
      exact ⟨[], .ended f⟩
  | conditional condition script ih =>
    intro f action' done f' noChoice steady ticked
    simp only [Action.tick] at ticked
    rcases inner : script.tick perform delta f with ⟨script', state, f₁⟩
    rw [inner] at ticked
    cases ticked
    obtain ⟨deeds, left⟩ := Script.tick_runs_of runs ih noChoice steady inner
    have attends := left.attends (.conditional condition script') rfl
    cases state <;> exact attends
  | runVerb whose verb target bound script ih =>
    intro f action' done f' noChoice steady ticked
    simp only [Action.tick] at ticked
    rcases inner : script.tick perform delta (f.enterScope bound) with ⟨script', state, f₁⟩
    rw [inner] at ticked
    cases ticked
    have notWaiting : ¬ script.WaitsForChoice := fun waits =>
      noChoice ⟨f.scope, waits.awaitsChoice_eq _⟩
    obtain ⟨deeds, left⟩ := Script.tick_runs_of runs ih notWaiting (f := f.enterScope bound) steady
      inner
    have attends := left.attendsInScope (.runVerb whose verb target bound script') rfl
    cases state <;> exact attends

/-- Time that passes for a script that does not wait for a choice is a course. -/
theorem Script.tick_runs (runs : perform.Runs) {delta : Single} {s s' : Script Action}
    {f f' : Frame} {state : RunState} (noChoice : ¬ s.WaitsForChoice)
    (steady : f.cancelRequested = false) (ticked : s.tick perform delta f = (s', state, f')) :
    ∃ deeds, f.Leaves deeds s' state f' :=
  Script.tick_runs_of runs (fun action _ => Action.tickRuns runs delta action) noChoice steady
    ticked

/-- Whether it is a course when what an action waits for arrives. -/
def Action.ResumeRuns (perform : Performer) (action : Action) : Prop :=
  ∀ f action' state f', f.cancelRequested = false →
    action.resume perform f = .ok (action', state, f') →
      f.Attends action' (state == .suspended) f'

private theorem Script.resume_runs_of (runs : perform.Runs) {s s' : Script Action}
    {f f' : Frame} {state : RunState} (below : ∀ action ∈ s.actions, action.ResumeRuns perform)
    (steady : f.cancelRequested = false) (resumed : s.resume perform f = .ok (s', state, f')) :
    ∃ deeds, f.Leaves deeds s' state f' := by
  obtain ⟨ip, action, same, here⟩ := Script.exists_of_resume_eq_ok resumed
  obtain ⟨inside, _⟩ := List.getElem?_eq_some_iff.mp here
  rw [same, Script.resume_parked perform f here] at resumed
  rcases done : action.resume perform f with reason | ⟨action', (_ | _), f₁⟩
  · rw [done] at resumed
    cases resumed
  · have attends := below action (List.mem_of_getElem? here) f _ _ _ steady done
    rw [done] at resumed
    cases resumed
    exact attends.leaves inside
  · have attends := below action (List.mem_of_getElem? here) f _ _ _ steady done
    rw [done] at resumed
    exact attends.advances runs inside (Except.ok.inj resumed)

theorem Action.resumeRuns (runs : perform.Runs) (action : Action) :
    action.ResumeRuns perform := by
  induction action using Action.nestedInduction with
  | leaf action noInner =>
    intro f action' state f' steady resumed
    cases action with
    | conditional condition script => cases noInner
    | runVerb whose verb target bound script => cases noInner
    | _ =>
      cases resumed
      exact ⟨[], .ended f⟩
  | conditional condition script ih =>
    intro f action' state f' steady resumed
    simp only [Action.resume] at resumed
    cases done : script.resume perform f with
    | error reason =>
      rw [done] at resumed
      cases resumed
    | ok answer =>
      obtain ⟨script', state', f₁⟩ := answer
      rw [done] at resumed
      cases resumed
      obtain ⟨deeds, left⟩ := Script.resume_runs_of runs ih steady done
      exact left.attends (.conditional condition script') rfl
  | runVerb whose verb target bound script ih =>
    intro f action' state f' steady resumed
    simp only [Action.resume] at resumed
    cases done : script.resume perform (f.enterScope bound) with
    | error reason =>
      rw [done] at resumed
      cases resumed
    | ok answer =>
      obtain ⟨script', state', f₁⟩ := answer
      rw [done] at resumed
      cases resumed
      obtain ⟨deeds, left⟩ := Script.resume_runs_of runs ih (f := f.enterScope bound) steady done
      exact left.attendsInScope (.runVerb whose verb target bound script') rfl

/-- What a script waits for arrives, and that is a course. -/
theorem Script.resume_runs (runs : perform.Runs) {s s' : Script Action} {f f' : Frame}
    {state : RunState} (steady : f.cancelRequested = false)
    (resumed : s.resume perform f = .ok (s', state, f')) : ∃ deeds, f.Leaves deeds s' state f' :=
  Script.resume_runs_of runs (fun action _ => Action.resumeRuns runs action) steady resumed

/-- Time that passes for an action that waits for a choice changes nothing. -/
theorem Action.tick_of_waitsForChoice (perform : Performer) (delta : Single)
    (action : Action) (f : Frame) (waits : action.WaitsForChoice) :
    action.tick perform delta f = (action, .ok false, f) := by
  have inScript : ∀ (script : Script Action) (f : Frame), (∀ action ∈ script.actions, ∀ f : Frame,
      action.WaitsForChoice → action.tick perform delta f = (action, .ok false, f)) →
        script.WaitsForChoice → script.tick perform delta f = (script, .suspended, f) := by
    intro script f below waits
    obtain ⟨actions, ip, action, rfl, here, actionWaits⟩ := waits.exists_parked
    obtain ⟨inside, rfl⟩ := List.getElem?_eq_some_iff.mp here
    rw [Script.tick_parked perform delta f here,
      below _ (List.mem_of_getElem? here) f actionWaits]
    simp
  induction action using Action.nestedInduction generalizing f with
  | leaf action noInner =>
    obtain ⟨owner, isChoice⟩ := waits
    cases action with
    | showDialog actor dialog => rfl
    | conditional condition script => cases noInner
    | runVerb whose verb target bound script => cases noInner
    | _ => simp [Action.leaf?, awaitsChoice] at isChoice
  | conditional condition script ih =>
    simp [Action.tick, inScript script f ih waits]
  | runVerb whose verb target bound script ih =>
    have waitsInside : script.WaitsForChoice := by
      obtain ⟨owner, isChoice⟩ := waits
      exact ⟨_, isChoice⟩
    simp only [Action.tick, inScript script (f.enterScope bound) ih waitsInside]
    rfl

/-- Time that passes for a script that waits for a choice changes nothing. -/
theorem Script.tick_of_waitsForChoice (perform : Performer) (delta : Single)
    {script : Script Action} (f : Frame) (waits : script.WaitsForChoice) :
    script.tick perform delta f = (script, .suspended, f) := by
  have around := Action.tick_of_waitsForChoice perform delta (.conditional default script) f waits
  rcases ticked : script.tick perform delta f with ⟨script', state, f'⟩
  simp only [Action.tick, ticked] at around
  cases state with
  | finished => simp at around
  | suspended => simpa using around

/-- An action that waits for a choice can be told that it has been made. -/
private theorem Action.resume_of_waitsForChoice (perform : Performer) (action : Action) (f : Frame)
    (waits : action.WaitsForChoice) : ∃ answer, action.resume perform f = .ok answer := by
  have inScript : ∀ (script : Script Action) (f : Frame), (∀ action ∈ script.actions,
      ∀ f : Frame, action.WaitsForChoice → ∃ answer, action.resume perform f = .ok answer) →
        script.WaitsForChoice → ∃ answer, script.resume perform f = .ok answer := by
    intro script f below waits
    rcases waits.exists_parked with ⟨actions, ip, action, rfl, here, actionWaits⟩
    rcases below action (List.mem_of_getElem? here) f actionWaits with
      ⟨⟨action', (_ | _), f₁⟩, resumes⟩ <;>
      (rw [Script.resume_parked perform f here, resumes]
       exact ⟨_, rfl⟩)
  induction action using Action.nestedInduction generalizing f with
  | leaf action noInner =>
    cases action with
    | conditional condition script => cases noInner
    | runVerb whose verb target bound script => cases noInner
    | _ => exact ⟨_, rfl⟩
  | conditional condition script ih =>
    rcases inScript script f ih waits with ⟨answer, resumes⟩
    simp only [Action.resume, resumes]
    exact ⟨_, rfl⟩
  | runVerb whose verb target bound script ih =>
    rcases waits with ⟨owner, isChoice⟩
    rcases inScript script (f.enterScope bound) ih ⟨_, isChoice⟩ with ⟨answer, resumes⟩
    simp only [Action.resume, resumes]
    exact ⟨_, rfl⟩

/-- A script that waits for a choice can be told that it has been made. -/
theorem Script.resume_of_waitsForChoice (perform : Performer) {script : Script Action}
    (waits : script.WaitsForChoice) (f : Frame) :
    ∃ answer, script.resume perform f = .ok answer := by
  rcases Action.resume_of_waitsForChoice perform (.conditional default script) f waits with
    ⟨_, around⟩
  cases resumes : script.resume perform f with
  | error reason =>
    simp only [Action.resume, resumes] at around
    cases around
  | ok answer => exact ⟨answer, rfl⟩

end Stagecraft
