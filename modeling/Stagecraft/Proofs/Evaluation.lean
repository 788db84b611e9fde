import Stagecraft.Proofs.Acting

/-!
# Evaluating actions in one go

Here actions are evaluated as if no action ever parked: each is performed in turn, one that parks is
passed like any other, and an action around a script evaluates that script in place.  A run that
parks any number of times at any level, and is taken up again each time where it was parked, comes
to the same.
-/

namespace Stagecraft

/-! ## Evaluation -/

/-- What performing an action comes to if verbs may run each other as deeply as they like. -/
def Action.Performs (action : Action) (f : Frame) (done : Action) (outcome : Outcome)
    (f' : Frame) : Prop :=
  ∃ least, ∀ depth ≥ least, Action.perform depth action f = (done, outcome, f')

/-- An action that starts no script is performed in the same way at every depth. -/
theorem Action.performs_of_leaf (action : Action) (f : Frame) (leaf : action.inner? = none)
    (stays : ∀ scene, action ≠ .changeScene scene) :
    action.Performs f (Action.perform 0 action f).1 (Action.perform 0 action f).2.1
      (Action.perform 0 action f).2.2 := by
  refine ⟨0, fun depth _ => ?_⟩
  cases depth with
  | zero => rfl
  | succ depth =>
    cases action with
    | conditional | runVerb => cases leaf
    | changeScene scene => exact absurd rfl (stays scene)
    | goto actor pos speed origin => simp only [Action.perform, Action.performWith]
    | _ => rfl

/-- Whether an action begins with the actions of a script inside it. -/
def Action.enters (f : Frame) : Action → Bool
  | .conditional condition _ =>
    match condition.holds f with
    | .ok holds => holds
    | .error _ => false
  | .runVerb whose verb target _ _ =>
    match f.inlineVerb whose verb target with
    | .ok (found, _) => found.isSome
    | .error _ => false
  | _ => false

/-- The frame in which a script goes on after an action at a position: a fault is noted. -/
def Frame.past (f : Frame) (ip : Nat) (action : Action) : Outcome → Frame
  | .fault reason =>
    f.error s!"{f.handle.key.text} step {ip} ({action.name}) failed: {reason.message}"
  | _ => f

/-- Actions, the first of them at position `ip`, are evaluated one after the other in a frame; this
leaves the actions with their progress and another frame.  Scripts are evaluated in place: that of a
condition that holds, and the actions of a verb that is run in this one, for that verb's owner.
After the verb has been asked to end, the remaining actions are cancelled. -/
inductive Action.Evaluates : Nat → List Action → Frame → List Action → Frame → Prop
  | nil {ip f} : Evaluates ip [] f [] f
  | cancelled {ip action rest f} (requested : f.cancelRequested = true) :
      Evaluates ip (action :: rest) f (Action.cancelFrom 0 (action :: rest) f).1
        (Action.cancelFrom 0 (action :: rest) f).2
  | performed {ip action rest f done outcome f₁ others f'} (calm : f.cancelRequested = false)
      (plain : action.enters f = false) (performs : action.Performs f done outcome f₁)
      (later : Evaluates (ip + 1) rest (f₁.past ip done outcome) others f') :
      Evaluates ip (action :: rest) f (done :: others) f'
  | conditional {ip condition actions rest f inner f₁ others f'}
      (calm : f.cancelRequested = false) (holds : condition.holds f = .ok true)
      (within : Evaluates 0 actions
        (f.info s!"└─ action: Conditional(true), entering {actions.length} action(s)") inner f₁)
      (later : Evaluates (ip + 1) rest f₁ others f') :
      Evaluates ip (.conditional condition (.ofActions actions) :: rest) f
        (.conditional condition ⟨inner, some inner.length, false⟩ :: others) f'
  | runVerb {ip whose verb target bound script rest f owner actions f₀ inner f₁ others f'}
      (calm : f.cancelRequested = false)
      (found : f.inlineVerb whose verb target = .ok (some (owner, actions), f₀))
      (within : Evaluates 0 actions (f₀.enterScope (some owner)) inner f₁)
      (later : Evaluates (ip + 1) rest (f₀.leaveScope f₁) others f') :
      Evaluates ip (.runVerb whose verb target bound script :: rest) f
        (.runVerb whose verb target (some owner) ⟨inner, some inner.length, false⟩ :: others) f'

/-! ## Resuming until the end -/

/-- A script that has been left in a frame, suspended or finished as told, is resumed there at any
depth from `least` on until it is finished, which leaves another script and frame. -/
inductive Script.Finishes (least : Nat) :
    Script Action → RunState → Frame → Script Action → Frame → Prop
  | done {s f} : Finishes least s .finished f s f
  | resumed {s f s₁ state f₁ s' f'} (calm : f.cancelRequested = false)
      (resumes : ∀ depth ≥ least, s.resume (Action.perform depth) f = .ok (s₁, state, f₁))
      (rest : Finishes least s₁ state f₁ s' f') : Finishes least s .suspended f s' f'

namespace Script.Finishes

variable {least : Nat} {s s' : Script Action} {state : RunState} {f f' : Frame}

/-- What can be resumed at some depths can be at fewer. -/
theorem mono {more : Nat} (finishes : Finishes least s state f s' f') (le : least ≤ more) :
    Finishes more s state f s' f' := by
  induction finishes with
  | done => exact .done
  | resumed calm resumes _ ih =>
    exact .resumed calm (fun depth ge => resumes depth (Nat.le_trans le ge)) ih

/-- A script that parks is resumed by the same verb for the same owner. -/
theorem scope_eq (finishes : Finishes least s state f s' f') : f'.scope = f.scope := by
  induction finishes with
  | done => rfl
  | resumed calm resumes _ ih =>
    obtain ⟨deeds, leaves, _⟩ := Script.resume_runs (Action.perform_runs least) calm
      (resumes least (Nat.le_refl _))
    exact ih.trans leaves.scope_eq

/-- A script inside an action is resumed when the script around it is: while the inner one is not
finished both are parked, and then the outer one goes on. -/
theorem around {wrap : Script Action → Action} {outer : Owner} {ip : Nat}
    {before rest : List Action} {whole : Script Action} {f'' : Frame}
    (inside : ∀ depth ≥ least, ∀ s s₁ state (f f₁ : Frame), f.scope = f'.scope →
      f.cancelRequested = false → s.resume (Action.perform depth) f = .ok (s₁, state, f₁) →
      (wrap s).resume (Action.perform depth) { f with scope := outer } =
        .ok (wrap s₁, state, { f₁ with scope := outer }))
    (length_eq : before.length = ip) {s₂ : Script Action} {state₂ : RunState} {f₂ : Frame}
    (goesOn : ∀ depth ≥ least, Script.stepFrom (Action.perform depth) (ip + 1)
      (before ++ wrap s' :: rest) { f' with scope := outer } = (s₂, state₂, f₂))
    (ends : Finishes least s₂ state₂ f₂ whole f'')
    (finishes : Finishes least s state f s' f') (parked : state = .suspended) :
    Finishes least ⟨before ++ wrap s :: rest, some ip, true⟩ .suspended
      { f with scope := outer } whole f'' := by
  subst length_eq
  induction finishes with
  | done => cases parked
  | @resumed s f s₁ state f₁ s' f' calm resumes more ih =>
    have sameScope : f.scope = f'.scope := (resumed calm resumes more).scope_eq.symm
    have here : (before ++ wrap s :: rest)[before.length]? = some (wrap s) := by simp
    have replaced : (before ++ wrap s :: rest).set before.length (wrap s₁) =
        before ++ wrap s₁ :: rest := by simp
    cases state with
    | suspended =>
      refine .resumed calm (fun depth ge => ?_) (ih inside rfl goesOn)
      rw [Script.resume_parked _ _ here,
        inside depth ge s s₁ .suspended f f₁ sameScope calm (resumes depth ge)]
      simp only [replaced]
    | finished =>
      cases more
      refine .resumed calm (fun depth ge => ?_) ends
      rw [Script.resume_parked _ _ here,
        inside depth ge s s₁ .finished f f₁ sameScope calm (resumes depth ge)]
      simp only [replaced]
      exact congrArg Except.ok (goesOn depth ge)

end Script.Finishes

/-! ## Evaluation and resumption -/

namespace Action

/-- An action without a script inside is over when it is resumed. -/
theorem resume_of_inner?_eq_none {action : Action} (noInner : action.inner? = none)
    (perform : Performer) (f : Frame) : action.resume perform f = .ok (action, .finished, f) := by
  cases action with
  | conditional condition script => cases noInner
  | runVerb whose verb target bound script => cases noInner
  | _ => rfl

/-- An action that parks without entering a script has no script inside. -/
theorem inner?_of_parks {inner : Option Performer} {action done : Action} {f f' : Frame}
    (plain : action.enters f = false)
    (parks : Action.performWith inner action f = (done, .park, f')) : done.inner? = none := by
  cases action with
  | goto actor pos speed origin =>
    simp only [Action.performWith] at parks
    split at parks <;> (cases parks; try rfl)
  | conditional condition script =>
    simp only [Action.performWith] at parks
    simp only [Action.enters] at plain
    split at parks
    · cases parks
    · cases parks
    · next holds =>
      rw [holds] at plain
      cases plain
  | runVerb whose verb target bound script =>
    simp only [Action.performWith] at parks
    simp only [Action.enters] at plain
    split at parks
    · cases parks
    · cases parks
    · next found =>
      rw [found] at plain
      cases plain
  | changeScene scene =>
    cases inner with
    | none => cases parks
    | some perform => rw [← (Prod.mk.inj parks).1]; rfl
  | _ => rw [← (Prod.mk.inj parks).1]; rfl

theorem Performs.inner?_of_parks {action done : Action} {f f' : Frame}
    (plain : action.enters f = false) (parks : action.Performs f done .park f') :
    done.inner? = none := by
  obtain ⟨least, performs⟩ := parks
  exact Action.inner?_of_parks plain (performs (least + 1) (Nat.le_succ least))

/-- A verb that parks has not been asked to end. -/
theorem Performs.calm_of_parks {action done : Action} {f f' : Frame}
    (calm : f.cancelRequested = false) (plain : action.enters f = false)
    (parks : action.Performs f done .park f') : f'.cancelRequested = false := by
  have noInner := parks.inner?_of_parks plain
  obtain ⟨least, performs⟩ := parks
  obtain ⟨deeds, runs⟩ := Action.perform_runs least action f done .park f' calm
    (performs least (Nat.le_refl _))
  refine runs.steady ?_
  cases done with
  | conditional condition script => cases noInner
  | runVerb whose verb target bound script => cases noInner
  | _ => rfl

end Action

variable {before rest actions : List Action} {ip : Nat} {f f₁ : Frame} {action done : Action}
  {outcome : Outcome} {perform : Performer}

namespace Action

theorem sweep_cancelled (requested : f.cancelRequested = true) :
    sweep perform ip (action :: rest) f =
      ((cancelFrom 0 (action :: rest) f).1, ip + (rest.length + 1), .finished,
        (cancelFrom 0 (action :: rest) f).2) := by
  simp only [sweep, requested, if_true]

theorem sweep_parks (calm : f.cancelRequested = false)
    (performed : perform action f = (done, .park, f₁)) :
    sweep perform ip (action :: rest) f = (done :: rest, ip, .suspended, f₁) := by
  simp only [sweep, calm, Bool.false_eq_true, if_false, performed]

theorem sweep_past (calm : f.cancelRequested = false)
    (performed : perform action f = (done, outcome, f₁)) (goesOn : outcome ≠ .park) :
    sweep perform ip (action :: rest) f =
      (done :: (sweep perform (ip + 1) rest (f₁.past ip done outcome)).1,
        (sweep perform (ip + 1) rest (f₁.past ip done outcome)).2) := by
  simp only [sweep, calm, Bool.false_eq_true, if_false, performed]
  cases outcome with
  | park => exact absurd rfl goesOn
  | _ => rfl

end Action

namespace Script

/-- A sweep parks with an action that parks. -/
theorem stepFrom_parks (length_eq : before.length = ip) (calm : f.cancelRequested = false)
    (performed : perform action f = (done, .park, f₁)) :
    stepFrom perform ip (before ++ action :: rest) f =
      (⟨before ++ done :: rest, some ip, true⟩, .suspended, f₁) := by
  subst length_eq
  simp only [stepFrom, List.drop_left, List.take_left, Action.sweep_parks calm performed]
  rfl

/-- A sweep goes on past an action that does not park. -/
theorem stepFrom_past (length_eq : before.length = ip) (calm : f.cancelRequested = false)
    (performed : perform action f = (done, outcome, f₁)) (goesOn : outcome ≠ .park) :
    stepFrom perform ip (before ++ action :: rest) f =
      stepFrom perform (ip + 1) (before ++ done :: rest) (f₁.past ip done outcome) := by
  subst length_eq
  have dropped : (before ++ done :: rest).drop (before.length + 1) = rest := by
    simp [List.drop_append]
  have taken : (before ++ done :: rest).take (before.length + 1) = before ++ [done] := by
    simp [List.take_append, List.take_of_length_le]
  simp only [stepFrom, List.drop_left, List.take_left, Action.sweep_past calm performed goesOn,
    dropped, taken, List.append_assoc, List.cons_append, List.nil_append]

/-- A sweep of nothing is at its end. -/
theorem stepFrom_nil (length_eq : before.length = ip) :
    stepFrom perform ip before f = (⟨before, some ip, false⟩, .finished, f) := by
  subst length_eq
  simp [stepFrom, Action.sweep]

/-- After the verb has been asked to end, a sweep cancels. -/
theorem stepFrom_cancelled (length_eq : before.length = ip)
    (requested : f.cancelRequested = true) :
    stepFrom perform ip (before ++ action :: rest) f =
      (⟨before ++ (Action.cancelFrom 0 (action :: rest) f).1,
        some (before ++ (Action.cancelFrom 0 (action :: rest) f).1).length, false⟩, .finished,
        (Action.cancelFrom 0 (action :: rest) f).2) := by
  subst length_eq
  simp [stepFrom, Action.sweep, requested, Action.length_cancelFrom]

/-- A sweep that comes to an action around a script goes on past it when that script is finished,
and parks with it before. -/
theorem Finishes.enters {least : Nat} (wrap : Script Action → Action) (outer : Owner)
    {s₁ s' s₂ whole : Script Action} {state₁ state₂ : RunState} {g₁ g' f₂ f' : Frame}
    (length_eq : before.length = ip) (calm : f.cancelRequested = false)
    (performs : ∀ depth ≥ least, Action.perform depth action f =
      (wrap s₁, .ofRunState state₁, { g₁ with scope := outer }))
    (inside : ∀ depth ≥ least, ∀ s s₁ state (f f₁ : Frame), f.scope = g'.scope →
      f.cancelRequested = false → s.resume (Action.perform depth) f = .ok (s₁, state, f₁) →
      (wrap s).resume (Action.perform depth) { f with scope := outer } =
        .ok (wrap s₁, state, { f₁ with scope := outer }))
    (within : Finishes least s₁ state₁ g₁ s' g')
    (goesOn : ∀ depth ≥ least, stepFrom (Action.perform depth) (ip + 1)
      (before ++ wrap s' :: rest) { g' with scope := outer } = (s₂, state₂, f₂))
    (ends : Finishes least s₂ state₂ f₂ whole f') :
    ∃ s state f₁, (∀ depth ≥ least,
        stepFrom (Action.perform depth) ip (before ++ action :: rest) f = (s, state, f₁)) ∧
      Finishes least s state f₁ whole f' := by
  cases state₁ with
  | suspended =>
    refine ⟨_, _, _, fun depth ge => stepFrom_parks length_eq calm (performs depth ge), ?_⟩
    exact Finishes.around inside length_eq goesOn ends within rfl
  | finished =>
    cases within
    refine ⟨s₂, state₂, f₂, fun depth ge => ?_, ends⟩
    rw [stepFrom_past length_eq calm (performs depth ge) nofun]
    exact goesOn depth ge

end Script

/-- A verb that is run inside another has no progress. -/
theorem Frame.resetAll_of_inlineVerb {f f' : Frame} {whose : Target} {verb : String}
    {target : Option String} {owner : Owner} {actions : List Action}
    (found : f.inlineVerb whose verb target = .ok (some (owner, actions), f')) :
    Action.resetAll actions = actions := by
  obtain ⟨h, script, _, _, _, _, rfl⟩ := Frame.inlineVerb_eq_some found
  rw [Script.reset_eq]
  exact Action.resetAll_resetAll _

/-- A frame is as it was when it gets the scope that it has. -/
private theorem Frame.withScope_eq {f : Frame} {owner : Owner} (same : f.scope = owner) :
    { f with scope := owner } = f := by
  subst same
  rfl

/-- A condition's script is resumed when the condition is. -/
private theorem Action.resume_conditional {condition : Condition} {depth : Nat}
    {s s₁ : Script Action} {state : RunState} {f f₁ : Frame} {owner : Owner}
    (same : f.scope = owner) (calm : f.cancelRequested = false)
    (resumed : s.resume (Action.perform depth) f = .ok (s₁, state, f₁)) :
    (Action.conditional condition s).resume (Action.perform depth) { f with scope := owner } =
      .ok (.conditional condition s₁, state, { f₁ with scope := owner }) := by
  obtain ⟨deeds, left, _⟩ := Script.resume_runs (Action.perform_runs depth) calm resumed
  rw [Frame.withScope_eq same, Frame.withScope_eq (left.scope_eq.trans same), Action.resume,
    resumed]
  rfl

/-- The script of a verb that is run inside another is resumed for its owner. -/
private theorem Action.resume_runVerb {whose : Target} {verb : String} {target : Option String}
    {depth : Nat} {s s₁ : Script Action} {state : RunState} {f f₁ : Frame} {owner outer : Owner}
    (same : f.scope = owner)
    (resumed : s.resume (Action.perform depth) f = .ok (s₁, state, f₁)) :
    (Action.runVerb whose verb target (some owner) s).resume (Action.perform depth)
        { f with scope := outer } =
      .ok (.runVerb whose verb target (some owner) s₁, state, { f₁ with scope := outer }) := by
  have entered : { f with scope := outer }.enterScope (some owner) = f := by
    subst same
    rfl
  rw [Action.resume, entered, resumed]
  rfl

/-- A run that performs actions as they are evaluated, and is resumed until it is finished, comes to
what the evaluation comes to. -/
theorem Action.Evaluates.finishes {ip : Nat} {actions others : List Action} {f f' : Frame}
    (evaluates : Action.Evaluates ip actions f others f')
    (fresh : Action.resetAll actions = actions) :
    ∃ least, ∀ before : List Action, before.length = ip → ∃ s state f₁,
      (∀ depth ≥ least,
        Script.stepFrom (Action.perform depth) ip (before ++ actions) f = (s, state, f₁)) ∧
      Script.Finishes least s state f₁
        ⟨before ++ others, some (before ++ others).length, false⟩ f' := by
  induction evaluates with
  | @nil ip f =>
    refine ⟨0, fun before length_eq => ⟨_, _, _, fun depth _ => ?_, .done⟩⟩
    subst length_eq
    simp only [List.append_nil]
    exact Script.stepFrom_nil rfl
  | cancelled requested =>
    exact ⟨0, fun before length_eq => ⟨_, _, _,
      fun depth _ => Script.stepFrom_cancelled length_eq requested, .done⟩⟩
  | @performed ip action rest f done outcome f₁ others f' calm plain performs _ ih =>
    rw [Action.resetAll, List.cons.injEq] at fresh
    obtain ⟨more, goesOn⟩ := ih fresh.2
    obtain ⟨enough, performed⟩ := id performs
    refine ⟨max enough more, fun before length_eq => ?_⟩
    obtain ⟨s, state, f₂, sweeps, ends⟩ := goesOn (before ++ [done]) (by simp [length_eq])
    simp only [List.append_assoc, List.singleton_append] at sweeps ends
    have atOnce := fun depth (ge : depth ≥ max enough more) =>
      performed depth (Nat.le_trans (Nat.le_max_left ..) ge)
    have later := fun depth (ge : depth ≥ max enough more) =>
      sweeps depth (Nat.le_trans (Nat.le_max_right ..) ge)
    have endsLater := ends.mono (Nat.le_max_right enough more)
    by_cases parks : outcome = .park
    · subst parks
      refine ⟨_, _, _, fun depth ge => Script.stepFrom_parks length_eq calm (atOnce depth ge),
        .resumed (performs.calm_of_parks calm plain) (fun depth ge => ?_) endsLater⟩
      have here : (before ++ done :: rest)[ip]? = some done := by simp [← length_eq]
      have replaced : (before ++ done :: rest).set ip done = before ++ done :: rest := by
        simp [← length_eq]
      rw [Script.resume_parked _ _ here,
        Action.resume_of_inner?_eq_none (performs.inner?_of_parks plain)]
      simp only [replaced]
      exact congrArg Except.ok (later depth ge)
    · refine ⟨s, state, f₂, fun depth ge => ?_, endsLater⟩
      rw [Script.stepFrom_past length_eq calm (atOnce depth ge) parks]
      exact later depth ge
  | @conditional ip condition actions rest f inner f₁ others f' calm holds _ _ ihWithin ih =>
    rw [Action.resetAll, List.cons.injEq] at fresh
    obtain ⟨freshAction, freshRest⟩ := fresh
    have freshActions : Action.resetAll actions = actions := by
      simpa [Action.reset, Script.reset_eq, Script.ofActions] using freshAction
    obtain ⟨enough, within⟩ := ihWithin freshActions
    obtain ⟨more, goesOn⟩ := ih freshRest
    obtain ⟨s₁, state₁, g₁, started, finishes⟩ := within [] rfl
    simp only [List.nil_append] at started finishes
    obtain ⟨deeds, left, _⟩ := Script.stepFrom_runs (Action.perform_runs enough) (Nat.zero_le _)
      (started enough (Nat.le_refl _))
    have sameScope : g₁.scope = f.scope := left.scope_eq
    have scopeAfter : f₁.scope = f.scope := finishes.scope_eq.trans sameScope
    have performs : ∀ depth ≥ enough + 1,
        Action.perform depth (.conditional condition (.ofActions actions)) f =
          (.conditional condition s₁, .ofRunState state₁, { g₁ with scope := f.scope }) := by
      intro depth ge
      obtain ⟨below, rfl⟩ : ∃ below, depth = below + 1 := ⟨depth - 1, by omega⟩
      simp only [Action.perform, Action.performWith, holds]
      rw [Script.start_ofActions _ _ freshActions, Frame.withScope_eq sameScope]
      simp only [Script.length, Script.ofActions, started below (by omega)]
    refine ⟨max (enough + 1) more, fun before length_eq => ?_⟩
    obtain ⟨s₂, state₂, f₂, sweeps, ends⟩ :=
      goesOn (before ++ [.conditional condition ⟨inner, some inner.length, false⟩])
        (by simp [length_eq])
    simp only [List.append_assoc, List.singleton_append] at sweeps ends
    refine Script.Finishes.enters (.conditional condition) f.scope length_eq calm
      (fun depth ge => performs depth (by omega)) ?_ (finishes.mono (by omega))
      (fun depth ge => ?_) (ends.mono (Nat.le_max_right ..))
    · intro depth _ s s₁ state g g₂ same calm resumed
      exact Action.resume_conditional (same.trans scopeAfter) calm resumed
    · rw [Frame.withScope_eq scopeAfter]
      exact sweeps depth (by omega)
  | @runVerb ip whose verb target bound script rest f owner actions f₀ inner f₁ others f' calm
      found _ _ ihWithin ih =>
    rw [Action.resetAll, List.cons.injEq] at fresh
    have freshActions := Frame.resetAll_of_inlineVerb found
    obtain ⟨enough, within⟩ := ihWithin freshActions
    obtain ⟨more, goesOn⟩ := ih fresh.2
    obtain ⟨s₁, state₁, g₁, started, finishes⟩ := within [] rfl
    simp only [List.nil_append] at started finishes
    obtain ⟨deeds, left, _⟩ := Script.stepFrom_runs (Action.perform_runs enough) (Nat.zero_le _)
      (started enough (Nat.le_refl _))
    have scopeAfter : f₁.scope = owner := finishes.scope_eq.trans left.scope_eq
    have performs : ∀ depth ≥ enough + 1,
        Action.perform depth (.runVerb whose verb target bound script) f =
          (.runVerb whose verb target (some owner) s₁, .ofRunState state₁,
            { g₁ with scope := f₀.scope }) := by
      intro depth ge
      obtain ⟨below, rfl⟩ : ∃ below, depth = below + 1 := ⟨depth - 1, by omega⟩
      simp only [Action.perform, Action.performWith, found]
      rw [Script.start_ofActions _ _ freshActions]
      simp only [started below (by omega)]
      rfl
    refine ⟨max (enough + 1) more, fun before length_eq => ?_⟩
    obtain ⟨s₂, state₂, f₂, sweeps, ends⟩ :=
      goesOn (before ++ [.runVerb whose verb target (some owner)
        ⟨inner, some inner.length, false⟩]) (by simp [length_eq])
    simp only [List.append_assoc, List.singleton_append] at sweeps ends
    refine Script.Finishes.enters (.runVerb whose verb target (some owner)) f₀.scope length_eq calm
      (fun depth ge => performs depth (by omega)) ?_ (finishes.mono (by omega))
      (fun depth ge => sweeps depth (by omega)) (ends.mono (Nat.le_max_right ..))
    intro depth _ s s₁ state g g₂ same _ resumed
    exact Action.resume_runVerb (same.trans scopeAfter) resumed

end Stagecraft
