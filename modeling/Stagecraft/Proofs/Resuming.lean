import Stagecraft.Proofs.Evaluation

/-!
# Resuming

A verb can be resumed exactly if it is parked, level by level, down to an action without a script
inside.  Whether it is shows only at the innermost level, when the outer ones have been entered and
their scopes with them; but on the way there nothing is written, so a resume that is refused finds
every cursor and the whole stage as they were.
-/

namespace Stagecraft

/-! ## Parked scripts -/

/-- A script is parked if it is suspended with its cursor on one of its actions. -/
theorem Script.isParked_iff {s : Script Action} :
    s.isParked = true ↔
      ∃ actions ip action, s = ⟨actions, some ip, true⟩ ∧ actions[ip]? = some action := by
  constructor
  · intro parked
    obtain ⟨actions, _ | ip, _ | _⟩ := s
    · cases parked
    · cases parked
    · simp [Script.isParked, Script.parkedAt?] at parked
    · by_cases inside : ip < actions.length
      · exact ⟨actions, ip, actions[ip], rfl, List.getElem?_eq_getElem inside⟩
      · simp [Script.isParked, Script.parkedAt?, Option.filter, Script.length, inside] at parked
  · rintro ⟨actions, ip, action, rfl, here⟩
    obtain ⟨inside, _⟩ := List.getElem?_eq_some_iff.mp here
    simp [Script.isParked, Script.parkedAt?, Option.filter, Script.length, inside]

/-- A script that is not parked stands still. -/
theorem Script.still_of_not_isParked {s : Script Action} (notParked : s.isParked = false) :
    s.Still := by
  rcases s.parked_or_still with parked | still
  · rw [isParked_iff.mpr parked] at notParked
    cases notParked
  · exact still

/-- A script is not parked, or it is parked on an action, in which another script may be. -/
@[elab_as_elim]
theorem Script.parkedInduction {motive : Script Action → Prop}
    (notParked : ∀ s : Script Action, s.isParked = false → motive s)
    (leaf : ∀ actions ip action, actions[ip]? = some action → action.inner? = none →
      motive ⟨actions, some ip, true⟩)
    (conditional : ∀ actions ip condition script,
      actions[ip]? = some (.conditional condition script) → motive script →
        motive ⟨actions, some ip, true⟩)
    (runVerb : ∀ actions ip whose verb target bound script,
      actions[ip]? = some (.runVerb whose verb target bound script) → motive script →
        motive ⟨actions, some ip, true⟩) (s : Script Action) : motive s := by
  have ofActions : ∀ s : Script Action, (∀ action ∈ s.actions, ∀ script bound,
      action.inner? = some (script, bound) → motive script) → motive s := by
    intro s below
    cases isParked : s.isParked with
    | false => exact notParked s isParked
    | true =>
      obtain ⟨actions, ip, action, rfl, here⟩ := Script.isParked_iff.mp isParked
      have inside := below action (List.mem_of_getElem? here)
      cases action with
      | conditional condition script =>
        exact conditional actions ip condition script here (inside script none rfl)
      | runVerb whose verb target bound script =>
        exact runVerb actions ip whose verb target bound script here (inside script bound rfl)
      | _ => exact leaf actions ip _ here rfl
  have inAction : ∀ action : Action, ∀ script bound, action.inner? = some (script, bound) →
      motive script := by
    intro action
    induction action using Action.nestedInduction with
    | leaf action noInner =>
      intro script bound inner
      rw [noInner] at inner
      cases inner
    | conditional condition script ih =>
      rintro _ _ ⟨⟩
      exact ofActions script ih
    | runVerb whose verb target bound script ih =>
      rintro _ _ ⟨⟩
      exact ofActions script ih
  exact ofActions s fun action _ => inAction action

/-- Whether a script is parked, level by level, down to an action without a script inside: every
level is suspended with its cursor on an action.  The owner of a level is that of the level around
it, unless it is bound to another one. -/
inductive Script.ParksOn (leaf : Action) (scope : Owner) : Owner → Script Action → Prop
  | leaf {actions ip} (here : actions[ip]? = some leaf) (plain : leaf.inner? = none) :
      ParksOn leaf scope scope ⟨actions, some ip, true⟩
  | conditional {owner actions ip condition script}
      (here : actions[ip]? = some (.conditional condition script))
      (below : ParksOn leaf scope owner script) :
      ParksOn leaf scope owner ⟨actions, some ip, true⟩
  | runVerb {owner actions ip whose verb target bound script}
      (here : actions[ip]? = some (.runVerb whose verb target bound script))
      (below : ParksOn leaf scope (bound.getD owner) script) :
      ParksOn leaf scope owner ⟨actions, some ip, true⟩

/-- Below an action without a script inside there is only the action itself. -/
theorem Action.leaf?_of_inner?_eq_none {action : Action} (plain : action.inner? = none)
    (owner : Owner) : action.leaf? owner = some (action, owner) := by
  cases action with
  | conditional condition script => cases plain
  | runVerb whose verb target bound script => cases plain
  | _ => rfl

namespace Script

variable {actions : List Action} {ip : Nat} {action : Action}

/-- The innermost action of a parked script is that of the action at its cursor. -/
theorem leaf?_parked (owner : Owner) (here : actions[ip]? = some action) :
    Script.leaf? owner ⟨actions, some ip, true⟩ = action.leaf? owner := by
  simp only [Script.leaf?, Action.leafAt?_eq, here, Option.bind_some]

/-- The innermost action of a script is the one on which it is parked level by level. -/
theorem leaf?_eq_some_iff {s : Script Action} {owner scope : Owner} {leaf : Action} :
    s.leaf? owner = some (leaf, scope) ↔ ParksOn leaf scope owner s := by
  constructor
  · intro isLeaf
    induction s using Script.parkedInduction generalizing owner with
    | notParked s notParked =>
      rw [(still_of_not_isParked notParked).leaf] at isLeaf
      cases isLeaf
    | leaf actions ip action here plain =>
      rw [leaf?_parked owner here, Action.leaf?_of_inner?_eq_none plain] at isLeaf
      cases isLeaf
      exact .leaf here plain
    | conditional actions ip condition script here ih =>
      rw [leaf?_parked owner here] at isLeaf
      exact .conditional here (ih isLeaf)
    | runVerb actions ip whose verb target bound script here ih =>
      rw [leaf?_parked owner here] at isLeaf
      exact .runVerb here (ih isLeaf)
  · intro parks
    induction parks with
    | leaf here plain => rw [leaf?_parked _ here, Action.leaf?_of_inner?_eq_none plain]
    | conditional here _ ih =>
      rw [leaf?_parked _ here]
      exact ih
    | runVerb here _ ih =>
      rw [leaf?_parked _ here]
      exact ih

variable (perform : Performer)

/-- A script that is parked down to an innermost action is resumed. -/
theorem resume_of_leaf? {s : Script Action} {owner : Owner} (parked : (s.leaf? owner).isSome)
    (f : Frame) : ∃ answer, s.resume perform f = .ok answer := by
  induction s using Script.parkedInduction generalizing owner f with
  | notParked s notParked =>
    rw [(still_of_not_isParked notParked).leaf] at parked
    cases parked
  | leaf actions ip action here plain =>
    rw [resume_parked perform f here, Action.resume_of_inner?_eq_none plain]
    exact ⟨_, rfl⟩
  | conditional actions ip condition script here ih =>
    rw [leaf?_parked owner here] at parked
    rcases ih parked f with ⟨⟨script', _ | _, f'⟩, resumes⟩ <;>
      (simp only [resume_parked perform f here, Action.resume, resumes]
       exact ⟨_, rfl⟩)
  | runVerb actions ip whose verb target bound script here ih =>
    rw [leaf?_parked owner here] at parked
    rcases ih parked (f.enterScope bound) with ⟨⟨script', _ | _, f'⟩, resumes⟩ <;>
      (simp only [resume_parked perform f here, Action.resume, resumes]
       exact ⟨_, rfl⟩)

/-- A script that is not parked down to an innermost action is not resumed, and the cursor that is
told is that of the level that is not parked. -/
theorem resume_of_leaf?_eq_none {s : Script Action} {owner : Owner} (still : s.leaf? owner = none)
    (f : Frame) : ∃ ip, s.resume perform f = .error (.notSuspended f.handle.key ip) := by
  induction s using Script.parkedInduction generalizing owner f with
  | notParked s notParked => exact ⟨s.ip, (still_of_not_isParked notParked).resume perform f⟩
  | leaf actions ip action here plain =>
    rw [leaf?_parked owner here, Action.leaf?_of_inner?_eq_none plain] at still
    cases still
  | conditional actions ip condition script here ih =>
    rw [leaf?_parked owner here] at still
    rcases ih still f with ⟨at?, refuses⟩
    refine ⟨at?, ?_⟩
    simp only [resume_parked perform f here, Action.resume, refuses]
    rfl
  | runVerb actions ip whose verb target bound script here ih =>
    rw [leaf?_parked owner here] at still
    rcases ih still (f.enterScope bound) with ⟨at?, refuses⟩
    refine ⟨at?, ?_⟩
    simp only [resume_parked perform f here, Action.resume, refuses]
    rfl

end Script

/-! ## Resuming in place -/

mutual

/-- Resume an action in place: what is handed back with the answer, be it a refusal, is the action
and the frame as they stand then. -/
def Action.resumeInPlace (perform : Performer) :
    Action → Frame → Action × Except VerbError RunState × Frame
  | .conditional condition script, f =>
    let (script, answer, f) := script.resumeInPlace perform f
    (.conditional condition script, answer, f)
  | .runVerb whose verb target bound script, f =>
    let (script, answer, inner) := script.resumeInPlace perform (f.enterScope bound)
    (.runVerb whose verb target bound script, answer, f.leaveScope inner)
  | action, f => (action, .ok .finished, f)

/-- Resume a script in place. -/
def Script.resumeInPlace (perform : Performer) :
    Script Action → Frame → Script Action × Except VerbError RunState × Frame
  | ⟨actions, some ip, true⟩, f =>
    match Action.resumeInPlaceAt perform ip actions f with
    | none => (⟨actions, some ip, true⟩, .error (.notSuspended f.handle.key (some ip)), f)
    | some (actions, .error reason, f) => (⟨actions, some ip, true⟩, .error reason, f)
    | some (actions, .ok .suspended, f) => (⟨actions, some ip, true⟩, .ok .suspended, f)
    | some (actions, .ok .finished, f) =>
      let (script, state, f) := Script.advance perform ip actions f
      (script, .ok state, f)
  | ⟨actions, ip, suspended⟩, f =>
    (⟨actions, ip, suspended⟩, .error (.notSuspended f.handle.key ip), f)

/-- Resume the action at a position, if there is one, in place. -/
def Action.resumeInPlaceAt (perform : Performer) :
    Nat → List Action → Frame → Option (List Action × Except VerbError RunState × Frame)
  | _, [], _ => none
  | 0, action :: rest, f =>
    let (action, answer, f) := action.resumeInPlace perform f
    some (action :: rest, answer, f)
  | ip + 1, action :: rest, f =>
    (Action.resumeInPlaceAt perform ip rest f).map fun (rest, answer) => (action :: rest, answer)

end

variable {perform : Performer}

namespace Stage

/-- A verb that is not there is not found. -/
theorem resumeVerb_of_missing {s : Stage} {h : Handle} (idle : h ∉ s.executing)
    (absent : s.world.script? h = none) (depth : Nat) :
    s.resumeVerb h depth = (.error (.notFound h), s) := by
  simp only [resumeVerb, withVerb, idle, if_false, absent]
  rfl

/-- A verb that is not parked down to an innermost action is refused, and nothing is done. -/
theorem resumeVerb_of_leaf?_eq_none {s : Stage} {h : Handle} {script : Script Action}
    (idle : h ∉ s.executing) (found : s.world.script? h = some script)
    (still : script.leaf? h.owner = none) (depth : Nat) :
    ∃ ip, s.resumeVerb h depth = (.error (.notSuspended h.key ip), s) := by
  obtain ⟨ip, refuses⟩ := Script.resume_of_leaf?_eq_none (Action.perform depth) still
    (Frame.enter h (s.lend h))
  refine ⟨ip, ?_⟩
  unfold resumeVerb
  rw [withVerb_of_unchanged idle found (by rw [refuses])]
  rfl

/-- A verb that is parked down to an innermost action is resumed. -/
theorem resumeVerb_of_leaf? {s : Stage} {h : Handle} {script : Script Action}
    (idle : h ∉ s.executing) (found : s.world.script? h = some script)
    (parked : (script.leaf? h.owner).isSome) (depth : Nat) :
    ∃ state, (s.resumeVerb h depth).1 = .ok state := by
  obtain ⟨answer, resumes⟩ := Script.resume_of_leaf? (Action.perform depth) parked
    (Frame.enter h (s.lend h))
  have driven := driven_driveVerb (Action.perform depth) .resume s h
    (.inr (Action.perform_runs depth)) fun _ _ _ => .inr (.inl rfl)
  rw [resumeVerb_eq]
  generalize s.driveVerb (Action.perform depth) .resume h = result at driven
  cases driven with
  | busy text executing => exact absurd executing idle
  | missing _ absent =>
    rw [found] at absent
    cases absent
  | refused _ foundAgain refuses =>
    obtain rfl := Option.some.inj (found.symm.trans foundAgain)
    simp only [Driving.drive, resumes] at refuses
    cases refuses
  | done => exact ⟨_, rfl⟩

end Stage

end Stagecraft
