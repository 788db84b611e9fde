import Stagecraft.Proofs.Course

/-!
# What verbs do, and give up

What a verb does while it is driven is a course from one frame to another.  Here it is what the verb
does to give up an action or a script: it closes the dialog that it has opened, and nothing else.
-/

namespace Stagecraft

/-- Whether verbs are driven by deeds only as verbs drive each other: they are run or cancelled. -/
def Deed.AmongVerbs (deeds : List Deed) : Prop :=
  ∀ h driving, .take h driving ∈ deeds → driving = .run ∨ driving = .cancel

theorem Deed.AmongVerbs.nil : AmongVerbs [] := nofun

theorem Deed.AmongVerbs.append {deeds more : List Deed} (first : AmongVerbs deeds)
    (second : AmongVerbs more) : AmongVerbs (deeds ++ more) := by
  intro h driving member
  exact (List.mem_append.mp member).elim (first h driving) (second h driving)

/-- Deeds that may be done by themselves drive no verb. -/
theorem Deed.AllAllowed.amongVerbs {driver : Option Handle} {s : Stage} {deeds : List Deed}
    (allowed : AllAllowed driver s deeds) : AmongVerbs deeds := by
  induction deeds generalizing s with
  | nil => exact .nil
  | cons deed rest ih =>
    intro h driving member
    rcases List.mem_cons.mp member with rfl | later
    · exact absurd allowed.1 id
    · exact ih allowed.2 h driving later

/-- Whether the action on which a verb is parked, if it shows a dialog, shows the open one: that of
the verb, and of the actor that is meant where the verb is parked. -/
def Stage.Shows (s : Stage) (h : Handle) (leaf : Leaf) : Prop :=
  ∀ actor dialog owner, leaf = some (.showDialog actor dialog, owner) →
    ∃ scene id, s.world.openDialog = some ⟨h, scene, id, dialog⟩ ∧
      (Frame.mk h owner false s).actorRef actor = .ok (scene, id)

theorem Stage.shows_of_noChoice (s : Stage) (h : Handle) {leaf : Leaf}
    (noChoice : awaitsChoice leaf = false) : s.Shows h leaf := by
  rintro actor dialog owner rfl
  cases noChoice

/-- What one verb does, as a course from its frame to another.  A verb that is parked has not been
asked to end, and if it waits for a choice, then in the open dialog. -/
structure Frame.Runs (f : Frame) (deeds : List Deed) (f' : Frame) (leaf : Leaf) : Prop where
  course : Stage.Course (some f.handle) f.stage deeds f'.stage leaf
  handle_eq : f'.handle = f.handle
  scope_eq : f'.scope = f.scope
  steady : leaf.isSome → f'.cancelRequested = false
  amongVerbs : Deed.AmongVerbs deeds
  shows : f'.stage.Shows f.handle leaf

namespace Frame.Runs

variable {f f' f'' : Frame} {deeds more : List Deed} {leaf : Leaf}

/-- What is done in a course at whose end the verb is not parked. -/
theorem ofCourse {stage : Stage} (course : Stage.Course (some f.handle) f.stage deeds stage none)
    (amongVerbs : Deed.AmongVerbs deeds) : f.Runs deeds { f with stage } none :=
  ⟨course, rfl, rfl, nofun, amongVerbs, stage.shows_of_noChoice f.handle rfl⟩

/-- Nothing is done. -/
theorem ended (f : Frame) : f.Runs [] f none := ofCourse .ended .nil

/-- What has been done goes on. -/
theorem append (first : f.Runs deeds f' none) (second : f'.Runs more f'' leaf) :
    f.Runs (deeds ++ more) f'' leaf where
  course := first.course.append (first.handle_eq ▸ second.course)
  handle_eq := second.handle_eq.trans first.handle_eq
  scope_eq := second.scope_eq.trans first.scope_eq
  steady := second.steady
  amongVerbs := first.amongVerbs.append second.amongVerbs
  shows := first.handle_eq ▸ second.shows

/-- A few deeds are done. -/
theorem ofDeeds (allowed : Deed.AllAllowed (some f.handle) f.stage deeds) :
    f.Runs deeds (f.after deeds) none :=
  ofCourse (.ofDeeds allowed) allowed.amongVerbs

/-- The verb is parked without further deeds. -/
theorem park (noChoice : awaitsChoice leaf = false) (steady : f.cancelRequested = false) :
    f.Runs [] f leaf :=
  ⟨.parked noChoice, rfl, rfl, fun _ => steady, .nil, f.stage.shows_of_noChoice _ noChoice⟩

/-- A few deeds are done, and then the verb is parked. -/
theorem parkAfter (allowed : Deed.AllAllowed (some f.handle) f.stage deeds)
    (noChoice : awaitsChoice leaf = false) (steady : f.cancelRequested = false) :
    f.Runs deeds (f.after deeds) leaf := by
  have parked : (f.after deeds).Runs [] (f.after deeds) leaf := park noChoice steady
  simpa using (ofDeeds allowed).append parked

/-- A line is added to the journal. -/
theorem info (f : Frame) (text : String) : f.Runs [.note .info text] (f.info text) none :=
  ofDeeds ⟨trivial, trivial⟩

theorem error (f : Frame) (text : String) : f.Runs [.note .error text] (f.error text) none :=
  ofDeeds ⟨trivial, trivial⟩

/-- What is done in the scope of an inner script is done. -/
theorem inScope {bound : Option Owner} (inner : (f.enterScope bound).Runs deeds f' leaf) :
    f.Runs deeds (f.leaveScope f') leaf :=
  ⟨inner.course, inner.handle_eq, rfl, inner.steady, inner.amongVerbs, inner.shows⟩

end Frame.Runs

/-! ## Giving up -/

/-- What a verb does to give something up, which opens no dialog.  If that was waiting for a choice
in a dialog that the verb has opened, the dialog is closed. -/
def Frame.GivesUp (f f' : Frame) (waiting : Prop) : Prop :=
  ∃ deeds, f.Runs deeds f' none ∧ f'.cancelRequested = f.cancelRequested ∧
    (∀ opened, .openDialog opened ∉ deeds) ∧
    (waiting → ∀ opened, f.stage.world.openDialog = some opened → opened.handle = f.handle →
      .closeDialog ∈ deeds)

namespace Frame.GivesUp

variable {f f' f'' : Frame}

/-- What waits for nothing is given up with nothing done. -/
theorem nothing {waiting : Prop} (notWaiting : ¬ waiting) : f.GivesUp f waiting :=
  ⟨[], .ended f, rfl, by simp, fun isWaiting => absurd isWaiting notWaiting⟩

/-- Giving up goes on with things that have not been waited for. -/
theorem append {waiting other : Prop} (first : f.GivesUp f' waiting)
    (second : f'.GivesUp f'' other) : f.GivesUp f'' waiting := by
  obtain ⟨deeds, runs, kept, opensNone, closes⟩ := first
  obtain ⟨more, runs', kept', opensNone', _⟩ := second
  refine ⟨deeds ++ more, runs.append runs', kept'.trans kept, ?_, ?_⟩
  · intro opened member
    exact (List.mem_append.mp member).elim (opensNone opened) (opensNone' opened)
  intro isWaiting opened isOpen own
  exact List.mem_append_left _ (closes isWaiting opened isOpen own)

theorem mono {waiting other : Prop} (gives : f.GivesUp f' waiting) (weaker : other → waiting) :
    f.GivesUp f' other := by
  obtain ⟨deeds, runs, kept, opensNone, closes⟩ := gives
  exact ⟨deeds, runs, kept, opensNone, fun isOther => closes (weaker isOther)⟩

theorem inScope {bound : Option Owner} {waiting : Prop}
    (inner : (f.enterScope bound).GivesUp f' waiting) : f.GivesUp (f.leaveScope f') waiting := by
  obtain ⟨deeds, runs, kept, opensNone, closes⟩ := inner
  exact ⟨deeds, runs.inScope, kept, opensNone, closes⟩

end Frame.GivesUp

/-- A verb closes its own dialog. -/
theorem Frame.releaseDialog_givesUp (f : Frame) : f.GivesUp f.releaseDialog True := by
  unfold Frame.releaseDialog
  cases isOpen : f.stage.world.openDialog with
  | none => exact ⟨[], .ended f, rfl, by simp, by simp [isOpen]⟩
  | some opened =>
    simp only
    split
    · next own =>
      exact ⟨[.closeDialog, .note .info _, .emit _],
        .ofDeeds ⟨⟨f.handle, opened, rfl, isOpen, own⟩, trivial, trivial, trivial⟩, rfl, by simp,
        by simp⟩
    · next foreign =>
      refine ⟨[], .ended f, rfl, by simp, ?_⟩
      rintro - other isOther own
      rw [isOpen] at isOther
      cases isOther
      exact absurd own foreign

namespace Action

/-- Whether a script that is parked on the action waits for a choice. -/
def WaitsForChoice (action : Action) : Prop := ∃ owner, awaitsChoice (action.leaf? owner) = true

end Action

/-- Whether a script is parked below on an action that waits for a choice. -/
def Script.WaitsForChoice (s : Script Action) : Prop :=
  ∃ owner, awaitsChoice (s.leaf? owner) = true

/-- Whether an action waits for a choice does not depend on the owner it runs for. -/
theorem Action.awaitsChoice_leaf? (action : Action) (owner other : Owner) :
    awaitsChoice (action.leaf? owner) = awaitsChoice (action.leaf? other) := by
  have inScript : ∀ script : Script Action, (∀ action ∈ script.actions, ∀ owner other,
      awaitsChoice (action.leaf? owner) = awaitsChoice (action.leaf? other)) →
        ∀ owner other, awaitsChoice (script.leaf? owner) = awaitsChoice (script.leaf? other) := by
    rintro ⟨actions, (_ | ip), (_ | _)⟩ below owner other <;> try rfl
    simp only [Script.leaf?, Action.leafAt?_eq]
    cases here : actions[ip]? with
    | none => rfl
    | some action => exact below action (List.mem_of_getElem? here) owner other
  induction action using Action.nestedInduction generalizing owner other with
  | leaf action noInner =>
    cases action with
    | conditional condition script => cases noInner
    | runVerb whose verb target bound script => cases noInner
    | _ => rfl
  | conditional condition script ih => exact inScript script ih owner other
  | runVerb whose verb target bound script ih => exact inScript script ih _ _

/-- Whether a script waits for a choice does not depend on the owner it runs for. -/
theorem Script.WaitsForChoice.awaitsChoice_eq {s : Script Action} (waits : s.WaitsForChoice)
    (owner : Owner) : awaitsChoice (s.leaf? owner) = true := by
  obtain ⟨other, isChoice⟩ := waits
  exact (Action.awaitsChoice_leaf? (.conditional default s) owner other).trans isChoice

namespace Action

private theorem cancelAll_givesUp {actions : List Action}
    (below : ∀ action ∈ actions, ∀ f : Frame,
      f.GivesUp (action.cancel f).2 action.WaitsForChoice) (f : Frame) :
    f.GivesUp (Action.cancelFrom 0 actions f).2
      (∃ action, actions[0]? = some action ∧ action.WaitsForChoice) := by
  induction actions generalizing f with
  | nil => exact .nothing (by simp)
  | cons head rest ih =>
    have first := below head (List.mem_cons_self ..) f
    have others := ih (fun action member => below action (List.mem_cons_of_mem _ member))
      (head.cancel f).2
    refine (first.append others).mono ?_
    rintro ⟨action, same, waits⟩
    cases same
    exact waits

private theorem cancelFrom_givesUp_of {actions : List Action}
    (below : ∀ action ∈ actions, ∀ f : Frame,
      f.GivesUp (action.cancel f).2 action.WaitsForChoice) (ip : Nat) (f : Frame) :
    f.GivesUp (Action.cancelFrom ip actions f).2
      (∃ action, actions[ip]? = some action ∧ action.WaitsForChoice) := by
  rw [Action.cancelFrom_eq]
  refine (cancelAll_givesUp (fun action member => below action (List.mem_of_mem_drop member))
    f).mono ?_
  rintro ⟨action, here, waits⟩
  exact ⟨action, by simpa using here, waits⟩

end Action

/-- A script waits for a choice only through the action at its cursor. -/
theorem Script.WaitsForChoice.exists_action {actions : List Action} {ip : Nat} {suspended : Bool}
    (waits : Script.WaitsForChoice ⟨actions, some ip, suspended⟩) :
    ∃ action, actions[ip]? = some action ∧ action.WaitsForChoice := by
  obtain ⟨owner, isChoice⟩ := waits
  cases suspended with
  | false => simp [Script.leaf?, awaitsChoice] at isChoice
  | true =>
    simp only [Script.leaf?, Action.leafAt?_eq] at isChoice
    cases here : actions[ip]? with
    | none => simp [here, awaitsChoice] at isChoice
    | some action =>
      rw [here] at isChoice
      exact ⟨action, rfl, owner, isChoice⟩

/-- A script that waits for a choice is parked on an action that does. -/
theorem Script.WaitsForChoice.exists_parked {s : Script Action} (waits : s.WaitsForChoice) :
    ∃ actions ip action, s = ⟨actions, some ip, true⟩ ∧ actions[ip]? = some action ∧
      action.WaitsForChoice := by
  rcases s.parked_or_still with ⟨actions, ip, action, rfl, here⟩ | still
  · rcases waits.exists_action with ⟨action', here', actionWaits⟩
    exact ⟨actions, ip, action', rfl, here', actionWaits⟩
  · rcases waits with ⟨owner, isChoice⟩
    rw [still.leaf] at isChoice
    cases isChoice

/-- A script without a cursor does not wait. -/
theorem Script.not_waitsForChoice_none {actions : List Action} {suspended : Bool} :
    ¬ Script.WaitsForChoice ⟨actions, none, suspended⟩ := by
  rintro ⟨owner, isChoice⟩
  simp [Script.leaf?, awaitsChoice] at isChoice

private theorem Script.cancel_givesUp_of {s : Script Action}
    (below : ∀ action ∈ s.actions, ∀ f : Frame,
      f.GivesUp (action.cancel f).2 action.WaitsForChoice) (f : Frame) :
    f.GivesUp (s.cancel f).2 s.WaitsForChoice := by
  obtain ⟨actions, ip, suspended⟩ := s
  cases ip with
  | none => exact .nothing Script.not_waitsForChoice_none
  | some ip =>
    exact (Action.cancelFrom_givesUp_of below ip f).mono fun waits => waits.exists_action

/-- An action that is cancelled is given up. -/
theorem Action.cancel_givesUp (action : Action) (f : Frame) :
    f.GivesUp (action.cancel f).2 action.WaitsForChoice := by
  induction action using Action.nestedInduction generalizing f with
  | leaf action noInner =>
    cases action with
    | showDialog actor dialog => exact f.releaseDialog_givesUp.mono fun _ => trivial
    | conditional condition script => cases noInner
    | runVerb whose verb target bound script => cases noInner
    | _ => exact .nothing (by rintro ⟨owner, isChoice⟩; simp [Action.leaf?, awaitsChoice] at isChoice)
  | conditional condition script ih => exact (Script.cancel_givesUp_of ih f).mono id
  | runVerb whose verb target bound script ih =>
    refine (Script.cancel_givesUp_of ih (f.enterScope bound)).inScope.mono ?_
    rintro ⟨owner, isChoice⟩
    exact ⟨_, isChoice⟩

/-- The actions of a list from a position on are given up. -/
theorem Action.cancelFrom_givesUp (ip : Nat) (actions : List Action) (f : Frame) :
    f.GivesUp (Action.cancelFrom ip actions f).2
      (∃ action, actions[ip]? = some action ∧ action.WaitsForChoice) :=
  Action.cancelFrom_givesUp_of (fun action _ => action.cancel_givesUp) ip f

/-- A script that is cancelled is given up. -/
theorem Script.cancel_givesUp (s : Script Action) (f : Frame) :
    f.GivesUp (s.cancel f).2 s.WaitsForChoice :=
  Script.cancel_givesUp_of (fun action _ => action.cancel_givesUp) f

/-- The action at the cursor of a script that is started anew is given up. -/
theorem Script.release_givesUp (s : Script Action) (f : Frame) :
    f.GivesUp (s.release f) s.WaitsForChoice := by
  obtain ⟨actions, ip, suspended⟩ := s
  cases ip with
  | none => exact .nothing Script.not_waitsForChoice_none
  | some ip =>
    simp only [Script.release, Option.bind_some]
    cases here : actions[ip]? with
    | none =>
      refine .nothing fun waits => ?_
      obtain ⟨action, present, _⟩ := waits.exists_action
      simp [here] at present
    | some action =>
      refine (action.cancel_givesUp f).mono fun waits => ?_
      obtain ⟨action', present, waits'⟩ := waits.exists_action
      rw [here] at present
      cases present
      exact waits'

/-! ## What giving up keeps -/

section

variable {motive : Stage → Prop}

private theorem Action.cancelFrom_of_releases {actions : List Action}
    (below : ∀ action ∈ actions, ∀ f : Frame, motive f.stage → motive (action.cancel f).2.stage)
    (ip : Nat) (f : Frame) (before : motive f.stage) :
    motive (Action.cancelFrom ip actions f).2.stage := by
  induction actions generalizing ip f with
  | nil =>
    unfold Action.cancelFrom
    exact before
  | cons head rest ih =>
    rw [List.forall_mem_cons] at below
    cases ip with
    | zero => exact ih below.2 0 _ (below.1 f before)
    | succ ip => exact ih below.2 ip f before

private theorem Script.cancel_of_releases_of {s : Script Action}
    (below : ∀ action ∈ s.actions, ∀ f : Frame, motive f.stage → motive (action.cancel f).2.stage)
    (f : Frame) (before : motive f.stage) : motive (s.cancel f).2.stage := by
  obtain ⟨actions, ip, suspended⟩ := s
  cases ip with
  | none => exact before
  | some ip => exact Action.cancelFrom_of_releases below ip f before

/-- What is kept when a verb closes its dialog is kept when an action is cancelled. -/
theorem Action.cancel_of_releases
    (releases : ∀ f : Frame, motive f.stage → motive f.releaseDialog.stage) (action : Action)
    (f : Frame) (before : motive f.stage) : motive (action.cancel f).2.stage := by
  induction action using Action.nestedInduction generalizing f with
  | leaf action noInner =>
    cases action with
    | showDialog actor dialog => exact releases f before
    | conditional condition script => cases noInner
    | runVerb whose verb target bound script => cases noInner
    | _ => exact before
  | conditional condition script ih => exact Script.cancel_of_releases_of ih f before
  | runVerb whose verb target bound script ih =>
    exact Script.cancel_of_releases_of ih (f.enterScope bound) before

/-- What is kept when a verb closes its dialog is kept when a script is cancelled. -/
theorem Script.cancel_of_releases
    (releases : ∀ f : Frame, motive f.stage → motive f.releaseDialog.stage) (s : Script Action)
    (f : Frame) (before : motive f.stage) : motive (s.cancel f).2.stage :=
  Script.cancel_of_releases_of (fun action _ => action.cancel_of_releases releases) f before

/-- What is kept when a verb closes its dialog is kept when a script is started anew. -/
theorem Script.release_of_releases
    (releases : ∀ f : Frame, motive f.stage → motive f.releaseDialog.stage) (s : Script Action)
    (f : Frame) (before : motive f.stage) : motive (s.release f).stage := by
  unfold Script.release
  split
  · exact Action.cancel_of_releases releases _ f before
  · exact before

end

end Stagecraft
