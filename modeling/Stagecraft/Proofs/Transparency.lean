import Stagecraft.Proofs.Evaluation
import Stagecraft.Proofs.Rest

/-!
# Parking is not seen

A verb that is run and then resumed until it is finished comes to what it comes to if its actions
are evaluated in one go.  Between two resumptions the verb is back in its table, which is not seen
by the verb itself, since it is taken out again before it goes on.
-/

namespace Stagecraft

variable {driver : Option Handle} {s s' : Stage} {deeds : List Deed} {leaf : Leaf} {h : Handle}

/-! ## Verbs that can come back -/

/-- Whether a verb that is driven can come back into its table: its owner exists, and its key has
not got another definition. -/
def Stage.Expects (s : Stage) (h : Handle) : Prop :=
  (s.world.verbs? h.owner).isSome ∧ s.world.script? h = none

namespace Stage.Expects

/-- A verb that can come back after a deed could before. -/
theorem of_apply {deed : Deed} (allowed : deed.Allowed driver s)
    (expects : (deed.apply s).Expects h) : s.Expects h := by
  obtain ⟨present, absent⟩ := expects
  cases moves : deed.movesVerbs with
  | false =>
    rw [Deed.verbs?_apply moves] at present
    rw [Deed.script?_apply moves] at absent
    exact ⟨present, absent⟩
  | true =>
    cases deed with
    | install g script =>
      obtain ⟨_, isThere, _⟩ := allowed
      simp only [Deed.apply, Stage.mapWorld, World.isSome_verbs?_modifyVerbs] at present
      simp only [Deed.apply, Stage.mapWorld, World.script?_insert isThere] at absent
      split at absent
      · cases absent
      · exact ⟨present, absent⟩
    | remove scene actor =>
      simp only [Deed.apply, Stage.mapWorld, World.verbs?_without] at present
      simp only [Deed.apply, Stage.mapWorld, World.script?, World.verbs?_without] at absent
      split at present
      · cases present
      · next other =>
        rw [if_neg other] at absent
        exact ⟨present, absent⟩
    | take | putBack => cases allowed
    | _ => cases moves

/-- Whether another verb can come back does not depend on one that is lent. -/
theorem of_lend {g : Handle} (other : h ≠ g) (expects : (s.lend g).Expects h) : s.Expects h := by
  obtain ⟨present, absent⟩ := expects
  rw [Stage.script?_lend, if_neg other] at absent
  refine ⟨?_, absent⟩
  simpa [Stage.lend] using present

/-- Whether another verb can come back does not depend on one that has been driven. -/
theorem of_closing {g : Handle} {script : Script Action} (other : h ≠ g)
    (expects : ((s.closing g script).apply s).Expects h) : s.Expects h := by
  obtain ⟨present, absent⟩ := expects
  rw [Stage.script?_closing, if_neg other] at absent
  rw [Stage.isSome_verbs?_closing] at present
  exact ⟨present, absent⟩

end Stage.Expects

/-- A verb that can come back at the end of a course could at any time before. -/
theorem Stage.Course.expects (course : Course driver s deeds s' leaf) (executing : h ∈ s.executing)
    (expects : s'.Expects h) : s.Expects h := by
  induction course with
  | ended => exact expects
  | parked => exact expects
  | shown => exact expects
  | deed allowed _ ih => exact (ih (by rwa [allowed.executing_eq]) expects).of_apply allowed
  | @drive driver s g script driving depth script' state f' deeds more s' leaf idle _ _ inner _ _
      ihInner ih =>
    have other : h ≠ g := fun same => idle (same ▸ executing)
    have stillExecuting : h ∈ ((f'.stage.closing g script').apply f'.stage).executing := by
      rw [Stage.executing_closing, inner.executing_eq]
      exact executing
    have afterInner := (ih stillExecuting expects).of_closing other
    exact (ihInner (List.mem_cons_of_mem _ executing) afterInner).of_lend other

namespace Stage

/-- A verb that can come back does so. -/
theorem Expects.closing_eq (expects : s.Expects h) (script : Script Action) :
    s.closing h script = .putBack h script := by
  obtain ⟨present, absent⟩ := expects
  obtain ⟨verbs, isThere⟩ := Option.isSome_iff_exists.mp present
  have noKey : verbs.contains h.key = false := by
    simpa [World.script?, isThere, Table.contains] using absent
  simp [closing, isThere, noKey]

/-- A verb that has come back is in its table. -/
theorem Expects.script?_putBack (expects : s.Expects h) (script : Script Action) :
    ((Deed.putBack h script).apply s).world.script? h = some script := by
  have present : (s.release.world.verbs? h.owner).isSome := expects.1
  simp [Deed.apply, mapWorld, World.script?_insert present]

/-- A verb that comes back and is taken out again has not come back. -/
theorem Expects.lend_putBack (expects : s.Expects h) {others : List Handle}
    (executing : s.executing = h :: others) (script : Script Action) :
    ((Deed.putBack h script).apply s).lend h = s := by
  obtain ⟨_, absent⟩ := expects
  have sameWorld : (s.world.modifyVerbs h.owner (·.insert h.key script)).modifyVerbs h.owner
      (·.erase h.key) = s.world := by
    rw [World.modifyVerbs_modifyVerbs]
    refine World.modifyVerbs_eq_self fun verbs isThere => ?_
    have noKey : verbs.get? h.key = none := by simpa [World.script?, isThere] using absent
    exact Table.erase_insert script noKey
  unfold lend
  simp only [Deed.apply, mapWorld, release, executing, List.tail_cons, sameWorld]
  rw [← executing]

end Stage

/-! ## Resuming a verb until its end -/

/-- The run state of a verb has been told, and the verb is resumed, at any depth from `least` on,
until it is told to be finished. -/
inductive Stage.Finishes (least : Nat) (h : Handle) : RunState → Stage → Stage → Prop
  | done {s : Stage} : Finishes least h .finished s s
  | resumed {s s₁ s' : Stage} {state : RunState}
      (resumes : ∀ depth ≥ least, s.resumeVerb h depth = (.ok state, s₁))
      (rest : Finishes least h state s₁ s') : Finishes least h .suspended s s'

/-- The frame of a verb that has come to its end. -/
def Frame.ended (f : Frame) : Frame :=
  if f.cancelRequested then
    { f with cancelRequested := false }.info s!">>> cancelling verb {f.handle.key.text}"
  else f.info s!">>> verb {f.handle.key.text} finished"

/-- The end of a verb is noted and no more. -/
theorem Frame.expects_ended (f : Frame) : f.ended.stage.Expects h ↔ f.stage.Expects h := by
  unfold Frame.ended
  split <;> rfl

/-- Nothing is left to cancel at the end. -/
theorem Action.cancelFrom_length (actions : List Action) (f : Frame) :
    Action.cancelFrom actions.length actions f = (actions, f) := by
  rw [Action.cancelFrom_eq]
  simp [Action.cancelFrom]

/-- A verb whose script is at its end is settled by a note. -/
theorem Frame.settle_finished (f : Frame) (actions : List Action) :
    f.settle ⟨actions, some actions.length, false⟩ .finished =
      (⟨actions, some actions.length, false⟩, .finished, f.ended) := by
  unfold Frame.settle Frame.ended
  split
  · simp only [Frame.cancelVerb, Script.cancel, Action.cancelFrom_length]
  · rfl

namespace Script.Finishes

variable {least : Nat} {s s' : Script Action} {state : RunState} {f f' : Frame}

/-- What a verb can come back to when it is finished it could when it was parked. -/
theorem expects (finishes : Script.Finishes least s state f s' f') (own : f.handle = h)
    (executing : h ∈ f.stage.executing) (expects : f'.stage.Expects h) : f.stage.Expects h := by
  induction finishes with
  | done => exact expects
  | resumed calm resumes _ ih =>
    obtain ⟨deeds, leaves, _⟩ := Script.resume_runs (Action.perform_runs least) calm
      (resumes least (Nat.le_refl _))
    have later := ih (leaves.handle_eq.trans own) (by rwa [leaves.course.executing_eq]) expects
    exact leaves.course.expects executing later

/-- A verb whose script can be resumed in its frame until it is finished can be resumed so on the
stage, where it comes back into its table each time it parks. -/
theorem onStage {others : List Handle} {actions : List Action}
    (finishes : Script.Finishes least s state f s' f')
    (atEnd : s' = ⟨actions, some actions.length, false⟩) (own : f.handle = h)
    (inScope : f.scope = h.owner) (executing : f.stage.executing = h :: others)
    (idle : h ∉ others) (expects : f'.stage.Expects h) :
    Stage.Finishes least h (f.settle s state).2.1
      (((f.settle s state).2.2.stage.closing h (f.settle s state).1).apply
        (f.settle s state).2.2.stage)
      ((Deed.putBack h s').apply f'.ended.stage) := by
  induction finishes with
  | @done s f =>
    subst atEnd
    rw [Frame.settle_finished]
    rw [(f.expects_ended.mpr expects).closing_eq]
    exact .done
  | @resumed s f s₁ state f₁ s' f' calm resumes rest ih =>
    have parked : f.settle s .suspended = (s, .suspended, f) := by
      simp [Frame.settle, calm]
    have expectsNow := (Script.Finishes.resumed calm resumes rest).expects own
      (by simp [executing]) expects
    rw [parked]
    simp only [expectsNow.closing_eq]
    obtain ⟨deeds, leaves⟩ := Script.resume_runs (Action.perform_runs least) calm
      (resumes least (Nat.le_refl _))
    have later := ih atEnd (leaves.1.handle_eq.trans own) (leaves.1.scope_eq.trans inScope)
      (leaves.1.course.executing_eq.trans executing) expects
    refine .resumed (fun depth ge => ?_) later
    rcases settled : f₁.settle s₁ state with ⟨s₂, state₂, f₂⟩
    have entered : Frame.enter h f.stage = f := by
      obtain ⟨handle, scope, requested, stage⟩ := f
      obtain ⟨rfl, rfl, rfl⟩ : handle = h ∧ scope = h.owner ∧ requested = false :=
        ⟨own, inScope, calm⟩
      rfl
    obtain ⟨more, left, _⟩ := Frame.settle_runs leaves settled
    have lentAgain := expectsNow.lend_putBack executing s
    have executingBetween : ((Deed.putBack h s).apply f.stage).executing = others := by
      simp [Deed.apply, Stage.mapWorld, Stage.release, executing]
    have executingAgain :
        f₂.stage.executing = h :: ((Deed.putBack h s).apply f.stage).executing := by
      rw [left.course.executing_eq, executing, executingBetween]
    have drives : Driving.resume.drive (Action.perform depth) s
        (.enter h (((Deed.putBack h s).apply f.stage).lend h)) = .ok (s₂, state₂, f₂) := by
      simp only [lentAgain, Driving.drive, entered, resumes depth ge, Except.map, settled]
    have driven := Stage.driveVerb_eq_of_ok (by rwa [executingBetween])
      (expectsNow.script?_putBack s) drives executingAgain
    rw [Stage.resumeVerb_eq, driven]
    rfl

end Script.Finishes

/-! ## Running a verb -/

/-- What running a verb comes to if it is evaluated in one go: the verb leaves its table and gives up
the action at its cursor, its actions are evaluated without progress from the first, and the verb
comes back at its end.  It has to be able to: its owner has to be there still, and its key must not
have got another definition. -/
inductive Stage.Evaluates (s : Stage) (h : Handle) : Script Action → Stage → Prop
  | intro {script : Script Action} {actions : List Action} {f : Frame}
      (found : s.world.script? h = some script)
      (evaluates : Action.Evaluates 0 script.reset.actions
        (script.release ((Frame.enter h (s.lend h)).info s!">>> running verb {h.key.text}"))
        actions f)
      (expects : f.stage.Expects h) :
      Evaluates s h ⟨actions, some actions.length, false⟩
        ((Deed.putBack h ⟨actions, some actions.length, false⟩).apply f.ended.stage)

/-- Running a verb that is not driven, and resuming it until it is finished, comes to what evaluating
it in one go comes to. -/
theorem Stage.Evaluates.finishes {script : Script Action} (evaluates : s.Evaluates h script s')
    (idle : h ∉ s.executing) :
    ∃ least state s₁,
      (∀ depth ≥ least, s.runHandle (Action.perform depth) h = (some state, s₁)) ∧
      Stage.Finishes least h state s₁ s' := by
  obtain @⟨written, actions, f, found, evaluates, expects⟩ := evaluates
  have fresh : Action.resetAll written.reset.actions = written.reset.actions := by
    rw [Script.reset_eq]
    exact Action.resetAll_resetAll _
  obtain ⟨least, within⟩ := evaluates.finishes fresh
  obtain ⟨s₀, state₀, f₀, sweeps, finishes⟩ := within [] rfl
  simp only [List.nil_append] at sweeps finishes
  have started : ∀ depth ≥ least, written.start (Action.perform depth)
      ((Frame.enter h (s.lend h)).info s!">>> running verb {h.key.text}") = (s₀, state₀, f₀) :=
    sweeps
  obtain ⟨deeds, leaves, _⟩ := Script.start_runs (Action.perform_runs least)
    (started least (Nat.le_refl _))
  have executing : f₀.stage.executing = h :: s.executing := leaves.1.course.executing_eq
  rcases settled : f₀.settle s₀ state₀ with ⟨s₁, state₁, f₁⟩
  obtain ⟨more, left, _⟩ := Frame.settle_runs leaves settled
  have driven : ∀ depth ≥ least, s.driveVerb (Action.perform depth) .run h =
      (some (.ok state₁), (f₁.stage.closing h s₁).apply f₁.stage) := by
    intro depth ge
    refine Stage.driveVerb_eq_of_ok idle found ?_ left.course.executing_eq
    have ran : (Frame.enter h (s.lend h)).run (Action.perform depth) written =
        (s₁, state₁, f₁) := by
      unfold Frame.run
      have same : (Frame.enter h (s.lend h)).handle = h := rfl
      simp only [same, started depth ge, settled]
    exact congrArg Except.ok ran
  refine ⟨least, state₁, (f₁.stage.closing h s₁).apply f₁.stage, fun depth ge => ?_, ?_⟩
  · obtain ⟨told, after⟩ := Prod.mk.inj
      ((Stage.runHandle_eq (Action.perform depth) s h).symm.trans (driven depth ge))
    obtain ⟨state, same, isOk⟩ := Option.map_eq_some_iff.mp told
    cases isOk
    exact Prod.ext same after
  · have onStage := finishes.onStage rfl leaves.1.handle_eq leaves.1.scope_eq executing idle expects
    rw [settled] at onStage
    exact onStage

/-- Between the moves of a game, running a verb and resuming it until it is finished comes to what
evaluating it in one go comes to: the same stage, and the same script in its table. -/
theorem Stage.Opening.finishes_play (opening : s.Opening) (moves : List (Move × Nat))
    {script : Script Action} (evaluates : (s.play moves).Evaluates h script s') :
    (∃ least state s₁,
      (∀ depth ≥ least,
        (s.play moves).runHandle (Action.perform depth) h = (some state, s₁)) ∧
      Stage.Finishes least h state s₁ s') ∧
    s'.world.script? h = some script := by
  have idle : h ∉ (s.play moves).executing := by
    obtain ⟨deeds, course⟩ := s.play_course moves
    simp [course.executing_eq, opening.soundBut.1]
  refine ⟨evaluates.finishes idle, ?_⟩
  obtain @⟨_, actions, f, _, _, expects⟩ := evaluates
  have stillExpects : f.ended.stage.Expects h := f.expects_ended.mpr expects
  exact stillExpects.script?_putBack _

/-- In the hall the clerk's verb, while it waits in its dialog, is run anew, parks on the dialog and is
resumed until it is finished. -/
theorem World.hall_finishes : ∃ script s' least state s₁,
    (∀ depth ≥ least, ((Stage.ofWorld .hall).play [(.interact "clerk" "talk" none, 2)]).runHandle
      (Action.perform depth) ⟨.actor "hall" "clerk", "talk", none, none⟩ = (some state, s₁)) ∧
    Stage.Finishes least ⟨.actor "hall" "clerk", "talk", none, none⟩ state s₁ s' ∧
    s'.world.script? ⟨.actor "hall" "clerk", "talk", none, none⟩ = some script := by
  have found : ((Stage.ofWorld .hall).play [(.interact "clerk" "talk" none, 2)]).world.script?
      ⟨.actor "hall" "clerk", "talk", none, none⟩ =
        some ⟨[.showDialog none "offer", .setState .owner (some "met")], some 0, true⟩ := rfl
  have evaluates : ((Stage.ofWorld .hall).play [(.interact "clerk" "talk" none, 2)]).Evaluates
      ⟨.actor "hall" "clerk", "talk", none, none⟩ _ _ :=
    .intro found
      (.performed (by decide +kernel) rfl
        (Action.performs_of_leaf _ _ rfl (by simp [Action.reset]))
        (.performed (by decide +kernel) rfl
          (Action.performs_of_leaf _ _ rfl (by simp [Action.reset])) .nil))
      ⟨by decide +kernel, Option.isNone_iff_eq_none.mp (by decide +kernel)⟩
  obtain ⟨⟨least, state, s₁, ran, finishes⟩, inTable⟩ :=
    (Stage.Opening.built .standard World.hall_built).finishes_play _ evaluates
  exact ⟨_, _, least, state, s₁, ran, finishes, inTable⟩

end Stagecraft
