import Stagecraft.Proofs.Tables
import Stagecraft.Proofs.Transparency

/-!
# Running a verb again

Playing a world never changes what its verbs were written as.  So a verb that is run, whatever has
become of it before, first lets go of what it holds and then runs its definition from the start.
-/

namespace Stagecraft

variable {driver : Option Handle} {s s' : Stage} {deeds : List Deed} {leaf : Leaf} {h : Handle}

/-! ## Definitions -/

/-- No verb of a built world has made any progress. -/
theorem Definition.build_pristine {d : Definition} {w : World} (built : d.build = .ok w) :
    w.Each fun script => script.reset = script := by
  have written : ∀ definition : VerbDefinition,
      definition.toVerb.script.reset = definition.toVerb.script := by
    intro definition
    simp only [VerbDefinition.toVerb, Script.ofActions, Script.reset,
      Instruction.resetAll_toActions]
  exact Definition.build_each (fun definition _ => written definition) built

/-- What deeds leave a handle as its definition: the last one that they have given to it, or else
the script with which the deeds began. -/
def Stage.Defines (s : Stage) (deeds : List Deed) (h : Handle) (definition : Script Action) :
    Prop :=
  (Deed.definitions h deeds).getLast?.or (s.world.script? h) = some definition

/-- Definitions that are given in a course have no progress. -/
theorem Stage.Course.reset_definition (course : Course driver s deeds s' leaf)
    {definition : Script Action} (member : definition ∈ Deed.definitions h deeds) :
    definition.reset = definition := by
  rcases List.append_of_mem (Deed.mem_definitions.mp member) with ⟨first, later, rfl⟩
  have possible := course.allPossible
  rw [Deed.allPossible_append] at possible
  rcases possible.2.1.install with ⟨_, original, rfl⟩
  exact Script.reset_reset original

/-- If the world had no progress when a course began, then each verb is at the end what it has been
defined as, apart from its progress. -/
theorem Stage.Course.defines (course : Course driver s deeds s' leaf) (idle : s.executing = [])
    (pristine : s.world.Each fun script => script.reset = script) {script : Script Action}
    (found : s'.world.script? h = some script) : s.Defines deeds h script.reset := by
  have present := World.isSome_verbs?_of_script? (Option.isSome_of_eq_some found)
  have standing := course.reset_script? (by simp [idle]) present
  rw [found, Option.map_some] at standing
  rcases Option.map_eq_some_iff.mp standing.symm with ⟨definition, defined, same⟩
  have noProgress : definition.reset = definition := by
    rcases Option.or_eq_some_iff.mp defined with given | ⟨_, original⟩
    · exact course.reset_definition (List.mem_of_getLast? given)
    · exact pristine.of_script? original
  unfold Stage.Defines
  rw [defined, ← same, noProgress]

/-- A verb that is in its table before and after a course, and has not been defined anew, was
written the same. -/
theorem Stage.Course.reset_eq (course : Course driver s deeds s' leaf) (idle : s.executing = [])
    (kept : ∀ written, .install h written ∉ deeds) {script script' : Script Action}
    (found : s.world.script? h = some script) (found' : s'.world.script? h = some script') :
    script'.reset = script.reset := by
  have present := World.isSome_verbs?_of_script? (Option.isSome_of_eq_some found')
  have noDefinition : Deed.definitions h deeds = [] := by
    apply List.eq_nil_iff_forall_not_mem.mpr
    intro written member
    exact kept written (Deed.mem_definitions.mp member)
  have standing := course.reset_script? (by simp [idle]) present
  rw [found', noDefinition, found] at standing
  simpa using standing

/-! ## Letting go -/

/-- Closing its dialog, a verb changes no table. -/
private theorem Frame.verbs?_releaseDialog (f : Frame) :
    f.releaseDialog.stage.world.verbs? = f.stage.world.verbs? := by
  unfold Frame.releaseDialog
  split
  · split <;> rfl
  · rfl

/-- Letting go of what an action holds changes no table. -/
theorem Script.verbs?_release (script : Script Action) (f : Frame) :
    (script.release f).stage.world.verbs? = f.stage.world.verbs? := by
  apply Script.release_of_releases (motive := fun s => s.world.verbs? = f.stage.world.verbs?)
  · intro g same
    exact g.verbs?_releaseDialog.trans same
  · rfl

/-- A script that has not been started holds nothing. -/
theorem Script.release_reset (script : Script Action) (f : Frame) : script.reset.release f = f := by
  rw [Script.reset_eq]
  rfl

/-- Letting go leaves the frame for the same verb and scope. -/
theorem Script.release_enter (script : Script Action) (s : Stage) :
    Frame.enter h (script.release (.enter h s)).stage = script.release (.enter h s) := by
  rcases script.release_givesUp (.enter h s) with ⟨_, runs, calm, _⟩
  have own : (script.release (.enter h s)).handle = h := runs.handle_eq
  have inScope : (script.release (.enter h s)).scope = h.owner := runs.scope_eq
  generalize script.release (.enter h s) = f at own inScope calm
  cases f
  simp_all [Frame.enter]

namespace Stage

/-- The stage on which a verb has let go of what it holds and is in its table as it was written. -/
def letGo (s : Stage) (h : Handle) : Stage :=
  (s.withVerb h fun script stage =>
    (script.reset, (), (script.release (.enter h stage)).stage)).2

/-- Run a verb of a table without announcing it. -/
def startHandle (perform : Performer) (s : Stage) (h : Handle) : Option RunState × Stage :=
  s.withVerb h fun script stage =>
    let (script, state, f) := script.start perform (.enter h stage)
    let (script, state, f) := f.settle script state
    (script, state, f.stage)

/-- What a verb lets go of leaves it in its table as it was written, and taking it out again leads
to where it has let go. -/
theorem lend_letGo {script : Script Action} (idle : h ∉ s.executing)
    (found : s.world.script? h = some script) :
    (s.letGo h).world.script? h = some script.reset ∧ (s.letGo h).executing = s.executing ∧
      (s.letGo h).lend h = (script.release (.enter h (s.lend h))).stage := by
  rcases script.release_givesUp (.enter h (s.lend h)) with ⟨_, runs, _⟩
  have lent : (script.release (.enter h (s.lend h))).stage.executing = h :: s.executing :=
    runs.course.executing_eq
  have sameVerbs := script.verbs?_release (.enter h (s.lend h))
  have isReleased : s.letGo h = ((script.release (.enter h (s.lend h))).stage.closing h
      script.reset).apply (script.release (.enter h (s.lend h))).stage := by
    unfold letGo
    rw [withVerb_eq idle found rfl lent]
  generalize (script.release (.enter h (s.lend h))).stage = after at lent sameVerbs isReleased
  have present := World.isSome_verbs?_of_script? (Option.isSome_of_eq_some found)
  have expects : after.Expects h := by
    constructor
    · rw [sameVerbs]
      simpa [lend, Frame.enter] using present
    · rw [World.script?_congr sameVerbs]
      exact (s.script?_lend h h).trans (if_pos rfl)
  rw [expects.closing_eq] at isReleased
  rw [isReleased]
  constructor
  · exact expects.script?_putBack script.reset
  · constructor
    · simp [Deed.apply, mapWorld, release, lent]
    · exact expects.lend_putBack lent script.reset

/-- A verb that is run is announced and then started. -/
theorem runHandle_eq_startHandle {script : Script Action} (perform : Performer)
    (idle : h ∉ s.executing) (found : s.world.script? h = some script) :
    s.runHandle perform h = (s.info s!">>> running verb {h.key.text}").startHandle perform h := by
  have sameExecuting : (s.info s!">>> running verb {h.key.text}").executing = s.executing := rfl
  unfold runHandle startHandle
  exact withVerb_congr idle sameExecuting found found rfl

/-- Starting a verb is starting it as it was written, once it has let go of what it holds. -/
theorem startHandle_letGo {script : Script Action} (perform : Performer)
    (idle : h ∉ s.executing) (found : s.world.script? h = some script) :
    s.startHandle perform h = (s.letGo h).startHandle perform h := by
  rcases lend_letGo idle found with ⟨foundAgain, sameExecuting, lentAgain⟩
  have sameStart : script.start perform (.enter h (s.lend h)) =
      script.reset.start perform (.enter h ((s.letGo h).lend h)) := by
    rw [lentAgain, script.release_enter]
    unfold Script.start
    rw [Script.reset_reset, script.release_reset]
  unfold startHandle
  apply withVerb_congr idle sameExecuting found foundAgain
  simp only [sameStart]

/-- Whatever has become of a verb, running it is announcing it, letting go of what it holds, and
starting its definition on the stage that is left. -/
structure RunsAfresh (s : Stage) (h : Handle) (definition : Script Action) : Prop where
  cleared : ((s.info s!">>> running verb {h.key.text}").letGo h).world.script? h = some definition
  started : ∀ depth, s.runHandle (Action.perform depth) h =
    ((s.info s!">>> running verb {h.key.text}").letGo h).startHandle (Action.perform depth) h

theorem runsAfresh {script : Script Action} (idle : h ∉ s.executing)
    (found : s.world.script? h = some script) : s.RunsAfresh h script.reset where
  cleared := (lend_letGo (s := s.info _) idle found).1
  started depth := by
    rw [runHandle_eq_startHandle _ idle found]
    exact startHandle_letGo (s := s.info _) _ idle found

end Stage

/-! ## Every run of moves -/

/-- Along a game that began with a built world each verb of a table is, apart from its progress, the
script with which it was built or which it was given last, no move changes what a verb was written
as without giving it a new definition, and a verb that is run, whatever has become of it, runs
afresh. -/
theorem Definition.runsAfresh_play {d : Definition} {w : World} (built : d.build = .ok w)
    (settings : Settings) (moves : List (Move × Nat)) :
    (∃ deeds, Stage.Course none (.ofWorld w settings) deeds
      ((Stage.ofWorld w settings).play moves) none) ∧
    (∀ deeds, Stage.Course none (.ofWorld w settings) deeds
        ((Stage.ofWorld w settings).play moves) none →
      ∀ h script, ((Stage.ofWorld w settings).play moves).world.script? h = some script →
        ∃ definition, (Stage.ofWorld w settings).Defines deeds h definition ∧
          script.reset = definition ∧
          ((Stage.ofWorld w settings).play moves).RunsAfresh h definition) ∧
    ∀ m depth deeds, Stage.Course none ((Stage.ofWorld w settings).play moves) deeds
        (((Stage.ofWorld w settings).play moves).move m depth) none →
      ∀ h script script', (∀ written, .install h written ∉ deeds) →
        ((Stage.ofWorld w settings).play moves).world.script? h = some script →
        (((Stage.ofWorld w settings).play moves).move m depth).world.script? h = some script' →
        script'.reset = script.reset := by
  have pristine : (Stage.ofWorld w settings).world.Each fun script => script.reset = script :=
    Definition.build_pristine built
  have idle : (Stage.ofWorld w settings).executing = [] := rfl
  generalize Stage.ofWorld w settings = s at pristine idle ⊢
  rcases s.play_course moves with ⟨played, course⟩
  have idleAfter : (s.play moves).executing = [] := course.executing_eq.trans idle
  constructor
  · exact ⟨played, course⟩
  constructor
  · intro deeds course h script found
    refine ⟨script.reset, course.defines idle pristine found, rfl, ?_⟩
    exact Stage.runsAfresh (by simp [idleAfter]) found
  · intro m depth deeds course h script script' kept found found'
    exact course.reset_eq idleAfter kept found found'

/-- The clerk's verb in the hall, while it waits in its dialog, runs afresh. -/
theorem World.hall_runsAfresh :
    Definition.hall.build = .ok World.hall ∧
    ((Stage.ofWorld .hall).play [(.interact "clerk" "talk" none, 2)]).world.script?
        ⟨.actor "hall" "clerk", "talk", none, none⟩ =
      some ⟨[.showDialog none "offer", .setState .owner (some "met")], some 0, true⟩ ∧
    ((Stage.ofWorld .hall).play [(.interact "clerk" "talk" none, 2)]).RunsAfresh
      ⟨.actor "hall" "clerk", "talk", none, none⟩
      (.ofActions [.showDialog none "offer", .setState .owner (some "met")]) := by
  have found : ((Stage.ofWorld .hall).play [(.interact "clerk" "talk" none, 2)]).world.script?
      ⟨.actor "hall" "clerk", "talk", none, none⟩ =
        some ⟨[.showDialog none "offer", .setState .owner (some "met")], some 0, true⟩ := rfl
  rcases Definition.runsAfresh_play World.hall_built .standard
    [(.interact "clerk" "talk" none, 2)] with ⟨⟨deeds, course⟩, defines, _⟩
  rcases defines deeds course _ _ found with ⟨definition, _, same, afresh⟩
  rw [← same] at afresh
  exact ⟨World.hall_built, found, afresh⟩

end Stagecraft
