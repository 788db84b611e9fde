import Stagecraft.Proofs.Driving

/-!
# Courses

A course tells how one stage becomes another: deed by deed, with the verbs that are driven on the
way, each of which has a course of its own while it is out of its table.  It ends where the one who
acts is done, or with the action on which a driven verb is parked.
-/

namespace Stagecraft

/-- The innermost action on which something is parked, with the owner it runs for. -/
abbrev Leaf := Option (Action × Owner)

/-- Whether something is parked on an action that waits for the player's choice in a dialog. -/
def awaitsChoice : Leaf → Bool
  | some (.showDialog .., _) => true
  | _ => false

/-- A course from one stage to another with its deeds.  The one who acts is a verb that is driven,
or else the front end, and the course ends with the action on which that verb is parked, if it
is.  A verb parks on an action that waits for a choice only by opening the dialog. -/
inductive Stage.Course : Option Handle → Stage → List Deed → Stage → Leaf → Prop
  | ended {driver s} : Course driver s [] s none
  | parked {driver s leaf} (noChoice : awaitsChoice leaf = false) : Course driver s [] s leaf
  | shown {h s} (scene id : String) (actor : Option String) (dialog : String) (owner : Owner)
      (text : String) (event : Event)
      (free : ∀ other, s.world.openDialog = some other → other.handle = h) :
      Course (some h) s
        [.note .info text, .openDialog ⟨h, scene, id, dialog⟩, .emit event]
        (Deed.applyAll [.note .info text, .openDialog ⟨h, scene, id, dialog⟩, .emit event] s)
        (some (.showDialog actor dialog, owner))
  | deed {driver s deed more s' leaf} (allowed : deed.Allowed driver s)
      (rest : Course driver (deed.apply s) more s' leaf) : Course driver s (deed :: more) s' leaf
  /-- A verb is driven.  One that waits for a choice and is run anew or cancelled closes its dialog
  if that is open. -/
  | drive {driver s h script} (driving : Driving) (depth : Nat) {script' state f' deeds more s' leaf}
      (idle : h ∉ s.executing) (found : s.world.script? h = some script)
      (driven : driving.drive (Action.perform depth) script (.enter h (s.lend h)) =
        .ok (script', state, f'))
      (inner : Course (some h) (s.lend h) deeds f'.stage (script'.leaf? h.owner))
      (closes : driving = .run ∨ driving = .cancel → awaitsChoice (script.leaf? h.owner) = true →
        ∀ opened, s.world.openDialog = some opened → opened.handle = h → .closeDialog ∈ deeds)
      (rest : Course driver ((f'.stage.closing h script').apply f'.stage) more s' leaf) :
      Course driver s (.take h driving :: (deeds ++ f'.stage.closing h script' :: more)) s' leaf

namespace Stage.Course

variable {driver : Option Handle} {s s' s'' : Stage} {deeds more : List Deed} {leaf : Leaf}

/-- A course goes on where another is over. -/
theorem append (first : Course driver s deeds s' none) (second : Course driver s' more s'' leaf) :
    Course driver s (deeds ++ more) s'' leaf := by
  generalize ended : (none : Leaf) = endLeaf at first
  induction first with
  | ended => exact second
  | parked => exact second
  | shown => cases ended
  | deed allowed _ ih => exact .deed allowed (ih second ended)
  | drive driving depth idle found driven inner closes _ _ ih =>
    rw [List.cons_append, List.append_assoc]
    exact .drive driving depth idle found driven inner closes (ih second ended)

/-- Deeds that may be done by themselves are a course. -/
theorem ofDeeds (allowed : Deed.AllAllowed driver s deeds) :
    Course driver s deeds (Deed.applyAll deeds s) none := by
  induction deeds generalizing s with
  | nil => exact .ended
  | cons deed rest ih => exact .deed allowed.1 (ih allowed.2)

/-- A course leads where its deeds lead. -/
theorem eq_applyAll (course : Course driver s deeds s' leaf) : s' = Deed.applyAll deeds s := by
  induction course with
  | ended => rfl
  | parked => rfl
  | shown => rfl
  | deed _ _ ih => exact ih
  | drive driving depth _ _ _ _ _ _ ihInner ih =>
    rw [ih, Deed.applyAll_cons, Deed.applyAll_append, Deed.applyAll_cons]
    congr 2

end Stage.Course

/-- A deed that may be done by itself leaves the verbs that are driven alone. -/
theorem Deed.Allowed.executing_eq {driver : Option Handle} {s : Stage} {deed : Deed}
    (allowed : deed.Allowed driver s) : (deed.apply s).executing = s.executing := by
  cases deed <;> first | rfl | cases allowed

/-- Closing takes the verb that was driven last off the verbs that are driven. -/
theorem Stage.executing_closing (s : Stage) (h : Handle) (script : Script Action) :
    ((s.closing h script).apply s).executing = s.executing.tail := by
  unfold Stage.closing
  split
  · split <;> rfl
  · rfl

/-- A course leaves the verbs that are driven as they were. -/
theorem Stage.Course.executing_eq {driver : Option Handle} {s s' : Stage} {deeds : List Deed}
    {leaf : Leaf} (course : Course driver s deeds s' leaf) : s'.executing = s.executing := by
  induction course with
  | ended => rfl
  | parked => rfl
  | shown => rfl
  | deed allowed _ ih => rw [ih, allowed.executing_eq]
  | drive driving depth _ _ _ _ _ _ ihInner ih =>
    rw [ih, Stage.executing_closing, ihInner]
    rfl

/-! ## Lending verbs -/

namespace Stage

/-- A verb that is in its table and not driven is handed out, and what comes back is put into the
table, if its owner is still there. -/
theorem withVerb_of_found {α : Type} {s : Stage} {h : Handle} {script : Script Action}
    (idle : h ∉ s.executing) (found : s.world.script? h = some script)
    (body : Script Action → Stage → Script Action × α × Stage) :
    s.withVerb h body =
      let (script', answer, after) := body script (s.lend h)
      let after := { after with executing := s.executing }
      match after.world.verbs? h.owner with
      | some _ =>
        (some answer, after.mapWorld (·.modifyVerbs h.owner (·.restore h.key script')))
      | none => (some answer, after.warn s!"owner of verb {h.text} is gone; verb dropped") := by
  unfold withVerb
  rw [if_neg idle]
  simp only [found]
  rfl

/-- A verb can be handed to one body or to another, if both do the same. -/
theorem withVerb_congr {α : Type} {s t : Stage} {h : Handle} {script again : Script Action}
    {first second : Script Action → Stage → Script Action × α × Stage}
    (idle : h ∉ s.executing) (sameExecuting : t.executing = s.executing)
    (found : s.world.script? h = some script) (foundAgain : t.world.script? h = some again)
    (same : first script (s.lend h) = second again (t.lend h)) :
    s.withVerb h first = t.withVerb h second := by
  have idleAgain : h ∉ t.executing := by rwa [sameExecuting]
  rw [withVerb_of_found idle found, withVerb_of_found idleAgain foundAgain, same, sameExecuting]

/-- A verb that is in its table and not driven is driven out of its table, and then closed. -/
theorem withVerb_eq {α : Type} {s after : Stage} {h : Handle} {script script' : Script Action}
    {body : Script Action → Stage → Script Action × α × Stage} {answer : α}
    (idle : h ∉ s.executing) (found : s.world.script? h = some script)
    (done : body script (s.lend h) = (script', answer, after))
    (lent : after.executing = h :: s.executing) :
    s.withVerb h body = (some answer, (after.closing h script').apply after) := by
  have isReleased : { after with executing := s.executing } = after.release := by
    simp [release, lent]
  rw [withVerb_of_found idle found]
  simp only [done, isReleased]
  unfold closing
  have sameWorld : after.release.world = after.world := rfl
  cases present : after.world.verbs? h.owner with
  | none => rfl
  | some verbs =>
    simp only
    by_cases taken : verbs.contains h.key = true
    · have still : after.world.modifyVerbs h.owner (·.restore h.key script') = after.world := by
        refine World.modifyVerbs_eq_self fun table here => ?_
        rw [present] at here
        cases here
        simp [VerbTable.restore, taken]
      simp only [taken, if_true, Deed.apply, mapWorld, sameWorld, still]
      rfl
    · have inserted : after.world.modifyVerbs h.owner (·.restore h.key script') =
          after.world.modifyVerbs h.owner (·.insert h.key script') := by
        refine World.modifyVerbs_congr fun table here => ?_
        rw [present] at here
        cases here
        simp [VerbTable.restore, taken]
      simp only [taken, Bool.false_eq_true, if_false, Deed.apply, mapWorld, sameWorld, inserted]

/-- A verb that is driven with nothing done but to its script comes back as if it had been put into
its table. -/
theorem closing_lend_eq {s : Stage} {h : Handle} {script : Script Action}
    (found : s.world.script? h = some script) (script' : Script Action) :
    ((s.lend h).closing h script').apply (s.lend h) = (Deed.install h script').apply s := by
  obtain ⟨verbs, present, _⟩ := (s.world.script?_eq_some_iff h script).mp found
  have lentVerbs : (s.lend h).world.verbs? h.owner = some (verbs.erase h.key) := by
    simp [lend, World.verbs?_modifyVerbs, present]
  have comesBack : (s.lend h).closing h script' = .putBack h script' := by
    simp [closing, lentVerbs, Table.contains_erase_self]
  have sameWorld : (s.lend h).world.modifyVerbs h.owner (·.insert h.key script') =
      s.world.modifyVerbs h.owner (·.insert h.key script') := by
    simp only [lend, World.modifyVerbs_modifyVerbs]
    exact World.modifyVerbs_congr fun table _ => Table.insert_erase_self ..
  rw [comesBack]
  simp only [Deed.apply, mapWorld, release]
  simp only [sameWorld]
  rfl

/-- To put a verb into its table that is there changes nothing. -/
theorem install_self {s : Stage} {h : Handle} {script : Script Action}
    (found : s.world.script? h = some script) : (Deed.install h script).apply s = s := by
  obtain ⟨verbs, present, inTable⟩ := (s.world.script?_eq_some_iff h script).mp found
  have sameWorld : s.world.modifyVerbs h.owner (·.insert h.key script) = s.world := by
    refine World.modifyVerbs_eq_self fun table here => ?_
    obtain rfl : verbs = table := Option.some.inj (present.symm.trans here)
    exact (Table.insert_erase_self ..).symm.trans (Table.insert_erase inTable)
  simp only [Deed.apply, mapWorld, sameWorld]

/-- A verb that comes back as it was taken leaves the stage as it was. -/
theorem closing_lend {s : Stage} {h : Handle} {script : Script Action}
    (found : s.world.script? h = some script) :
    ((s.lend h).closing h script).apply (s.lend h) = s :=
  (closing_lend_eq found script).trans (install_self found)

/-- A verb that comes back as it was taken, with nothing done, has not been taken. -/
theorem withVerb_of_unchanged {α : Type} {s : Stage} {h : Handle} {script : Script Action}
    {body : Script Action → Stage → Script Action × α × Stage} {answer : α}
    (idle : h ∉ s.executing) (found : s.world.script? h = some script)
    (done : body script (s.lend h) = (script, answer, s.lend h)) :
    s.withVerb h body = (some answer, s) := by
  rw [withVerb_eq idle found done rfl, closing_lend found]

end Stage

end Stagecraft
