import Stagecraft.Proofs.Rest

/-!
# Open dialogs and the verbs that wait on them

A verb that opens a dialog parks on it.  From then on the dialog is open until it is closed, and the
verb waits on it until it is forsaken: defined anew, dropped with its owner, or resumed although no
option has been chosen.  Nothing closes a dialog whose verb is forsaken.
-/

namespace Stagecraft

variable {driver : Option Handle} {s s' : Stage} {deed : Deed} {deeds : List Deed} {leaf : Leaf}
  {h : Handle}

/-! ## Deeds on dialogs -/

namespace Deed

/-- Whether a deed opens or closes a dialog. -/
def movesDialog : Deed → Bool
  | .openDialog _ | .closeDialog | .choose .. => true
  | _ => false

/-- Whether a deed takes a verb away from what it waits on, without cancelling it. -/
def Forsakes (h : Handle) : Deed → Prop
  | .install other _ | .supersede other | .drop other | .take other .resume => other = h
  | .remove scene actor => h.owner = .actor scene actor
  | _ => False

/-- A dialog is opened and closed by few deeds only. -/
theorem openDialog_apply (still : deed.movesDialog = false) (s : Stage) :
    (deed.apply s).world.openDialog = s.world.openDialog := by
  have inVerbs : ∀ (w : World) owner change,
      (w.modifyVerbs owner change).openDialog = w.openDialog := by
    intro w owner change
    cases owner <;> rfl
  have inPlayer : ∀ (w : World) change, (w.modifyPlayer change).openDialog = w.openDialog := by
    intro w change
    unfold World.modifyPlayer
    split <;> rfl
  cases deed with
  | setState owner state => cases owner <;> rfl
  | setProperty owner name value => cases owner <;> rfl
  | install g script => exact inVerbs s.world g.owner _
  | setPlayer actor => exact (inPlayer _ _).trans (inPlayer s.world _)
  | take g driving => exact inVerbs s.world g.owner _
  | putBack g script => exact inVerbs s.world g.owner _
  | openDialog | closeDialog | choose => cases still
  | _ => rfl

theorem openDialog_applyAll (still : ∀ deed ∈ deeds, deed.movesDialog = false) (s : Stage) :
    (applyAll deeds s).world.openDialog = s.world.openDialog := by
  induction deeds generalizing s with
  | nil => rfl
  | cons deed rest ih =>
    rw [applyAll_cons, ih fun deed member => still deed (List.mem_cons_of_mem _ member)]
    exact openDialog_apply (still deed (List.mem_cons_self ..)) s

/-- A dialog that is open after some deeds was open before, or has been opened by one of them, and
no later deed has opened or closed a dialog. -/
theorem openDialog_split {opened : OpenDialog}
    (isOpen : (applyAll deeds s).world.openDialog = some opened) :
    (s.world.openDialog = some opened ∧ ∀ deed ∈ deeds, deed.movesDialog = false) ∨
      ∃ before since, deeds = before ++ .openDialog opened :: since ∧
        ∀ deed ∈ since, deed.movesDialog = false := by
  induction deeds generalizing s with
  | nil => exact .inl ⟨isOpen, by simp⟩
  | cons deed rest ih =>
    rcases ih isOpen with ⟨afterDeed, still⟩ | ⟨before, since, rfl, still⟩
    · cases moves : deed.movesDialog with
      | false =>
        rw [openDialog_apply moves] at afterDeed
        refine .inl ⟨afterDeed, ?_⟩
        simpa [moves] using still
      | true =>
        cases deed with
        | openDialog other =>
          obtain rfl : other = opened := Option.some.inj afterDeed
          exact .inr ⟨[], rest, rfl, still⟩
        | closeDialog => cases afterDeed
        | choose => cases afterDeed
        | _ => cases moves
    · exact .inr ⟨deed :: before, since, rfl, still⟩

end Deed

/-- No dialog is opened or closed when a verb that has been driven comes back. -/
theorem Stage.openDialog_closing (s : Stage) (h : Handle) (script : Script Action) :
    ((s.closing h script).apply s).world.openDialog = s.world.openDialog := by
  apply Deed.openDialog_apply
  unfold closing
  split
  · split <;> rfl
  · rfl

/-! ## Verbs that wait -/

/-- Whether a verb is in its table and parked on an action that waits for a choice. -/
def Stage.Waits (s : Stage) (h : Handle) : Prop :=
  ∃ script, s.world.script? h = some script ∧ awaitsChoice (script.leaf? h.owner) = true

namespace Stage

/-- Whether a verb waits depends on its script alone. -/
theorem waits_congr (same : s'.world.script? h = s.world.script? h) : s'.Waits h ↔ s.Waits h := by
  unfold Waits
  rw [same]

theorem not_waits_of_none (absent : s.world.script? h = none) : ¬ s.Waits h := by
  rintro ⟨script, found, _⟩
  rw [absent] at found
  cases found

/-- A verb that has not been started does not wait. -/
theorem not_waits_of_reset {written : Script Action}
    (found : s.world.script? h = some written.reset) : ¬ s.Waits h := by
  rintro ⟨script, isFound, awaits⟩
  obtain rfl : written.reset = script := Option.some.inj (found.symm.trans isFound)
  rw [written.leaf?_reset] at awaits
  cases awaits

/-- A single deed leaves a waiting verb waiting unless it forsakes it, and makes no verb wait. -/
theorem waits_apply (allowed : deed.Allowed driver s) :
    (deed.apply s).Waits h ↔ s.Waits h ∧ ¬ deed.Forsakes h := by
  cases moves : deed.movesVerbs with
  | false =>
    rw [waits_congr (congrFun (Deed.script?_apply moves s) h)]
    have faithful : ¬ deed.Forsakes h := by
      cases deed with
      | install | remove | take => cases moves
      | supersede | drop => cases allowed
      | _ => exact id
    simp [faithful]
  | true =>
    cases deed with
    | install g script =>
      obtain ⟨_, present, written, rfl⟩ := allowed
      have isFound := World.script?_insert (h := g) present written.reset h
      by_cases same : h = g
      · rw [if_pos same] at isFound
        have forsaken : (Deed.install g written.reset).Forsakes h := same.symm
        simp only [forsaken, not_true, and_false, iff_false]
        exact not_waits_of_reset isFound
      · rw [if_neg same] at isFound
        have faithful : ¬ (Deed.install g written.reset).Forsakes h := fun eq => same eq.symm
        simp only [faithful, not_false_eq_true, and_true]
        exact waits_congr isFound
    | remove scene actor =>
      by_cases same : h.owner = .actor scene actor
      · have forsaken : (Deed.remove scene actor).Forsakes h := same
        simp only [forsaken, not_true, and_false, iff_false]
        refine not_waits_of_none ?_
        simp [Deed.apply, mapWorld, World.script?, World.verbs?_without, same]
      · have faithful : ¬ (Deed.remove scene actor).Forsakes h := same
        simp only [faithful, not_false_eq_true, and_true]
        refine waits_congr ?_
        simp [Deed.apply, mapWorld, World.script?, World.verbs?_without, same]
    | take | putBack => cases allowed
    | _ => cases moves

/-- A verb that is lent does not wait, and lending another changes nothing. -/
theorem waits_lend (s : Stage) (g h : Handle) : (s.lend g).Waits h ↔ h ≠ g ∧ s.Waits h := by
  have isFound := s.script?_lend g h
  by_cases same : h = g
  · rw [if_pos same] at isFound
    simp [same, not_waits_of_none (same ▸ isFound)]
  · rw [if_neg same] at isFound
    simp [same, waits_congr isFound]

/-- Whether another verb waits does not depend on the one that has been driven. -/
theorem waits_closing_of_ne {g : Handle} (other : h ≠ g) (s : Stage) (script : Script Action) :
    ((s.closing g script).apply s).Waits h ↔ s.Waits h := by
  refine waits_congr ?_
  rw [script?_closing, if_neg other]

/-- A verb that has been driven waits if it is parked so and comes back into its table. -/
theorem waits_closing (notYet : ¬ s.Waits h) (script : Script Action) :
    ((s.closing h script).apply s).Waits h ↔
      awaitsChoice (script.leaf? h.owner) = true ∧ ¬ (s.closing h script).Forsakes h := by
  have isFound := s.script?_closing h script h
  rw [if_pos rfl] at isFound
  unfold closing at isFound ⊢
  cases present : s.world.verbs? h.owner with
  | none =>
    rw [present] at isFound
    have forsaken : (Deed.drop h).Forsakes h := rfl
    simp only [forsaken, not_true, and_false, iff_false]
    exact not_waits_of_none isFound
  | some verbs =>
    rw [present] at isFound
    simp only [Option.bind_some] at isFound
    by_cases taken : verbs.contains h.key = true
    · obtain ⟨defined, inTable⟩ := Option.isSome_iff_exists.mp taken
      have inWorld := (World.script?_eq_some_iff _ h defined).mpr ⟨verbs, present, inTable⟩
      have forsaken : (Deed.supersede h).Forsakes h := rfl
      simp only [taken, if_true, forsaken, not_true, and_false, iff_false] at isFound ⊢
      rw [inTable, Option.some_or] at isFound
      exact fun waits => notYet ((waits_congr (isFound.trans inWorld.symm)).mp waits)
    · have absent : verbs.get? h.key = none := by simpa [Table.contains] using taken
      have faithful : ¬ (Deed.putBack h script).Forsakes h := id
      simp only [taken, Bool.false_eq_true, if_false, faithful, not_false_eq_true,
        and_true] at isFound ⊢
      rw [absent, Option.none_or] at isFound
      constructor
      · rintro ⟨found, isThere, awaits⟩
        obtain rfl : script = found := Option.some.inj (isFound.symm.trans isThere)
        exact awaits
      · exact fun awaits => ⟨script, isFound, awaits⟩

end Stage

/-! ## Along courses -/

namespace Stage.Course

/-- A verb parks on an action that waits for a choice only by opening a dialog. -/
theorem awaitsChoice_eq_false (course : Course driver s deeds s' leaf)
    (still : ∀ deed ∈ deeds, deed.movesDialog = false) : awaitsChoice leaf = false := by
  induction course with
  | ended => rfl
  | parked noChoice => exact noChoice
  | @shown h _ scene id _ dialog =>
    exact absurd (still (.openDialog ⟨h, scene, id, dialog⟩) (by simp)) (by simp [Deed.movesDialog])
  | deed _ _ ih => exact ih fun deed member => still deed (List.mem_cons_of_mem _ member)
  | drive _ _ _ _ _ _ _ _ _ ih =>
    refine ih fun deed member => still deed (List.mem_cons_of_mem _ ?_)
    exact List.mem_append_right _ (List.mem_cons_of_mem _ member)

/-- A verb that waits is forsaken if it is driven and no dialog is opened or closed: time passes by
it, taking up does not touch it, and running or cancelling it closes the dialog. -/
private theorem resume_of_waits {script script' : Script Action} {state : RunState} {f' : Frame}
    {driving : Driving} {depth : Nat} {opened : OpenDialog}
    (isOpen : s.world.openDialog = some opened)
    (found : s.world.script? opened.handle = some script) (waits : s.Waits opened.handle)
    (driven : driving.drive (Action.perform depth) script
      (.enter opened.handle (s.lend opened.handle)) = .ok (script', state, f'))
    (notAfter : awaitsChoice (script'.leaf? opened.handle.owner) = false)
    (closes : driving = .run ∨ driving = .cancel →
      awaitsChoice (script.leaf? opened.handle.owner) = true →
      ∀ other, s.world.openDialog = some other → other.handle = opened.handle →
        .closeDialog ∈ deeds)
    (still : ∀ deed ∈ deeds, deed.movesDialog = false) : driving = .resume := by
  obtain ⟨_, isFound, awaits⟩ := waits
  obtain rfl := Option.some.inj (found.symm.trans isFound)
  have parked : script.WaitsForChoice := ⟨_, awaits⟩
  have closed : .closeDialog ∉ deeds := fun member =>
    absurd (still _ member) (by simp [Deed.movesDialog])
  refine Classical.byContradiction fun notResume => ?_
  have notMinds : ¬ driving.Minds script := by
    intro minds
    rcases minds parked with rfl | rfl | rfl
    · exact closed (closes (.inl rfl) awaits opened isOpen rfl)
    · exact notResume rfl
    · exact closed (closes (.inr rfl) awaits opened isOpen rfl)
  rw [Driving.drive_of_not_minds _ notMinds rfl] at driven
  cases driven
  rw [awaits] at notAfter
  cases notAfter

/-- While a dialog is open, its verb goes on waiting until it is forsaken. -/
theorem waits_iff (course : Course driver s deeds s' leaf) {opened : OpenDialog}
    (isOpen : s.world.openDialog = some opened)
    (still : ∀ deed ∈ deeds, deed.movesDialog = false) :
    s'.Waits opened.handle ↔
      s.Waits opened.handle ∧ ∀ deed ∈ deeds, ¬ deed.Forsakes opened.handle := by
  induction course with
  | ended => simp
  | parked => simp
  | @shown h _ scene id _ dialog =>
    exact absurd (still (.openDialog ⟨h, scene, id, dialog⟩) (by simp)) (by simp [Deed.movesDialog])
  | @deed driver s deed more s' leaf allowed _ ih =>
    have stillDeed := still deed (List.mem_cons_self ..)
    have stillMore := fun deed member => still deed (List.mem_cons_of_mem _ member)
    rw [ih (by rwa [Deed.openDialog_apply stillDeed]) stillMore, Stage.waits_apply allowed]
    simp only [List.forall_mem_cons, and_assoc]
  | @drive driver s g script driving depth script' state f' deeds more s' leaf idle found driven
      inner closes rest ihInner ih =>
    simp only [List.forall_mem_cons, List.forall_mem_append] at still
    obtain ⟨_, stillInner, stillClosing, stillMore⟩ := still
    have openLent : (s.lend g).world.openDialog = some opened := by
      rwa [Stage.openDialog_lend]
    have openInner : f'.stage.world.openDialog = some opened := by
      rw [inner.eq_applyAll, Deed.openDialog_applyAll stillInner, openLent]
    have afterInner := ihInner openLent stillInner
    rw [ih (by rwa [Deed.openDialog_apply stillClosing]) stillMore]
    by_cases same : opened.handle = g
    · subst same
      have notLent : ¬ (s.lend opened.handle).Waits opened.handle := by
        rw [Stage.waits_lend]
        simp
      have notInner : ¬ f'.stage.Waits opened.handle := fun waits =>
        notLent (afterInner.mp waits).1
      have notAfter := inner.awaitsChoice_eq_false stillInner
      constructor
      · rintro ⟨waits, _⟩
        have awaits := ((Stage.waits_closing notInner script').mp waits).1
        rw [notAfter] at awaits
        cases awaits
      · rintro ⟨waits, faithful⟩
        obtain rfl := resume_of_waits isOpen found waits driven notAfter closes stillInner
        exact absurd rfl (faithful (.take opened.handle .resume) (List.mem_cons_self ..))
    · have notTaken : ¬ (Deed.take g driving).Forsakes opened.handle := by
        cases driving with
        | resume => exact fun eq => same eq.symm
        | _ => exact id
      have notClosed : ¬ (f'.stage.closing g script').Forsakes opened.handle := by
        unfold Stage.closing
        split
        · split
          · exact fun eq => same eq.symm
          · exact id
        · exact fun eq => same eq.symm
      rw [Stage.waits_closing_of_ne same, afterInner, Stage.waits_lend]
      simp only [List.forall_mem_cons, List.forall_mem_append, notTaken, notClosed,
        not_false_eq_true, true_and, ne_eq, same, and_assoc]

/-- Where a dialog has been opened on the way and nothing has been done to dialogs since, its verb is
the one that acts and is parked on it, or it is another one that waits unless it has been
forsaken. -/
private theorem waits_since_or (course : Course driver s deeds s' leaf) {opened : OpenDialog}
    {before since : List Deed} (split : deeds = before ++ .openDialog opened :: since)
    (still : ∀ deed ∈ since, deed.movesDialog = false) :
    (driver = some opened.handle ∧ awaitsChoice leaf = true ∧
      ∀ deed ∈ since, ¬ deed.Forsakes opened.handle) ∨
    opened.handle ∉ s.executing ∧
      (s'.Waits opened.handle ↔ ∀ deed ∈ since, ¬ deed.Forsakes opened.handle) := by
  induction course generalizing before since with
  | ended => simp at split
  | parked => simp at split
  | shown =>
    rcases before with _ | ⟨_, _ | ⟨_, _ | ⟨_, _ | ⟨_, _⟩⟩⟩⟩ <;> simp at split
    obtain ⟨rfl, rfl, rfl⟩ := split
    refine .inl ⟨rfl, rfl, ?_⟩
    intro deed member
    rw [List.mem_singleton.mp member]
    exact id
  | @deed _ _ first _ _ _ allowed _ ih =>
    cases before with
    | nil =>
      cases split
      cases allowed
    | cons _ before =>
      obtain ⟨rfl, later⟩ := List.cons.inj split
      rcases ih later still with ⟨own, parked⟩ | ⟨idle, waits⟩
      · exact .inl ⟨own, parked⟩
      · exact .inr ⟨by rwa [allowed.executing_eq] at idle, waits⟩
  | @drive driver s g script driving depth script' state f' inner more s' leaf idle found driven
      innerCourse closes rest ihInner ih =>
    have sameExecuting : ((f'.stage.closing g script').apply f'.stage).executing = s.executing := by
      rw [Stage.executing_closing, innerCourse.executing_eq]
      rfl
    have notOpening : f'.stage.closing g script' ≠ .openDialog opened := by
      unfold Stage.closing
      split
      · split <;> simp
      · simp
    cases before with
    | nil => cases split
    | cons _ before =>
      obtain ⟨rfl, later⟩ := List.cons.inj split
      rcases List.append_eq_append_iff.mp later with ⟨between, rfl, after⟩ | ⟨between, rfl, after⟩
      · -- The dialog is opened after the verb has been driven.
        cases between with
        | nil => exact absurd (List.cons.inj after).1 notOpening
        | cons _ between =>
          rcases ih (List.cons.inj after).2 still with ⟨own, parked⟩ | ⟨notDriven, waits⟩
          · exact .inl ⟨own, parked⟩
          · exact .inr ⟨by rwa [sameExecuting] at notDriven, waits⟩
      · -- The dialog is opened while the verb is driven.
        cases between with
        | nil => exact absurd (List.cons.inj after).1.symm notOpening
        | cons _ between =>
          obtain ⟨rfl, same⟩ := List.cons.inj after
          obtain rfl : since = between ++ f'.stage.closing g script' :: more := same
          simp only [List.forall_mem_append, List.forall_mem_cons] at still
          obtain ⟨stillInner, stillClosing, stillMore⟩ := still
          have openInner : f'.stage.world.openDialog = some opened := by
            rw [innerCourse.eq_applyAll, Deed.applyAll_append, Deed.applyAll_cons,
              Deed.openDialog_applyAll stillInner]
            rfl
          have goesOn := rest.waits_iff
            (by rwa [Deed.openDialog_apply stillClosing]) stillMore
          simp only [List.forall_mem_append, List.forall_mem_cons]
          rcases ihInner rfl stillInner with ⟨own, parked, kept⟩ | ⟨notDriven, waits⟩
          · obtain rfl := Option.some.inj own
            have notYet : ¬ f'.stage.Waits opened.handle := by
              rintro ⟨defined, isThere, awaits⟩
              obtain ⟨_, written, rfl⟩ := innerCourse.script?_lent isThere
              exact Stage.not_waits_of_reset isThere ⟨_, isThere, awaits⟩
            rw [Stage.waits_closing notYet] at goesOn
            refine .inr ⟨idle, goesOn.trans ?_⟩
            simp only [parked, true_and]
            exact ⟨fun later => ⟨kept, later⟩, fun all => all.2⟩
          · have lent : (s.lend g).executing = g :: s.executing := rfl
            rw [lent, List.mem_cons, not_or] at notDriven
            obtain ⟨other, notExecuting⟩ := notDriven
            have faithful : ¬ (f'.stage.closing g script').Forsakes opened.handle := by
              unfold Stage.closing
              split
              · split
                · exact fun eq => other eq.symm
                · exact id
              · exact fun eq => other eq.symm
            rw [Stage.waits_closing_of_ne other, waits] at goesOn
            refine .inr ⟨notExecuting, goesOn.trans ?_⟩
            simp [faithful]

/-- Where a dialog has been opened on the way and nothing has been done to dialogs since, its verb
waits exactly if it has not been forsaken since. -/
theorem waits_since (course : Course none s deeds s' leaf) {opened : OpenDialog}
    {before since : List Deed} (split : deeds = before ++ .openDialog opened :: since)
    (still : ∀ deed ∈ since, deed.movesDialog = false) :
    s'.Waits opened.handle ↔ ∀ deed ∈ since, ¬ deed.Forsakes opened.handle := by
  rcases course.waits_since_or split still with ⟨own, _⟩ | ⟨_, waits⟩
  · cases own
  · exact waits

end Stage.Course

/-! ## Every run of moves -/

namespace Stage

/-- The verbs of a world are in order if they are sound and the verb of the open dialog waits. -/
theorem SoundBut.verbError?_eq_none_iff {between : Handle → Prop} (sound : s.SoundBut between)
    {opened : OpenDialog} (isOpen : s.world.openDialog = some opened) :
    s.world.verbError? = none ↔ s.Waits opened.handle := by
  have inOrder : s.world.handles.findSome? (fun h => (s.world.script? h).bind fun script =>
      script.corruption?.map (VerbError.corrupt h.key.text)) = none := by
    refine List.findSome?_eq_none_iff.mpr fun h _ => ?_
    cases found : s.world.script? h with
    | none => rfl
    | some script => simp [(sound h script found).1]
  simp only [World.verbError?, inOrder, Option.none_or, isOpen, Option.bind_some, World.leaf?]
  unfold Waits
  cases found : s.world.script? opened.handle with
  | none => simp
  | some script =>
    simp only [Option.bind_some, Option.some.injEq]
    constructor
    · intro notWrong
      refine ⟨script, rfl, ?_⟩
      split at notWrong
      · next parked => rw [parked]; rfl
      · cases notWrong
    · rintro ⟨_, rfl, awaits⟩
      unfold awaitsChoice at awaits
      split at awaits
      · next parked => simp [parked]
      · cases awaits

/-- A dialog on which its verb waits is closed when the verb is cancelled. -/
theorem openDialog_cancelVerb {opened : OpenDialog} (idle : opened.handle ∉ s.executing)
    (isOpen : s.world.openDialog = some opened) (waits : s.Waits opened.handle) :
    (s.cancelVerb opened.handle).1 = true ∧
      (s.cancelVerb opened.handle).2.world.openDialog = none := by
  obtain ⟨script, found, awaits⟩ := waits
  rcases cancelled : (Frame.enter opened.handle (s.lend opened.handle)).cancelVerb script with
    ⟨script', f'⟩
  obtain ⟨deeds, runs, opensNone, closes, _⟩ := Frame.cancelVerb_runs cancelled
  have lentOpen : (s.lend opened.handle).world.openDialog = some opened := by
    rwa [openDialog_lend]
  have closed := closes ⟨_, awaits⟩ opened lentOpen rfl
  have noneOpen : f'.stage.world.openDialog = none := by
    rw [Option.eq_none_iff_forall_ne_some]
    intro other isOther
    rw [runs.course.eq_applyAll] at isOther
    rcases Deed.openDialog_split isOther with ⟨_, still⟩ | ⟨before, since, rfl, _⟩
    · exact absurd (still _ closed) (by simp [Deed.movesDialog])
    · exact opensNone other (by simp)
  unfold cancelVerb
  rw [withVerb_eq idle found (by simp only [cancelled]; rfl) runs.course.executing_eq]
  refine ⟨rfl, ?_⟩
  exact (openDialog_closing f'.stage opened.handle script').trans noneOpen

end Stage

/-- Whenever a dialog is open between the moves of a game that began with a built world, some deed
has opened it and none has closed it since.  Its verb then waits on it, and nothing is wrong with
the verbs of the world, exactly if the verb has not been forsaken since; and then the dialog can be
closed. -/
theorem Definition.waits_play {d : Definition} {w : World} (built : d.build = .ok w)
    (settings : Settings) (moves : List (Move × Nat)) :
    (∃ deeds, Stage.Course none (.ofWorld w settings) deeds
      ((Stage.ofWorld w settings).play moves) none) ∧
    ∀ deeds, Stage.Course none (.ofWorld w settings) deeds
        ((Stage.ofWorld w settings).play moves) none →
      ∀ opened, ((Stage.ofWorld w settings).play moves).world.openDialog = some opened →
        ∃ before since, deeds = before ++ .openDialog opened :: since ∧
          (∀ deed ∈ since, deed.movesDialog = false) ∧
          (((Stage.ofWorld w settings).play moves).Waits opened.handle ↔
            ∀ deed ∈ since, ¬ deed.Forsakes opened.handle) ∧
          (((Stage.ofWorld w settings).play moves).world.verbError? = none ↔
            ∀ deed ∈ since, ¬ deed.Forsakes opened.handle) ∧
          ((∀ deed ∈ since, ¬ deed.Forsakes opened.handle) →
            (((Stage.ofWorld w settings).play moves).cancelVerb opened.handle).1 = true ∧
            (((Stage.ofWorld w settings).play moves).cancelVerb
              opened.handle).2.world.openDialog = none) := by
  have begins := (Stage.Opening.built settings built).soundBut
  have closedAtFirst : (Stage.ofWorld w settings).world.openDialog = none :=
    Definition.openDialog_build built
  generalize Stage.ofWorld w settings = s at begins closedAtFirst ⊢
  obtain ⟨idle, sound⟩ := begins
  refine ⟨s.play_course moves, fun deeds course opened isOpen => ?_⟩
  generalize s.play moves = reached at course isOpen ⊢
  have isApplied := isOpen
  rw [course.eq_applyAll] at isApplied
  rcases Deed.openDialog_split isApplied with ⟨before, _⟩ | ⟨before, since, split, still⟩
  · rw [closedAtFirst] at before
    cases before
  · have waits := course.waits_since split still
    refine ⟨before, since, split, still, waits, ?_, fun faithful => ?_⟩
    · rw [(course.soundBut sound).verbError?_eq_none_iff isOpen, waits]
    · have notDriven : opened.handle ∉ reached.executing := by
        simp [course.executing_eq, idle]
      exact Stage.openDialog_cancelVerb notDriven isOpen (waits.mpr faithful)

/-- In the hall the clerk's verb is forsaken when the option that talks to the clerk again is chosen:
the dialog is open and nobody waits on it. -/
theorem World.hall_forsaken :
    ∃ deeds opened, Stage.Course none (.ofWorld .hall) deeds
      ((Stage.ofWorld .hall).play [(.interact "clerk" "talk" none, 2), (.chooseOption 0, 2)]) none ∧
      ((Stage.ofWorld .hall).play [(.interact "clerk" "talk" none, 2),
        (.chooseOption 0, 2)]).world.openDialog = some opened ∧
      ∃ deed ∈ deeds, deed.Forsakes opened.handle := by
  obtain ⟨⟨deeds, course⟩, all⟩ := Definition.waits_play World.hall_built .standard
    [(.interact "clerk" "talk" none, 2), (.chooseOption 0, 2)]
  have isOpen : ((Stage.ofWorld .hall).play [(.interact "clerk" "talk" none, 2),
      (.chooseOption 0, 2)]).world.openDialog =
        some ⟨⟨.actor "hall" "clerk", "talk", none, none⟩, "hall", "clerk", "offer"⟩ := by
    decide +kernel
  have wrong : ((Stage.ofWorld .hall).play [(.interact "clerk" "talk" none, 2),
      (.chooseOption 0, 2)]).world.verbError? ≠ none := by
    decide +kernel
  obtain ⟨before, since, split, _, _, inOrder, _⟩ := all deeds course _ isOpen
  refine ⟨deeds, _, course, isOpen, ?_⟩
  apply Classical.byContradiction
  intro faithful
  refine wrong (inOrder.mpr fun deed member forsakes => faithful ⟨deed, ?_, forsakes⟩)
  rw [split]
  exact List.mem_append_right _ (List.mem_cons_of_mem _ member)

end Stagecraft
