import Stagecraft.Proofs.Upkeep
import Stagecraft.Proofs.Rest

/-!
# Tables of verbs

A verb that is driven is out of its table, and while it is away its table may change, and its owner
may go.  Here a course is followed deed by deed: no verb is lost as long as its owner exists, none
appears that has not been installed, none is driven twice at a time, and of several definitions of
one verb the last stays.
-/

namespace Stagecraft

variable {driver : Option Handle} {s s' : Stage} {deed : Deed} {deeds : List Deed} {leaf : Leaf}
  {g h : Handle}

/-! ## Installing -/

namespace Deed

/-- The definition that a deed gives to a handle. -/
def definition? (h : Handle) : Deed → Option (Script Action)
  | .install g script => if g = h then some script else none
  | _ => none

/-- The definitions that deeds give to a handle, one after the other. -/
def definitions (h : Handle) (deeds : List Deed) : List (Script Action) :=
  deeds.filterMap (·.definition? h)

theorem definition?_eq_some_iff {script : Script Action} :
    deed.definition? h = some script ↔ deed = .install h script := by
  cases deed <;> simp [definition?]

theorem mem_definitions {script : Script Action} :
    script ∈ definitions h deeds ↔ .install h script ∈ deeds := by
  simp [definitions, List.mem_filterMap, definition?_eq_some_iff]

@[simp] theorem definitions_nil : definitions h [] = [] := rfl

@[simp] theorem definitions_append (first second : List Deed) :
    definitions h (first ++ second) = definitions h first ++ definitions h second :=
  List.filterMap_append

theorem definitions_cons (deed : Deed) (rest : List Deed) :
    definitions h (deed :: rest) = (deed.definition? h).toList ++ definitions h rest := by
  unfold definitions
  cases defined : deed.definition? h <;> simp [defined]

@[simp] theorem definition?_take (g : Handle) (driving : Driving) :
    (Deed.take g driving).definition? h = none := rfl

/-- Closing gives no handle a definition. -/
@[simp] theorem definition?_closing (s : Stage) (g : Handle) (script : Script Action) :
    (s.closing g script).definition? h = none := by
  unfold Stage.closing
  split
  · split <;> rfl
  · rfl

/-- The last definition that a handle has got, the first deed or a later one giving it. -/
theorem getLast?_definitions_cons (deed : Deed) (rest : List Deed)
    (earlier : Option (Script Action)) :
    (definitions h (deed :: rest)).getLast?.or earlier =
      (definitions h rest).getLast?.or ((deed.definition? h).or earlier) := by
  rw [definitions_cons, List.getLast?_append, Option.or_assoc]
  cases deed.definition? h <;> rfl

/-- After a deed that may be done by itself the verb of a handle is the one installed, or else the
same as before. -/
theorem Allowed.script?_apply_eq (allowed : deed.Allowed driver s)
    (present : ((deed.apply s).world.verbs? h.owner).isSome) :
    (deed.apply s).world.script? h = (deed.definition? h).or (s.world.script? h) := by
  cases still : deed.movesVerbs with
  | false =>
    have noInstall : deed.definition? h = none := by
      cases deed with
      | install => cases still
      | _ => rfl
    rw [Deed.script?_apply still, noInstall, Option.none_or]
  | true =>
    cases deed with
    | install g script =>
      simp only [apply, Stage.mapWorld, World.script?_insert allowed.2.1, definition?]
      by_cases same : h = g
      · simp [same]
      · simp [same, Ne.symm same]
    | remove scene actor =>
      simp only [apply, Stage.mapWorld, World.verbs?_without] at present
      simp only [apply, Stage.mapWorld, World.script?, World.verbs?_without, definition?,
        Option.none_or]
      split
      · next gone =>
        rw [if_pos gone] at present
        cases present
      · rfl
    | take | putBack => cases allowed
    | _ => cases still

end Deed

namespace Stage.Course

/-- A course brings no owner into being. -/
theorem isSome_verbs? (course : Course driver s deeds s' leaf) {owner : Owner}
    (present : (s'.world.verbs? owner).isSome) : (s.world.verbs? owner).isSome := by
  induction course with
  | ended => exact present
  | parked => exact present
  | shown => exact present
  | deed allowed _ ih => exact allowed.isSome_verbs? (ih present)
  | drive _ _ _ _ _ _ _ _ ihInner ih =>
    have atEnd := ih present
    rw [isSome_verbs?_closing] at atEnd
    have lent := ihInner atEnd
    rwa [lend, World.isSome_verbs?_modifyVerbs] at lent

/-- While a verb is driven its handle has the last definition it has got. -/
theorem script?_of_mem_executing (course : Course driver s deeds s' leaf)
    (executing : h ∈ s.executing) (present : (s'.world.verbs? h.owner).isSome) :
    s'.world.script? h = (Deed.definitions h deeds).getLast?.or (s.world.script? h) := by
  induction course with
  | ended => rfl
  | parked => rfl
  | shown => rfl
  | deed allowed rest ih =>
    rw [ih (by rwa [allowed.executing_eq]) present,
      allowed.script?_apply_eq (rest.isSome_verbs? present), Deed.getLast?_definitions_cons]
  | @drive driver s g script driving depth script' state f' deeds more s' leaf idle found _ inner _
      rest ihInner ih =>
    have other : h ≠ g := fun same => idle (same ▸ executing)
    have atEnd := rest.isSome_verbs? present
    rw [isSome_verbs?_closing] at atEnd
    have stillExecuting : h ∈ ((f'.stage.closing g script').apply f'.stage).executing := by
      rw [executing_closing, inner.executing_eq]
      exact executing
    rw [ih stillExecuting present, script?_closing, if_neg other,
      ihInner (List.mem_cons_of_mem _ executing) atEnd, script?_lend, if_neg other,
      Deed.getLast?_definitions_cons, Deed.definition?_take, Option.none_or,
      Deed.definitions_append, List.getLast?_append, Deed.definitions_cons,
      Deed.definition?_closing, Option.toList_none, List.nil_append, Option.or_assoc]

/-- Between courses a handle has the last definition it has got, with any progress. -/
theorem reset_script? (course : Course driver s deeds s' leaf) (idle : h ∉ s.executing)
    (present : (s'.world.verbs? h.owner).isSome) :
    (s'.world.script? h).map Script.reset =
      ((Deed.definitions h deeds).getLast?.or (s.world.script? h)).map Script.reset := by
  induction course with
  | ended => rfl
  | parked => rfl
  | shown => rfl
  | deed allowed rest ih =>
    rw [ih (by rwa [allowed.executing_eq]) present,
      allowed.script?_apply_eq (rest.isSome_verbs? present), Deed.getLast?_definitions_cons]
  | @drive driver s g script driving depth script' state f' deeds more s' leaf _ found driven
      inner _ rest ihInner ih =>
    have atEnd := rest.isSome_verbs? present
    rw [isSome_verbs?_closing] at atEnd
    have stillIdle : h ∉ ((f'.stage.closing g script').apply f'.stage).executing := by
      rw [executing_closing, inner.executing_eq]
      exact idle
    have later := ih stillIdle present
    rw [Deed.getLast?_definitions_cons, Deed.definition?_take, Option.none_or,
      Deed.definitions_append, List.getLast?_append, Deed.definitions_cons,
      Deed.definition?_closing, Option.toList_none, List.nil_append, Option.or_assoc, later]
    by_cases same : h = g
    · subst same
      have away := inner.script?_of_mem_executing (List.mem_cons_self ..) atEnd
      rw [script?_lend, if_pos rfl, Option.or_none] at away
      rw [script?_closing_self script' atEnd, away, found]
      simp only [Option.map_or, Option.map_some, Driving.reset_drive driven]
    · rw [script?_closing, if_neg same]
      have inside := ihInner (by simpa [lend, same] using idle) atEnd
      rw [script?_lend, if_neg same] at inside
      rw [Option.map_or, inside, ← Option.map_or]

end Stage.Course

/-! ## Deed by deed -/

namespace Deed

/-- The ways in which a single deed comes about on a stage: it may be done by itself, it opens a
dialog, it takes a verb out of its table, or it closes the verb that was taken last. -/
inductive Possible (s : Stage) (deed : Deed) : Prop
  | single {driver : Option Handle} (allowed : deed.Allowed driver s)
  | opens {opened : OpenDialog} (isOpening : deed = .openDialog opened)
  | takes {h : Handle} {driving : Driving} {script : Script Action}
      (isTaking : deed = .take h driving) (idle : h ∉ s.executing)
      (found : s.world.script? h = some script)
  | closes {h : Handle} {others : List Handle} {script : Script Action}
      (isClosing : deed = s.closing h script) (last : s.executing = h :: others)

/-- Whether deeds come about one after the other. -/
def AllPossible : Stage → List Deed → Prop
  | _, [] => True
  | s, deed :: rest => deed.Possible s ∧ AllPossible (deed.apply s) rest

theorem allPossible_append {first second : List Deed} :
    AllPossible s (first ++ second) ↔
      AllPossible s first ∧ AllPossible (applyAll first s) second := by
  induction first generalizing s with
  | nil => simp [AllPossible]
  | cons deed rest ih => simp [AllPossible, ih, and_assoc]

end Deed

/-- The deeds of a course come about one after the other. -/
theorem Stage.Course.allPossible (course : Course driver s deeds s' leaf) :
    Deed.AllPossible s deeds := by
  induction course with
  | ended => trivial
  | parked => trivial
  | @shown h s scene id actor dialog owner text event free =>
    have noted : ∀ s, (Deed.note .info text).Possible s :=
      fun s => .single (show Deed.Allowed none s _ from trivial)
    have emitted : ∀ s, (Deed.emit event).Possible s :=
      fun s => .single (show Deed.Allowed none s _ from trivial)
    exact ⟨noted s, .opens rfl, emitted _, trivial⟩
  | deed allowed _ ih => exact ⟨.single allowed, ih⟩
  | @drive driver s g script driving depth script' state f' deeds more s' leaf idle found _ inner
      _ _ ihInner ih =>
    constructor
    · exact .takes rfl idle found
    · rw [Deed.allPossible_append]
      constructor
      · exact ihInner
      · have atEnd : f'.stage = Deed.applyAll deeds (s.lend g) := inner.eq_applyAll
        have last : f'.stage.executing = g :: s.executing := inner.executing_eq
        rw [atEnd] at ih last ⊢
        exact ⟨.closes rfl last, ih⟩

/-- Whether a verb is in its table or is driven. -/
def Stage.Knows (s : Stage) (h : Handle) : Prop := (s.world.script? h).isSome ∨ h ∈ s.executing

namespace Deed.Possible

/-- No deed brings an owner into being. -/
theorem isSome_verbs? (possible : deed.Possible s) {owner : Owner}
    (present : ((deed.apply s).world.verbs? owner).isSome) : (s.world.verbs? owner).isSome := by
  cases possible with
  | single allowed => exact allowed.isSome_verbs? present
  | opens isOpening =>
    subst isOpening
    exact present
  | takes isTaking =>
    subst isTaking
    rwa [apply, Stage.lend, World.isSome_verbs?_modifyVerbs] at present
  | closes isClosing =>
    subst isClosing
    rwa [Stage.isSome_verbs?_closing] at present

/-- No deed makes a verb be driven twice at a time. -/
theorem nodup_executing (possible : deed.Possible s) (distinct : s.executing.Nodup) :
    (deed.apply s).executing.Nodup := by
  cases possible with
  | single allowed => rwa [allowed.executing_eq]
  | opens isOpening =>
    subst isOpening
    exact distinct
  | takes isTaking idle =>
    subst isTaking
    exact List.nodup_cons.mpr ⟨idle, distinct⟩
  | closes isClosing =>
    subst isClosing
    rw [Stage.executing_closing]
    exact distinct.tail

/-- After a deed exactly the verbs that were known before are known, and the one installed, as far
as their owners exist. -/
theorem knows_iff (possible : deed.Possible s)
    (present : ((deed.apply s).world.verbs? h.owner).isSome) :
    (deed.apply s).Knows h ↔ s.Knows h ∨ ∃ script, deed = .install h script := by
  cases possible with
  | single allowed =>
    unfold Stage.Knows
    rw [allowed.executing_eq, allowed.script?_apply_eq present]
    simp only [Option.isSome_or, Bool.or_eq_true, Option.isSome_iff_exists,
      definition?_eq_some_iff]
    tauto
  | opens isOpening =>
    subst isOpening
    constructor
    · exact .inl
    · exact fun known => known.resolve_right (by simp)
  | @takes g driving script isTaking idle found =>
    subst isTaking
    by_cases same : h = g
    · subst same
      constructor
      · exact fun _ => .inl (.inl (by rw [found]; rfl))
      · exact fun _ => .inr (List.mem_cons_self ..)
    · have still := s.script?_lend g h
      rw [if_neg same] at still
      have lent : h ∈ (s.lend g).executing ↔ h ∈ s.executing := by simp [Stage.lend, same]
      simp only [apply, Stage.Knows, still, lent, reduceCtorEq, exists_false, or_false]
  | @closes g others script isClosing last =>
    have noInstall : ∀ written, deed ≠ .install h written := by
      rintro written rfl
      have given := Deed.definition?_closing (h := h) s g script
      rw [← isClosing] at given
      simp [definition?] at given
    subst isClosing
    rw [Stage.isSome_verbs?_closing] at present
    simp only [Stage.Knows, Stage.executing_closing, last, List.tail_cons, noInstall,
      exists_false, or_false, List.mem_cons]
    by_cases same : h = g
    · subst same
      simp [Stage.script?_closing_self script present]
    · simp [Stage.script?_closing, same]

/-- A verb that is in its table stays there as it is, if it is neither defined nor driven. -/
theorem script?_apply (possible : deed.Possible s) {script : Script Action}
    (found : s.world.script? h = some script) (notDefined : deed.definition? h = none)
    (notTaken : ∀ driving, deed ≠ .take h driving)
    (present : ((deed.apply s).world.verbs? h.owner).isSome) :
    (deed.apply s).world.script? h = some script := by
  cases possible with
  | single allowed => rw [allowed.script?_apply_eq present, notDefined, Option.none_or, found]
  | opens isOpening =>
    subst isOpening
    exact found
  | @takes g driving taken isTaking =>
    subst isTaking
    have other : h ≠ g := by
      rintro rfl
      exact notTaken driving rfl
    rw [apply, Stage.script?_lend, if_neg other, found]
  | @closes g others closed isClosing =>
    subst isClosing
    by_cases same : h = g
    · subst same
      rw [Stage.isSome_verbs?_closing] at present
      rw [Stage.script?_closing_self closed present, found, Option.some_or]
    · rw [Stage.script?_closing, if_neg same, found]

end Deed.Possible

namespace Deed.AllPossible

/-- Deeds bring no owner into being. -/
theorem isSome_verbs? (possible : AllPossible s deeds) {owner : Owner}
    (present : ((applyAll deeds s).world.verbs? owner).isSome) :
    (s.world.verbs? owner).isSome := by
  induction deeds generalizing s with
  | nil => exact present
  | cons deed rest ih => exact possible.1.isSome_verbs? (ih possible.2 present)

/-- Deeds make no verb be driven twice at a time. -/
theorem nodup_executing (possible : AllPossible s deeds) (distinct : s.executing.Nodup) :
    (applyAll deeds s).executing.Nodup := by
  induction deeds generalizing s with
  | nil => exact distinct
  | cons deed rest ih => exact ih possible.2 (possible.1.nodup_executing distinct)

/-- After deeds exactly the verbs that were known before are known, and those installed, as far as
their owners exist. -/
theorem knows_iff (possible : AllPossible s deeds)
    (present : ((applyAll deeds s).world.verbs? h.owner).isSome) :
    (applyAll deeds s).Knows h ↔ s.Knows h ∨ ∃ script, .install h script ∈ deeds := by
  induction deeds generalizing s with
  | nil => simp
  | cons deed rest ih =>
    have here := possible.2.isSome_verbs? present
    rw [applyAll_cons, ih possible.2 present, possible.1.knows_iff here]
    simp only [List.mem_cons, or_assoc, exists_or, eq_comm]

/-- A verb that is in its table stays there as it is, if its handle gets no definition and it is not
driven. -/
theorem script?_eq (possible : AllPossible s deeds) {script : Script Action}
    (found : s.world.script? h = some script) (notDefined : definitions h deeds = [])
    (notTaken : ∀ driving, .take h driving ∉ deeds)
    (present : ((applyAll deeds s).world.verbs? h.owner).isSome) :
    (applyAll deeds s).world.script? h = some script := by
  induction deeds generalizing s with
  | nil => exact found
  | cons deed rest ih =>
    rw [definitions_cons, List.append_eq_nil_iff, Option.toList_eq_nil_iff] at notDefined
    apply ih possible.2
    · apply possible.1.script?_apply found notDefined.1
      · rintro driving rfl
        exact notTaken driving (List.mem_cons_self ..)
      · exact possible.2.isSome_verbs? present
    · exact notDefined.2
    · exact fun driving member => notTaken driving (List.mem_cons_of_mem _ member)
    · exact present

end Deed.AllPossible

/-! ## No verb is lost or duplicated -/

/-- Whether deeds lead from a stage past another one. -/
def Stage.Passes (s : Stage) (deeds : List Deed) (moment : Stage) : Prop :=
  ∃ first later, deeds = first ++ later ∧ moment = Deed.applyAll first s

/-- What deeds between two stages leave of the verbs, as far as their owners exist. -/
structure Stage.KeepsVerbs (s : Stage) (deeds : List Deed) (s' : Stage) : Prop where
  /-- Every verb that was in its table is in its table. -/
  kept : ∀ h, (s'.world.verbs? h.owner).isSome →
    (s.world.script? h).isSome → (s'.world.script? h).isSome
  /-- Every new verb has been installed. -/
  added : ∀ h, (s'.world.script? h).isSome → s.world.script? h = none →
    ∃ written, .install h written ∈ deeds
  /-- At every moment no verb is driven twice. -/
  distinct : ∀ moment, s.Passes deeds moment → moment.executing.Nodup
  /-- At every moment each verb that was in its table at first is there or is driven. -/
  covered : ∀ moment, s.Passes deeds moment → ∀ h, (moment.world.verbs? h.owner).isSome →
    (s.world.script? h).isSome → moment.Knows h
  /-- Of a verb that has been defined anew the last definition is in the table at the end, and
  without any progress unless it has been driven since. -/
  redefined : ∀ first h written later, deeds = first ++ .install h written :: later →
    (∀ again, .install h again ∉ later) → (s'.world.verbs? h.owner).isSome →
    ∃ script, s'.world.script? h = some script ∧ script.reset = written ∧
      ((∀ driving, .take h driving ∉ later) → script = written)

/-- A deed that installs a verb is done by itself, and the verb is installed as it was written. -/
theorem Deed.Possible.install {written : Script Action}
    (possible : (Deed.install h written).Possible s) :
    ((Deed.install h written).apply s).world.script? h = some written ∧
      ∃ original : Script Action, written = original.reset := by
  cases possible with
  | single allowed =>
    constructor
    · simp only [apply, Stage.mapWorld, World.script?_insert allowed.2.1, if_true]
    · exact allowed.2.2
  | opens isOpening => cases isOpening
  | takes isTaking => cases isTaking
  | @closes g others closed isClosing =>
    have given := Deed.definition?_closing (h := h) s g closed
    rw [← isClosing] at given
    simp [definition?] at given

/-- When no verb is driven, a course that ends keeps the verbs. -/
theorem Stage.Course.keepsVerbs (course : Course driver s deeds s' leaf) (idle : s.executing = []) :
    s.KeepsVerbs deeds s' := by
  have possible := course.allPossible
  have atEnd := course.eq_applyAll
  have idleAtEnd : s'.executing = [] := course.executing_eq.trans idle
  have knowsAtEnd : ∀ h, s'.Knows h ↔ (s'.world.script? h).isSome := by
    intro h
    simp [Knows, idleAtEnd]
  constructor
  case kept =>
    intro h present found
    rw [← knowsAtEnd, atEnd, possible.knows_iff (atEnd ▸ present)]
    exact .inl (.inl found)
  case added =>
    intro h found new
    have present := World.isSome_verbs?_of_script? found
    rw [← knowsAtEnd, atEnd, possible.knows_iff (atEnd ▸ present)] at found
    rcases found with (inTable | driven) | installed
    · simp [new] at inTable
    · simp [idle] at driven
    · exact installed
  case distinct =>
    rintro moment ⟨first, later, rfl, rfl⟩
    rw [Deed.allPossible_append] at possible
    apply possible.1.nodup_executing
    simp [idle]
  case covered =>
    rintro moment ⟨first, later, rfl, rfl⟩ h present found
    rw [Deed.allPossible_append] at possible
    exact (possible.1.knows_iff present).mpr (.inl (.inl found))
  case redefined =>
    rintro first h written later rfl last present
    have noneLater : Deed.definitions h later = [] := by
      apply List.eq_nil_iff_forall_not_mem.mpr
      intro again member
      exact last again (Deed.mem_definitions.mp member)
    rw [Deed.allPossible_append] at possible
    rcases possible with ⟨_, installs, possibleLater⟩
    rcases installs.install with ⟨installed, original, isWritten⟩
    have standing := course.reset_script? (by simp [idle]) present
    have lastDefinition :
        (Deed.definitions h (first ++ .install h written :: later)).getLast? = some written := by
      rw [Deed.definitions_append, Deed.definitions_cons, noneLater]
      simp [Deed.definition?]
    rw [lastDefinition, Option.some_or, Option.map_some] at standing
    rcases Option.map_eq_some_iff.mp standing with ⟨script, found, sameDefinition⟩
    refine ⟨script, found, ?_, ?_⟩
    · rw [sameDefinition, isWritten, Script.reset_reset]
    · intro notTaken
      rw [Deed.applyAll_append, Deed.applyAll_cons] at atEnd
      have still := possibleLater.script?_eq installed noneLater notTaken (atEnd ▸ present)
      rw [← atEnd, found] at still
      exact Option.some.inj still

end Stagecraft
