import Stagecraft.Proofs.Persistence
import Stagecraft.Proofs.Tables

/-!
# Where verbs come from

A handle under which there is no verb, neither in its table nor driven, goes on having none whatever
is done, until an action installs one.  So every verb that is new after a move has been installed by
an action that was performed in it.
-/

namespace Stagecraft

variable {s : Stage} {f : Frame} {h : Handle}

/-- Performing an action in a frame installs a verb under a handle. -/
def Frame.Installs (f : Frame) (action : Action) (h : Handle) : Prop :=
  ∃ whose script done, action = .addVerb whose h.key script ∧ f.target whose = .ok h.owner ∧
    f.addVerb whose h.key script = .ok done

/-! ## Deeds -/

/-- A deed that installs nothing under a handle brings no verb there. -/
theorem Deed.Allowed.not_knows {driver : Option Handle} {deed : Deed}
    (allowed : deed.Allowed driver s) (notInstalled : ∀ script, deed ≠ .install h script)
    (unknown : ¬ s.Knows h) : ¬ (deed.apply s).Knows h := by
  rintro (found | driven)
  · rcases Option.isSome_iff_exists.mp found with ⟨script, found⟩
    rcases allowed.script?_apply found with earlier | ⟨installed, _⟩
    · exact unknown (.inl (by simp [earlier]))
    · exact notInstalled script installed
  · rw [allowed.executing_eq] at driven
    exact unknown (.inr driven)

theorem Deed.AllAllowed.not_knows {driver : Option Handle} {deeds : List Deed}
    (allowed : AllAllowed driver s deeds) (notInstalled : ∀ script, .install h script ∉ deeds)
    (unknown : ¬ s.Knows h) : ¬ (applyAll deeds s).Knows h := by
  induction deeds generalizing s with
  | nil => exact unknown
  | cons deed rest ih =>
    apply ih allowed.2 (fun script member => notInstalled script (List.mem_cons_of_mem _ member))
    apply allowed.1.not_knows _ unknown
    rintro script rfl
    exact notInstalled script (List.mem_cons_self ..)

namespace Stage

/-- Nothing that is noted or told brings a verb, and no dialog does. -/
theorem lasting_not_knows (h : Handle) : Lasting fun s => ¬ s.Knows h where
  note _ _ _ unknown := unknown
  emit _ _ unknown := unknown
  dialog _ _ unknown := unknown

theorem outlastsDeeds_not_knows (h : Handle) : OutlastsDeeds fun s => ¬ s.Knows h := by
  intro s deed allowed frontEnds unknown
  apply allowed.not_knows _ unknown
  rintro script rfl
  exact frontEnds

/-- A handle that names no verb names none when another verb has been out of its table, if none comes
there while it is out. -/
theorem not_knows_withVerb {α : Type} {g : Handle}
    {body : Script Action → Stage → Script Action × α × Stage} (unknown : ¬ s.Knows h)
    (inside : ∀ script, g ∉ s.executing → s.world.script? g = some script →
      ¬ (s.lend g).Knows h → ¬ (body script (s.lend g)).2.2.Knows h) :
    ¬ (s.withVerb g body).2.Knows h := by
  by_cases idle : g ∈ s.executing
  · rw [withVerb, if_pos idle]
    exact unknown
  cases found : s.world.script? g with
  | none =>
    simp only [withVerb, if_neg idle, found]
    exact unknown
  | some script =>
    have other : h ≠ g := by
      rintro rfl
      exact unknown (.inl (by simp [found]))
    have lent : ¬ (s.lend g).Knows h := by
      rintro (found | driven)
      · rw [script?_lend, if_neg other] at found
        exact unknown (.inl found)
      · exact unknown (.inr ((List.mem_cons.mp driven).resolve_left other))
    have after := inside script idle found lent
    rw [withVerb_of_found idle found]
    generalize body script (s.lend g) = done at after
    have back : ∀ world : World, world.script? h = done.2.2.world.script? h →
        ∀ journal, ¬ Knows ⟨world, done.2.2.settings, done.2.2.outbox, s.executing, journal⟩ h := by
      rintro world same journal (found | driven)
      · exact after (.inl (by rwa [← same]))
      · exact unknown (.inr driven)
    simp only
    split
    · apply back
      rw [World.script?_restore, if_neg other]
    · exact back _ rfl _

theorem not_knows_cancelVerb (unknown : ¬ s.Knows h) (g : Handle) :
    ¬ (s.cancelVerb g).2.Knows h := by
  unfold cancelVerb
  apply not_knows_withVerb unknown
  intro script _ _ lent
  exact (lasting_not_knows h).cancel script lent

end Stage

/-! ## Performing -/

/-- Going to a scene brings no verb under a handle, if running a verb there brings none. -/
theorem Stage.not_knows_goToScene {perform : Performer} {scene : String} {s' : Stage}
    (unknown : ¬ s.Knows h)
    (below : ∀ g script, s.world.scenes.contains scene →
      (s.arrive scene).resolve? (.scene scene) "init" none = some g →
        g ∉ (s.arrive scene).executing → (s.arrive scene).world.script? g = some script →
          ¬ ((s.arrive scene).lend g).Knows h →
            ¬ (script.start perform (.begin g (s.arrive scene))).2.2.stage.Knows h)
    (went : s.goToScene perform scene = .ok s') : ¬ s'.Knows h := by
  rw [goToScene_eq] at went
  split at went
  · next present =>
    cases went
    have arrived := (outlastsDeeds_not_knows h).arrive present unknown
    unfold runNamed
    split
    · next g finds =>
      apply not_knows_withVerb arrived
      intro script idle found lent
      exact (lasting_not_knows h).settle _ _ (below g script present finds idle found lent)
    · exact arrived
  · cases went

/-- Performing an action that installs no verb under a handle brings none there, if that is so for
the scripts that it starts. -/
theorem Action.not_knows_performWith {inner : Option Performer} {action : Action}
    (unknown : ¬ f.stage.Knows h) (notInstalls : ¬ f.Installs action h)
    (below : ∀ perform ∈ inner, ∀ script g, action.Starts f script g → ¬ g.stage.Knows h →
      ¬ (script.start perform g).2.2.stage.Knows h) :
    ¬ (Action.performWith inner action f).2.2.stage.Knows h := by
  refine (Stage.lasting_not_knows h).performWith unknown ?direct ?cancels ?installs ?changes below
  case direct =>
    intro direct
    rcases performed : Action.performWith inner action f with ⟨action', outcome, f'⟩
    rcases (Action.performWith_acts inner direct performed).deeds with ⟨deeds, rfl, allowed, befit⟩
    exact allowed.not_knows (fun script member => (befit _ member).asked) unknown
  case cancels => exact fun _ g _ s unknown => Stage.not_knows_cancelVerb unknown g
  case installs =>
    rintro whose key script owner rfl meant allowed ⟨done, adds⟩
    apply allowed.not_knows _ unknown
    rintro _ ⟨⟩
    exact notInstalls ⟨whose, script, done, rfl, meant, adds⟩
  case changes =>
    rintro scene rfl
    cases inner with
    | none => exact unknown
    | some perform =>
      have noted : ¬ (f.info s!"└─ action: ChangeScene({scene})").stage.Knows h := unknown
      apply Frame.attempt_lasts (motive := fun s => ¬ s.Knows h) noted
      intro outcome f' done
      rcases Frame.onStage_eq_ok done with ⟨_, stage, went, rfl⟩
      apply Stage.not_knows_goToScene noted _ went
      intro g script present finds idle found lent
      exact below perform rfl script _ (.changeScene present rfl finds idle found) lent

/-- Performing an action that comes to installing no verb under a handle brings none there. -/
theorem Action.not_knows_perform {depth : Nat} {action : Action} (unknown : ¬ f.stage.Knows h)
    (installsNone : ∀ reached r, action.Reaches depth f reached r → ¬ r.Installs reached h) :
    ¬ (Action.perform depth action f).2.2.stage.Knows h := by
  induction depth generalizing action f with
  | zero => exact not_knows_performWith unknown (installsNone action f .itself) nofun
  | succ depth ih =>
    apply not_knows_performWith unknown (installsNone action f .itself)
    rintro _ ⟨⟩ script g starts before
    apply (Stage.lasting_not_knows h).start _ before
    intro k next g' comes onStage
    exact ih onStage fun reached r reaches => installsNone reached r (.inside starts comes reaches)

/-! ## Moves -/

/-- Time that passes for a single action brings no verb. -/
theorem leafLasts_not_knows (h : Handle) (perform : Performer) (delta : Single) (leaf : Leaf)
    (f : Frame) : LeafLasts (fun s => ¬ s.Knows h) perform delta leaf f := by
  intro action owner _ noInner unknown
  rcases Action.stage_tick noInner delta { f with scope := owner } with
    same | ⟨scene, id, pos, _, present, same⟩ <;> rw [same]
  · exact unknown
  · have allowed : Deed.Allowed none f.stage (.place scene id pos) := present
    exact allowed.not_knows nofun unknown

namespace Stage

/-- Driving a verb without installing one under a handle brings none there. -/
theorem not_knows_driveVerb {depth : Nat} {driving : Driving} {g : Handle} (unknown : ¬ s.Knows h)
    (installsNone : ∀ script action r, g ∉ s.executing → s.world.script? g = some script →
      driving.Attempts depth script (.enter g (s.lend g)) (.perform action) r →
        ¬ r.Installs action h) :
    ¬ (s.driveVerb (Action.perform depth) driving g).2.Knows h := by
  apply not_knows_withVerb unknown
  intro script idle found lent
  cases driven : driving.drive (Action.perform depth) script (.enter g (s.lend g)) with
  | error reason => exact lent
  | ok done =>
    apply (lasting_not_knows h).drive (fun delta _ => leafLasts_not_knows h _ delta _ _) _ driven lent
    intro ip actions r sweeps k action r' comes onStage
    exact Action.not_knows_perform onStage fun reached r'' reaches =>
      installsNone script reached r'' idle found (.perform sweeps comes reaches)

/-- A verb that was not known before a move has been installed in it by an action. -/
theorem exists_installs {m : Move} {depth : Nat} (unknown : ¬ s.Knows h)
    (known : (s.move m depth).Knows h) :
    ∃ action g, s.Attempts m depth (.perform action) g ∧ g.Installs action h := by
  by_contra installsNone
  have endures : s.Endures (fun s => ¬ s.Knows h) m depth := by
    refine ⟨unknown, outlastsDeeds_not_knows h, ?_⟩
    intro driving g t isDriven onStage
    apply not_knows_driveVerb onStage
    intro script action r idle found attempts installs
    exact installsNone ⟨action, r, ⟨driving, g, t, script, isDriven, idle, found, attempts⟩, installs⟩
  exact endures.move known

end Stage

/-- Whatever is played, no move loses or duplicates a verb: every move is a course, along every course
to where it leads the verbs are kept, and every verb that is new then has been installed by an action
that was performed in the move. -/
theorem Stage.Opening.keepsVerbs_move (opening : s.Opening) (moves : List (Move × Nat)) (m : Move)
    (depth : Nat) :
    (∃ deeds, Course none (s.play moves) deeds ((s.play moves).move m depth) none) ∧
    (∀ deeds, Course none (s.play moves) deeds ((s.play moves).move m depth) none →
      (s.play moves).KeepsVerbs deeds ((s.play moves).move m depth)) ∧
    ∀ h, (s.play moves).world.script? h = none →
      (((s.play moves).move m depth).world.script? h).isSome →
        ∃ action g, (s.play moves).Attempts m depth (.perform action) g ∧ g.Installs action h := by
  have idle : (s.play moves).executing = [] := by
    rcases s.play_course moves with ⟨before, played⟩
    exact played.executing_eq.trans opening.soundBut.1
  refine ⟨(s.play moves).move_course m depth, fun deeds course => course.keepsVerbs idle, ?_⟩
  intro h missing found
  have unknown : ¬ (s.play moves).Knows h := by simp [Knows, missing, idle]
  exact exists_installs unknown (.inl found)

/-- On the stairs no verb is lost or duplicated while the verb that goes down is defined anew. -/
theorem World.stairs_keepsVerbs :
    Definition.stairs.build = .ok World.stairs ∧
    ∃ deeds, Stage.Course none (.ofWorld .stairs) deeds
        ((Stage.ofWorld .stairs).move (.runVerb .world "down" none) 4) none ∧
      (Stage.ofWorld .stairs).KeepsVerbs deeds
        ((Stage.ofWorld .stairs).move (.runVerb .world "down" none) 4) := by
  rcases Stage.Opening.keepsVerbs_move (.built .standard World.stairs_built) []
    (.runVerb .world "down" none) 4 with ⟨⟨deeds, course⟩, keeps, _⟩
  exact ⟨World.stairs_built, deeds, course, keeps deeds course⟩

/-- Having gone down, the verb that did so is the one that was defined in the cellar. -/
example : ((((Stage.ofWorld .stairs).move (.runVerb .world "down" none) 4).world.script?
    ⟨.world, "down", none, none⟩).map fun script => script.actions.map Action.name) =
      some ["SetState"] := by
  decide +kernel

end Stagecraft
