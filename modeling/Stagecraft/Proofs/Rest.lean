import Stagecraft.Proofs.Opening

/-!
# Verbs at rest

Between two moves no verb is being driven, and every verb has not been started, is parked on one of
its actions or is at its end.  While a verb is driven this holds of all verbs in their tables, so it
is stated along courses; only the verbs that a stored world holds between two actions are excepted,
until they have been taken up.
-/

namespace Stagecraft

variable {driver : Option Handle} {s s' : Stage} {deeds : List Deed} {leaf : Leaf} {h : Handle}

/-! ## Along courses -/

/-- The verbs that can be found are sound, and only verbs of `between` are between two actions. -/
def Stage.SoundBut (s : Stage) (between : Handle → Prop) : Prop :=
  ∀ h script, s.world.script? h = some script →
    script.corruption? = none ∧ (script.IsBetween → between h)

namespace Stage.SoundBut

variable {between : Handle → Prop}

/-- A verb that is lent is not found, so nothing is said of it. -/
theorem lend (sound : s.SoundBut between) (h : Handle) : (s.lend h).SoundBut between := by
  intro other script found
  rw [Stage.script?_lend] at found
  split at found
  · cases found
  · exact sound other script found

/-- A sound verb may come back, if it may be between two actions in case it is. -/
theorem closing (sound : s.SoundBut between) {script : Script Action}
    (scriptSound : script.corruption? = none) (mayBe : script.IsBetween → between h) :
    ((s.closing h script).apply s).SoundBut between := by
  intro other found isFound
  rw [Stage.script?_closing] at isFound
  split at isFound
  · next same =>
    subst same
    obtain ⟨verbs, present, comesBack⟩ := Option.bind_eq_some_iff.mp isFound
    rcases Option.or_eq_some_iff.mp comesBack with defined | ⟨_, same⟩
    · exact sound other found ((World.script?_eq_some_iff _ other found).mpr ⟨verbs, present, defined⟩)
    · cases same
      exact ⟨scriptSound, mayBe⟩
  · exact sound other found isFound

/-- A single deed leaves the verbs sound, since verbs are installed without progress. -/
theorem deed (sound : s.SoundBut between) {deed : Deed} (allowed : deed.Allowed driver s) :
    (deed.apply s).SoundBut between := by
  intro other script found
  rcases allowed.script?_apply found with earlier | ⟨_, written, rfl⟩
  · exact sound other script earlier
  · rw [Script.reset_eq]
    exact ⟨Script.ofActions_sound _, fun between =>
      absurd between (Script.ofActions_not_isBetween _)⟩

end Stage.SoundBut

/-- A course leaves the verbs sound. -/
theorem Stage.Course.soundBut {between : Handle → Prop} (course : Course driver s deeds s' leaf)
    (sound : s.SoundBut between) : s'.SoundBut between := by
  induction course with
  | ended => exact sound
  | parked => exact sound
  | shown scene id actor dialog owner text event free =>
    intro h script found
    exact sound h script found
  | deed allowed _ ih => exact ih (sound.deed allowed)
  | @drive driver s h script driving depth script' state f' deeds more s' leaf idle found driven
      inner closes _ ihInner ih =>
    obtain ⟨scriptSound, mayBe⟩ := sound h script found
    obtain ⟨soundAfter, betweenBefore⟩ :=
      Driving.drive_sound (Action.perform_sound depth) scriptSound driven
    exact ih ((ihInner (sound.lend h)).closing soundAfter fun between =>
      mayBe (betweenBefore between).1)

/-- While a verb is driven nothing comes under its key but new definitions. -/
theorem Stage.Course.script?_executing (course : Course driver s deeds s' leaf)
    (executing : h ∈ s.executing) {script : Script Action}
    (found : s'.world.script? h = some script) :
    s.world.script? h = some script ∨
      .install h script ∈ deeds ∧ ∃ written : Script Action, script = written.reset := by
  induction course with
  | ended => exact .inl found
  | parked => exact .inl found
  | shown => exact .inl found
  | deed allowed _ ih =>
    rcases ih (by rwa [allowed.executing_eq]) found with earlier | ⟨member, written⟩
    · rcases allowed.script?_apply earlier with before | ⟨rfl, written⟩
      · exact .inl before
      · exact .inr ⟨List.mem_cons_self .., written⟩
    · exact .inr ⟨List.mem_cons_of_mem _ member, written⟩
  | @drive driver s g script₀ driving depth script' state f' deeds more s' leaf idle _ _ inner _ _
      ihInner ih =>
    have other : h ≠ g := fun same => idle (same ▸ executing)
    have stillExecuting : h ∈ ((f'.stage.closing g script').apply f'.stage).executing := by
      rw [Stage.executing_closing, inner.executing_eq]
      exact executing
    rcases ih stillExecuting found with earlier | ⟨member, written⟩
    · rw [Stage.script?_closing, if_neg other] at earlier
      rcases ihInner (List.mem_cons_of_mem _ executing) earlier with before | ⟨member, written⟩
      · rw [Stage.script?_lend, if_neg other] at before
        exact .inl before
      · exact .inr ⟨List.mem_cons_of_mem _ (List.mem_append_left _ member), written⟩
    · have below := List.mem_cons_of_mem (f'.stage.closing g script') member
      exact .inr ⟨List.mem_cons_of_mem _ (List.mem_append_right _ below), written⟩

/-- A verb that is driven and found again at the end has been defined anew. -/
theorem Stage.Course.script?_lent (course : Course driver (s.lend h) deeds s' leaf)
    {script : Script Action} (found : s'.world.script? h = some script) :
    .install h script ∈ deeds ∧ ∃ written : Script Action, script = written.reset := by
  refine (course.script?_executing (List.mem_cons_self ..) found).resolve_left fun lent => ?_
  rw [Stage.script?_lend, if_pos rfl] at lent
  cases lent

/-! ## Openings -/

/-- In a world in which no verb has been started none is between two actions. -/
theorem World.Fresh.soundBut {w : World} (fresh : w.Fresh) (settings : Settings) :
    (Stage.ofWorld w settings).SoundBut fun _ => False := by
  intro h script found
  obtain ⟨actions, rfl⟩ := fresh.of_script? found
  exact ⟨Script.ofActions_sound actions, Script.ofActions_not_isBetween actions⟩

/-- A verb that has been taken up is between two actions no more, and neither is any that was not
before. -/
theorem Stage.reenterVerb_soundBut {rest : List Handle} {depth : Nat} (idle : s.executing = [])
    (sound : s.SoundBut (· ∈ h :: rest)) :
    (s.reenterVerb (Action.perform depth) h).SoundBut (· ∈ rest) := by
  have others : ∀ {s : Stage}, s.SoundBut (· ∈ h :: rest) →
      (∀ script, s.world.script? h = some script → ¬ script.IsBetween) → s.SoundBut (· ∈ rest) := by
    intro s sound notBetween other script found
    refine ⟨(sound other script found).1, fun between => ?_⟩
    rcases List.mem_cons.mp ((sound other script found).2 between) with rfl | later
    · exact absurd between (notBetween script found)
    · exact later
  rw [Stage.reenterVerb_eq]
  cases found : s.world.script? h with
  | none => exact others sound (by simp [found])
  | some script =>
    simp only [Option.elim_some]
    by_cases between : script.IsBetween
    · rw [if_pos between]
      have minds : ∀ again, s.world.script? h = some again → Driving.reenter.Minds again := by
        intro again foundAgain waits
        obtain rfl : script = again := Option.some.inj (found.symm.trans foundAgain)
        obtain ⟨_, _, _, notSuspended⟩ := between.exists_ip
        exact absurd waits (Script.not_waitsForChoice notSuspended)
      have driven := Stage.driven_driveVerb (Action.perform depth) .reenter
        (s.info s!"re-entering verb {h.text} after load") h (.inr (Action.perform_runs depth)) minds
      have lent : ((s.info s!"re-entering verb {h.text} after load").lend h).SoundBut
          (· ∈ rest) := by
        refine others (Stage.SoundBut.lend sound h) fun again foundAgain => ?_
        rw [Stage.script?_lend, if_pos rfl] at foundAgain
        cases foundAgain
      generalize (s.info s!"re-entering verb {h.text} after load").driveVerb (Action.perform depth)
        .reenter h = result at driven
      cases driven with
      | busy text executing =>
        have none : s.executing = [] := idle
        exact absurd executing (by simp [Stage.info, Stage.note, none])
      | missing _ absent => exact absurd (found.symm.trans absent) (by simp)
      | refused _ _ refuses => cases refuses
      | done _ foundAgain taken leaves _ =>
        obtain ⟨soundAfter, notBetween⟩ :=
          Driving.drive_sound (Action.perform_sound depth) (sound h _ foundAgain).1 taken
        exact (leaves.1.course.soundBut lent).closing soundAfter fun between =>
          absurd rfl (notBetween between).2
    · rw [if_neg between]
      exact others sound fun again foundAgain => by
        rwa [← Option.some.inj (found.symm.trans foundAgain)]

/-- When all verbs have been taken up none is between two actions. -/
theorem Stage.foldl_reenterVerb_soundBut {handles : List Handle} {depth : Nat}
    (idle : s.executing = []) (sound : s.SoundBut (· ∈ handles)) :
    (handles.foldl (Stage.reenterVerb (Action.perform depth)) s).executing = [] ∧
      (handles.foldl (Stage.reenterVerb (Action.perform depth)) s).SoundBut fun _ => False := by
  induction handles generalizing s with
  | nil => exact ⟨idle, fun h script found => (sound h script found).imp_right fun imp between =>
      absurd (imp between) List.not_mem_nil⟩
  | cons h rest ih =>
    obtain ⟨deeds, course⟩ := Stage.reenterVerb_course none depth s h
    exact ih (course.executing_eq.trans idle) (Stage.reenterVerb_soundBut idle sound)

/-- On the stage on which a game begins no verb is driven, and none is between two actions. -/
theorem Stage.Opening.soundBut (opening : s.Opening) :
    s.executing = [] ∧ s.SoundBut fun _ => False := by
  cases opening with
  | built settings built => exact ⟨rfl, (Definition.build_fresh built).soundBut settings⟩
  | @loaded path text w s settings parsed keyed taken =>
    unfold loadText at taken
    rw [parsed] at taken
    simp only [Stage.restore] at taken
    cases right : (Stage.ofWorld w).world.verbError? with
    | some reason =>
      rw [right] at taken
      cases taken
    | none =>
      rw [right] at taken
      cases taken
      have sound : (Stage.ofWorld w).SoundBut (· ∈ w.handles) := fun h script found =>
        ⟨keyed.sound right found, fun _ => keyed.mem_handles found⟩
      exact Stage.foldl_reenterVerb_soundBut rfl sound

/-! ## Every run of moves -/

/-- No verb is driven, and each verb is sound and in exactly one situation. -/
structure Stage.AtRest (s : Stage) : Prop where
  idle : s.executing = []
  sound : ∀ h script, s.world.script? h = some script → script.corruption? = none
  situated : ∀ h script, s.world.script? h = some script →
    ∃ situation, ∀ other, script.IsIn other ↔ other = situation

/-- What is told of a verb that is driven is true of it when it has come back into its table, unless
its key has got a new definition while it was away. -/
def Stage.Answers (s : Stage) (driving : Driving) (depth : Nat) (h : Handle) (state : RunState)
    (s' : Stage) : Prop :=
  ∃ script script' f', s.world.script? h = some script ∧
    driving.drive (Action.perform depth) script (.enter h (s.lend h)) = .ok (script', state, f') ∧
    s' = (f'.stage.closing h script').apply f'.stage ∧
    (f'.stage.world.script? h = none → ∀ again, s'.world.script? h = some again →
      (state = .suspended ↔ again.suspended = true) ∧
      (state = .finished ↔ again.ip = some again.length))

/-- A stage is at rest if no verb is driven or between two actions. -/
theorem Stage.SoundBut.atRest (sound : s.SoundBut fun _ => False) (idle : s.executing = []) :
    s.AtRest where
  idle := idle
  sound h script found := (sound h script found).1
  situated h script found := by
    obtain ⟨scriptSound, notBetween⟩ := sound h script found
    obtain ⟨situation, isIn⟩ := Script.exists_isIn scriptSound notBetween
    refine ⟨situation, fun other => ⟨fun isOther => isOther.unique isIn, ?_⟩⟩
    rintro rfl
    exact isIn

namespace Stage.SoundBut

variable {between : Handle → Prop} {depth : Nat}

/-- What is told of a verb that has been run, resumed or cancelled is true of it. -/
theorem answers_of_driven (sound : s.SoundBut between) {driving : Driving} {state : RunState}
    (answers : driving = .run ∨ driving = .resume ∨ driving = .cancel)
    (driven : Stage.Driven (Action.perform depth) driving s h (some (.ok state), s')) :
    s.Answers driving depth h state s' := by
  cases driven with
  | @done script script' _ f' _ _ found driven _ _ =>
    have reports := Driving.drive_reports (Action.perform_sound depth) (sound h script found).1
      answers driven
    refine ⟨script, script', f', found, driven, rfl, ?_⟩
    intro notDefined again foundAgain
    rw [Stage.script?_closing, if_pos rfl] at foundAgain
    obtain ⟨verbs, present, comesBack⟩ := Option.bind_eq_some_iff.mp foundAgain
    rcases Option.or_eq_some_iff.mp comesBack with defined | ⟨_, same⟩
    · have foundInside := (World.script?_eq_some_iff _ h again).mpr ⟨verbs, present, defined⟩
      rw [notDefined] at foundInside
      cases foundInside
    · cases same
      exact ⟨reports.suspended_iff, reports.finished_iff⟩

/-- What is told of a verb that has been run is true of it. -/
theorem answers_runHandle (sound : s.SoundBut between) {state : RunState}
    (ran : s.runHandle (Action.perform depth) h = (some state, s')) :
    s.Answers .run depth h state s' := by
  have driven := Stage.driven_driveVerb (Action.perform depth) .run s h
    (.inr (Action.perform_runs depth)) fun _ _ _ => .inl rfl
  rw [Stage.runHandle_eq, ran] at driven
  exact sound.answers_of_driven (.inl rfl) driven

/-- What is told of a verb that has been resumed is true of it. -/
theorem answers_resumeVerb (sound : s.SoundBut between) {state : RunState}
    (resumed : s.resumeVerb h depth = (.ok state, s')) : s.Answers .resume depth h state s' := by
  have driven := Stage.driven_driveVerb (Action.perform depth) .resume s h
    (.inr (Action.perform_runs depth)) fun _ _ _ => .inr (.inl rfl)
  rw [Stage.resumeVerb_eq] at resumed
  rcases result : s.driveVerb (Action.perform depth) .resume h with ⟨_ | answer, s''⟩
  · rw [result] at resumed
    cases resumed
  · rw [result] at resumed driven
    obtain ⟨rfl, rfl⟩ := Prod.mk.inj resumed
    exact sound.answers_of_driven (.inr (.inl rfl)) driven

end Stage.SoundBut

/-- Between the moves of a game all verbs are at rest, and what a move tells of the verb that it has
run or resumed is true of it. -/
theorem Stage.Opening.atRest_play (opening : s.Opening) (moves : List (Move × Nat)) :
    (s.play moves).AtRest ∧
    (∀ owner id target depth state s',
      (s.play moves).runVerb owner id target depth = (some state, s') →
      ∃ h, (s.play moves).resolve? owner id target = some h ∧
        (s.play moves).Answers .run depth h state s') ∧
    (∀ actor id target depth state s',
      (s.play moves).interact actor id target depth = (some state, s') →
      ∃ scene h, (s.play moves).world.currentScene = some scene ∧
        (s.play moves).resolveInteraction? scene actor id target = some h ∧
        ((s.play moves).info s!"player: {id} {actor} -> {h.text}").Answers .run depth h state s') ∧
    ∀ h depth state s', (s.play moves).resumeVerb h depth = (.ok state, s') →
      (s.play moves).Answers .resume depth h state s' := by
  obtain ⟨idle, sound⟩ := opening.soundBut
  obtain ⟨deeds, course⟩ := s.play_course moves
  have soundAfter := course.soundBut sound
  generalize s.play moves = reached at course soundAfter ⊢
  refine ⟨soundAfter.atRest (course.executing_eq.trans idle), ?_, ?_, ?_⟩
  · intro owner id target depth state s' ran
    unfold Stage.runVerb Stage.runNamed at ran
    cases named : reached.resolve? owner id target with
    | none =>
      rw [named] at ran
      cases ran
    | some h =>
      rw [named] at ran
      exact ⟨h, rfl, soundAfter.answers_runHandle ran⟩
  · intro actor id target depth state s' ran
    unfold Stage.interact at ran
    split at ran
    · cases ran
    · next scene isCurrent =>
      split at ran
      · cases ran
      · split at ran
        · split at ran
          · next h named =>
            have noted : (reached.info s!"player: {id} {actor} -> {h.text}").SoundBut
                fun _ => False := soundAfter
            exact ⟨scene, h, isCurrent, named, noted.answers_runHandle ran⟩
          · cases ran
        · cases ran
  · intro h depth state s' resumed
    exact soundAfter.answers_resumeVerb resumed

/-- In the hall all verbs are at rest after the clerk has been talked to and answered. -/
theorem World.hall_atRest :
    ((Stage.ofWorld .hall).play [(.interact "clerk" "talk" none, 2),
      (.chooseOption 0, 2)]).AtRest :=
  (Stage.Opening.atRest_play (.built .standard World.hall_built) _).1

end Stagecraft
