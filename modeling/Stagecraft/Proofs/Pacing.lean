import Mathlib.Data.List.Basic
import Stagecraft.Proofs.Listing
import Stagecraft.Proofs.Arrivals

/-!
# To whom time passes

Which verbs get time in an update is settled before the first of them goes on: the global ones that
are parked then and those of the scene that is current then, each once.  What a verb does when its
time is over changes nothing about that.  So verbs of all other scenes stay where they are, but after
a change of scene those of the scene that has been left still get their time.
-/

namespace Stagecraft

variable {driver : Option Handle} {s s' : Stage} {deeds more : List Deed} {leaf : Leaf} {h : Handle}

/-! ## Deeds of the front end -/

/-- The verb that a deed drives otherwise than verbs drive each other, and how. -/
def Deed.fromOutside? : Deed → Option (Handle × Driving)
  | .take _ .run | .take _ .cancel => none
  | .take h driving => some (h, driving)
  | _ => none

/-- Verbs that drive each other do not drive each other from outside. -/
theorem Deed.AmongVerbs.filterMap_eq_nil (amongVerbs : AmongVerbs deeds) :
    deeds.filterMap fromOutside? = [] := by
  refine List.filterMap_eq_nil_iff.mpr fun deed member => ?_
  cases deed with
  | take h driving =>
    rcases amongVerbs h driving member with rfl | rfl <;> rfl
  | _ => rfl

/-- A verb is driven from outside, run or cancelled. -/
theorem Deed.mem_filterMap_of_take {driving : Driving} (member : .take h driving ∈ deeds) :
    driving = .run ∨ driving = .cancel ∨ (h, driving) ∈ deeds.filterMap fromOutside? := by
  have listed : ∀ found, fromOutside? (.take h driving) = some found →
      found ∈ deeds.filterMap fromOutside? :=
    fun found isFound => List.mem_filterMap.mpr ⟨_, member, isFound⟩
  cases driving with
  | run => exact .inl rfl
  | cancel => exact .inr (.inl rfl)
  | _ => exact .inr (.inr (listed _ rfl))

namespace Stage

/-- Time that passes for verbs one after the other is a course in which, from outside, they get that
time in this order and at most once each. -/
theorem foldl_tickVerb_course (depth : Nat) (delta : Single) (handles : List Handle) (s : Stage) :
    ∃ deeds, Course none s deeds (handles.foldl (tickVerb (Action.perform depth) delta) s) none ∧
      (deeds.filterMap Deed.fromOutside?).Sublist (handles.map (·, .tick delta)) := by
  induction handles generalizing s with
  | nil => exact ⟨[], .ended, List.nil_sublist _⟩
  | cons h rest ih =>
    obtain ⟨own, others, atMost, amongVerbs, ticked⟩ := tickVerb_exists_own none depth delta s h
    obtain ⟨deeds, course, sublist⟩ := ih (s.tickVerb (Action.perform depth) delta h)
    refine ⟨(own ++ others) ++ deeds, ticked.append course, ?_⟩
    have first : ((own ++ others).filterMap Deed.fromOutside?).Sublist [(h, .tick delta)] := by
      rw [List.filterMap_append, amongVerbs.filterMap_eq_nil, List.append_nil]
      exact atMost.filterMap _
    rw [List.filterMap_append]
    exact first.append sublist

/-- The actors that notice the player drive no verb from outside. -/
theorem foldl_noticePlayer_course (depth : Nat) (onlookers : List (String × String)) (s : Stage) :
    ∃ deeds, Course none s deeds (onlookers.foldl (fun s onlooker =>
      s.noticePlayer (Action.perform depth) onlooker.1 onlooker.2) s) none ∧
        Deed.AmongVerbs deeds := by
  induction onlookers generalizing s with
  | nil => exact ⟨[], .ended, .nil⟩
  | cons onlooker rest ih =>
    obtain ⟨deeds, noticed, first⟩ := noticePlayer_course depth onlooker.1 s onlooker.2
    obtain ⟨more, course, others⟩ :=
      ih (s.noticePlayer (Action.perform depth) onlooker.1 onlooker.2)
    exact ⟨deeds ++ more, noticed.append course, first.append others⟩

/-- An update is a course in which, from outside, the verbs that are parked when it begins get the
time in the order in which they are listed, and at most once each. -/
theorem update_course_fromOutside (s : Stage) (delta : Single) (depth : Nat) :
    ∃ deeds, Course none s deeds (s.update delta depth) none ∧
      (deeds.filterMap Deed.fromOutside?).Sublist
        (s.world.parkedHandles.map (·, .tick delta)) := by
  have passed : Course none s [.pass delta] ((Deed.pass delta).apply s) none :=
    .ofDeeds ⟨rfl, trivial⟩
  obtain ⟨ticks, ticked, sublist⟩ := foldl_tickVerb_course depth delta s.world.parkedHandles
    ((Deed.pass delta).apply s)
  obtain ⟨notices, noticed, amongVerbs⟩ := foldl_noticePlayer_course depth
    (s.ticked (Action.perform depth) delta).onlookers (s.ticked (Action.perform depth) delta)
  rw [update_eq]
  refine ⟨.pass delta :: ticks ++ notices, (passed.append ticked).append noticed, ?_⟩
  rw [List.filterMap_append, amongVerbs.filterMap_eq_nil, List.append_nil]
  exact sublist

end Stage

/-! ## Verbs that are not driven -/

/-- A verb that is not driven in a course stays as it is as long as it is in its table, unless it is
defined anew. -/
theorem Stage.Course.script?_of_untouched (course : Course driver s deeds s' leaf)
    (untouched : ∀ driving, .take h driving ∉ deeds) {script : Script Action}
    (found : s'.world.script? h = some script) :
    s.world.script? h = some script ∨ ∃ written : Script Action, script = written.reset := by
  have only : s'.Only h fun script =>
      s.world.script? h = some script ∨ ∃ written : Script Action, script = written.reset :=
    course.only (fun _ => False) (fun written => .inr ⟨written, rfl⟩)
      (fun never => never.elim) untouched fun _ before => .inl before
  exact only script found

/-! ## Updates -/

/-- Whether a verb is a global one or one of the current scene, to which time passes. -/
def World.GivesTime (w : World) (h : Handle) : Prop :=
  h.owner = .world ∨ h.owner.sceneId? = w.currentScene

namespace World

variable {w : World}

/-- The verbs that are listed for a scene are its own and those of its actors. -/
theorem sceneId?_of_mem_sceneHandles {id : String} (listed : h ∈ w.sceneHandles id) :
    h.owner.sceneId? = some id := by
  unfold sceneHandles at listed
  split at listed
  · cases listed
  · rcases List.mem_append.mp listed with own | ofActor
    · rw [owner_of_mem_handlesOf own]
      rfl
    · obtain ⟨actor, _, own⟩ := List.mem_flatMap.mp ofActor
      rw [owner_of_mem_handlesOf own]
      rfl

/-- The parked verbs to which time passes are global or of the current scene. -/
theorem givesTime_of_mem_parkedHandles (listed : h ∈ w.parkedHandles) : w.GivesTime h := by
  have candidate := (List.mem_filter.mp listed).1
  rcases List.mem_append.mp candidate with isGlobal | inScene
  · obtain ⟨key, _, rfl⟩ := List.mem_map.mp isGlobal
    exact .inl rfl
  · split at inScene
    · next scene current => exact .inr ((sceneId?_of_mem_sceneHandles inScene).trans current.symm)
    · cases inScene

end World

namespace Stage

/-- A verb that gets time in an update is one that is parked when it begins, and those before it in
the list have got theirs. -/
theorem Drives.tick_of_update {t : Stage} {delta time : Single} {depth : Nat}
    (drives : s.Drives depth (.update delta) (.tick time) h t) :
    time = delta ∧ ∃ before after, s.world.parkedHandles = before ++ h :: after ∧
      before.foldl (tickVerb (Action.perform depth) delta) ((Deed.pass delta).apply s) = t := by
  cases drives with
  | tick parked => exact ⟨rfl, _, _, parked, rfl⟩

/-- No verb gets time twice in an update of a world whose actors stand under their own ids. -/
theorem Drives.tick_unique {t t' : Stage} {delta time time' : Single} {depth : Nat}
    (filed : s.world.Filed) (drives : s.Drives depth (.update delta) (.tick time) h t)
    (again : s.Drives depth (.update delta) (.tick time') h t') : t = t' := by
  obtain ⟨_, before, after, parked, rfl⟩ := drives.tick_of_update
  obtain ⟨_, before', after', parked', rfl⟩ := again.tick_of_update
  have once := filed.nodup_parkedHandles
  have notBefore : h ∉ before := by
    rw [parked] at once
    exact fun member => (List.nodup_append.mp once).2.2 h member h (List.mem_cons_self ..) rfl
  have notAfter : h ∉ after := by
    rw [parked] at once
    exact (List.nodup_cons.mp (List.nodup_append.mp once).2.1).1
  obtain ⟨rfl, _⟩ :=
    (List.append_cons_inj_of_notMem notBefore notAfter).mp (parked.symm.trans parked')
  rfl

/-- Each verb that gets time in an update gets it once, and all of the time that has passed.  It is a
global one or of the scene that is current when the update begins; so if it is not global, the scene
is its own when it gets the time exactly if it has not been left.  In the course of the update verbs
are driven otherwise only by each other, so that a verb of another scene stays as it is unless it is
run, cancelled, defined anew or removed. -/
theorem Opening.paced_update (opening : s.Opening) (moves : List (Move × Nat)) (delta : Single)
    (depth : Nat) :
    let begun := s.play moves
    (∀ time h t, begun.Drives depth (.update delta) (.tick time) h t →
      time = delta ∧ begun.world.GivesTime h ∧
      (h.owner = .world ∨
        (t.world.GivesTime h ↔ t.world.currentScene = begun.world.currentScene)) ∧
      ∀ time' t', begun.Drives depth (.update delta) (.tick time') h t' → t = t') ∧
    ∃ deeds, Course none begun deeds (begun.update delta depth) none ∧
      ((deeds.filterMap Deed.fromOutside?).map (·.1)).Nodup ∧
      (∀ h driving, .take h driving ∈ deeds →
        driving = .run ∨ driving = .cancel ∨ driving = .tick delta ∧ begun.world.GivesTime h) ∧
      ∀ h, ¬ begun.world.GivesTime h → .take h .run ∉ deeds → .take h .cancel ∉ deeds →
        ∀ script, (begun.update delta depth).world.script? h = some script →
          begun.world.script? h = some script ∨ ∃ written : Script Action, script = written.reset := by
  intro begun
  have filed : begun.world.Filed := opening.filed_play moves
  obtain ⟨deeds, course, sublist⟩ := begun.update_course_fromOutside delta depth
  have driven : ∀ h driving, .take h driving ∈ deeds →
      driving = .run ∨ driving = .cancel ∨ driving = .tick delta ∧ begun.world.GivesTime h := by
    intro h driving member
    rcases Deed.mem_filterMap_of_take member with run | cancel | outside
    · exact .inl run
    · exact .inr (.inl cancel)
    · obtain ⟨_, listed, same⟩ := List.mem_map.mp (sublist.subset outside)
      cases same
      exact .inr (.inr ⟨rfl, World.givesTime_of_mem_parkedHandles listed⟩)
  refine ⟨?_, deeds, course, ?_, driven, ?_⟩
  · intro time h t drives
    obtain ⟨rfl, _, _, parked, _⟩ := drives.tick_of_update
    have inReach : begun.world.GivesTime h := World.givesTime_of_mem_parkedHandles (by simp [parked])
    refine ⟨rfl, inReach, ?_, fun _ _ again => drives.tick_unique filed again⟩
    refine Classical.or_iff_not_imp_left.mpr fun notGlobal => ?_
    have own : h.owner.sceneId? = begun.world.currentScene := inReach.resolve_left notGlobal
    simp [World.GivesTime, notGlobal, own, eq_comm]
  · have handles := sublist.map Prod.fst
    rw [List.map_map] at handles
    exact handles.nodup ((List.map_id _).symm ▸ filed.nodup_parkedHandles)
  · intro h outOfReach notRun notCancelled script found
    refine course.script?_of_untouched (fun driving member => ?_) found
    rcases driven h driving member with rfl | rfl | ⟨_, inReach⟩
    · exact notRun member
    · exact notCancelled member
    · exact outOfReach inReach

end Stage

/-- A game on a meadow with a barn, to which the herd is driven within a second.  It takes a second to
graze the meadow, and a second to doze in the barn. -/
def Definition.pasture : Definition where
  game := ⟨"Pasture", "pasture", "1", "meadow", none⟩
  scenes := [{
    id := "meadow"
    state := none
    layers := []
    actors := []
    verbs := [⟨⟨"graze", none, none⟩, [.wait 1, .setState .scene (some "grazed")]⟩]
    properties := ∅ }, {
    id := "barn"
    state := none
    layers := []
    actors := []
    verbs := [⟨⟨"doze", none, none⟩, [.wait 1, .setState .scene (some "awake")]⟩]
    properties := ∅ }]
  verbs := [⟨⟨"drive", none, none⟩, [.wait 1, .changeScene "barn"]⟩]
  properties := ∅

/-- The world with which the game on the pasture begins. -/
def World.pasture : World := Definition.pasture.build.toOption.getD .empty

theorem World.pasture_built : Definition.pasture.build = .ok World.pasture := rfl

/-- When the herd has been driven to the barn, whoever dozes there has got no time, and is not awake.
Whoever grazes has got the second, and the meadow is grazed, although it had been left before. -/
theorem World.pasture_paced :
    let begun := (Stage.ofWorld .pasture).play [(.runVerb (.scene "meadow") "graze" none, 2),
      (.runVerb (.scene "barn") "doze" none, 2), (.runVerb .world "drive" none, 2)]
    let doze : Handle := ⟨.scene "barn", "doze", none, none⟩
    Definition.pasture.build = .ok .pasture ∧ (begun.update 1 2).world.currentScene = some "barn" ∧
      (∃ deeds, Stage.Course none begun deeds (begun.update 1 2) none ∧
        ∀ driving, .take doze driving ∈ deeds → driving = .run ∨ driving = .cancel) ∧
      (begun.update 1 2).world.state? (.scene "barn") = some none ∧
      (begun.update 1 2).world.state? (.scene "meadow") = some (some "grazed") := by
  intro begun doze
  obtain ⟨_, deeds, course, _, driven, _⟩ :=
    (Stage.Opening.built .standard World.pasture_built).paced_update
      [(.runVerb (.scene "meadow") "graze" none, 2), (.runVerb (.scene "barn") "doze" none, 2),
        (.runVerb .world "drive" none, 2)] 1 2
  refine ⟨World.pasture_built, by decide +kernel, ⟨deeds, course, fun driving member => ?_⟩,
    by decide +kernel, by decide +kernel⟩
  rcases driven doze driving member with run | cancel | ⟨_, ownScene | sameScene⟩
  · exact .inl run
  · exact .inr cancel
  · cases ownScene
  · have onMeadow : begun.world.currentScene = some "meadow" := by decide +kernel
    exact absurd (sameScene.trans onMeadow) (by decide)

end Stagecraft
