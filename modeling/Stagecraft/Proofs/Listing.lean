import Stagecraft.Proofs.Membership
import Stagecraft.Proofs.Rest

/-!
# Every verb once

The verbs of the current scene and of its actors are listed under the ids of the actors.  In every
game an actor stands under its own id, so no verb is listed twice.
-/

namespace Stagecraft

variable {driver : Option Handle} {s s' : Stage} {deeds : List Deed} {leaf : Leaf}

/-! ## Actors under their own ids -/

/-- Whether every actor of a world stands under its own id. -/
def World.Filed (w : World) : Prop :=
  ∀ scene id actor, w.actor? scene id = some actor → actor.id = id

theorem World.Keyed.filed {w : World} (keyed : w.Keyed) : w.Filed := by
  intro scene id actor found
  obtain ⟨place, present, isThere⟩ := Option.bind_eq_some_iff.mp found
  exact (keyed scene place present).2 id actor isThere

theorem World.Consistent.filed {w : World} (consistent : w.Consistent) : w.Filed := by
  intro scene id actor found
  obtain ⟨place, present, isThere⟩ := Option.bind_eq_some_iff.mp found
  exact ((consistent.scenes scene place present).2.filed id actor isThere).1

/-- No deed gives an actor another id. -/
theorem Deed.id_onActor (deed : Deed) (w : World) (scene id : String) (a : Actor) :
    (deed.onActor w scene id a).id = a.id := by
  cases deed with
  | setState | setProperty | dress | place | animate | playSound | install | putBack | take =>
    simp only [onActor]
    split <;> rfl
  | choose home other dialog index =>
    obtain ⟨dialogs, same⟩ := a.exists_chosen_eq dialog index
    simp only [onActor, same]
    split <;> rfl
  | notice home other =>
    obtain ⟨inside, same⟩ := a.exists_noticed_eq (w.noticeable? scene id)
    simp only [onActor, same]
    split <;> rfl
  | setPlayer player =>
    simp only [onActor]
    split
    · split
      · rfl
      · split <;> rfl
    · rfl
  | _ => rfl

theorem World.Filed.apply (filed : s.world.Filed) (deed : Deed) : (deed.apply s).world.Filed := by
  intro scene id actor found
  obtain ⟨_, before, isThere, rfl⟩ := (deed.actor?_apply_eq_some_iff s).mp found
  exact (deed.id_onActor s.world scene id before).trans (filed scene id before isThere)

/-- Whatever is done, actors stay under their own ids. -/
theorem Stage.Course.filed (course : Course driver s deeds s' leaf) (filed : s.world.Filed) :
    s'.world.Filed := by
  rw [course.eq_applyAll]
  clear course
  induction deeds generalizing s with
  | nil => exact filed
  | cons deed rest ih => exact ih (filed.apply deed)

/-- In every game actors stand under their own ids. -/
theorem Stage.Opening.filed_play (opening : s.Opening) (moves : List (Move × Nat)) :
    (s.play moves).world.Filed := by
  obtain ⟨deeds, course⟩ := s.play_course moves
  apply course.filed
  cases opening with
  | built settings built => exact (Definition.consistent_build built).filed
  | @loaded path text w s settings parsed keyed taken =>
    unfold loadText at taken
    rw [parsed] at taken
    cases restored : (Stage.ofWorld w).restore with
    | error reason =>
      simp only [restored] at taken
      cases taken
    | ok t =>
      simp only [restored] at taken
      cases taken
      obtain ⟨deeds, reentered⟩ := Stage.restore_course none restored
      exact reentered.filed keyed.filed

/-! ## Lists of verbs -/

/-- The keys of a table are different. -/
theorem Table.nodup_keys {κ ν : Type} [Ord κ] [Std.TransOrd κ] (t : Table κ ν) :
    t.keys.Nodup := by
  have ascending := t.ascending
  unfold keys List.Nodup
  rw [List.pairwise_map]
  refine ascending.imp fun {a b} below same => ?_
  have equal : compare b.1 b.1 = .eq := Std.ReflCmp.compare_self
  rw [same, equal] at below
  cases below

/-- Different keys name different verbs of an owner. -/
theorem Handle.nodup_map_mk (owner : Owner) {keys : List Key} (apart : keys.Nodup) :
    (keys.map fun key => Handle.mk owner key).Nodup := by
  unfold List.Nodup
  rw [List.pairwise_map]
  refine apart.imp fun {a b} other same => ?_
  cases same
  exact other rfl

namespace World

variable {w : World}

theorem nodup_handlesOf (owner : Owner) (verbs : VerbTable) : (handlesOf owner verbs).Nodup :=
  Handle.nodup_map_mk owner (Table.nodup_keys verbs)

theorem owner_of_mem_handlesOf {owner : Owner} {verbs : VerbTable} {h : Handle}
    (listed : h ∈ handlesOf owner verbs) : h.owner = owner := by
  obtain ⟨key, _, rfl⟩ := List.mem_map.mp listed
  rfl

/-- The verbs of a scene and of its actors are not the world's. -/
theorem owner_ne_world_of_mem_sceneHandles {id : String} {h : Handle}
    (listed : h ∈ w.sceneHandles id) : h.owner ≠ .world := by
  unfold sceneHandles at listed
  split at listed
  · cases listed
  · rcases List.mem_append.mp listed with own | ofActor
    · rw [owner_of_mem_handlesOf own]
      exact nofun
    · obtain ⟨actor, _, own⟩ := List.mem_flatMap.mp ofActor
      rw [owner_of_mem_handlesOf own]
      exact nofun

/-- The verbs of a scene and of its actors are listed once each. -/
theorem Filed.nodup_sceneHandles (filed : w.Filed) (id : String) : (w.sceneHandles id).Nodup := by
  unfold sceneHandles
  cases present : w.scene? id with
  | none => exact .nil
  | some scene =>
    have apart : scene.actors.values.Pairwise fun a b => a.id ≠ b.id := by
      have names := scene.actors.distinct
      unfold List.Nodup at names
      unfold Roster.values
      rw [List.pairwise_map] at names ⊢
      refine names.imp_of_mem fun {a b} memberA memberB apart => ?_
      have own : ∀ entry ∈ scene.actors.entries, entry.2.id = entry.1 := by
        intro entry member
        have inRoster := (Roster.get?_eq_some_iff scene.actors entry.1 entry.2).mpr member
        exact filed id entry.1 entry.2 (by simp [World.actor?, present, Scene.actor?, inRoster])
      rwa [own a memberA, own b memberB]
    refine List.nodup_append.mpr ⟨nodup_handlesOf _ _, ?_, ?_⟩
    · unfold List.Nodup
      rw [List.pairwise_flatMap]
      refine ⟨fun actor _ => nodup_handlesOf _ _, apart.imp fun {a b} other x isX y isY same => ?_⟩
      have owners := (owner_of_mem_handlesOf isX).symm.trans
        ((congrArg Handle.owner same).trans (owner_of_mem_handlesOf isY))
      injection owners with _ sameId
      exact other sameId
    · intro x isX y isY same
      obtain ⟨actor, _, listed⟩ := List.mem_flatMap.mp isY
      have owners := (owner_of_mem_handlesOf isX).symm.trans
        ((congrArg Handle.owner same).trans (owner_of_mem_handlesOf listed))
      cases owners

/-- The parked verbs to which time passes are listed once each. -/
theorem Filed.nodup_parkedHandles (filed : w.Filed) : w.parkedHandles.Nodup := by
  unfold parkedHandles
  refine List.Pairwise.filter _ (List.nodup_append.mpr ⟨?_, ?_, ?_⟩)
  · have parked : w.verbs.parkedKeys.Nodup :=
      (List.filter_sublist.map Prod.fst).nodup (Table.nodup_keys w.verbs)
    exact Handle.nodup_map_mk .world parked
  · split
    · exact filed.nodup_sceneHandles _
    · exact .nil
  · intro x isX y isY same
    obtain ⟨key, _, rfl⟩ := List.mem_map.mp isX
    subst same
    split at isY
    · exact owner_ne_world_of_mem_sceneHandles isY rfl
    · cases isY

end World

end Stagecraft
