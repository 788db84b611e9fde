import Mathlib.Data.List.Sort
import Stagecraft.Proofs.Editing
import Stagecraft.Proofs.Inspection
import Stagecraft.Proofs.Pacing

/-!
# The list of all verbs

The verbs of a world are kept in tables of the world, of its scenes and of their actors.  Listing
them walks through the tables in one order that the world determines, and the handles that are made
on the way lead back to the verbs.  The verbs to which time passes are gathered on another way, and
come in the same order.
-/

namespace Stagecraft

namespace World

variable {w : World}

theorem Consistent.keyed (consistent : w.Consistent) : w.Keyed := by
  intro id scene present
  obtain ⟨sameId, records⟩ := consistent.scenes id scene present
  exact ⟨sameId, fun name actor found => (records.filed name actor found).1⟩

/-! ## The order of the list -/

/-- Which of two verbs is listed first. -/
inductive Before (w : World) : Handle → Handle → Prop
  /-- Verbs of one owner are listed by their keys. -/
  | byKey {owner : Owner} {key key' : Key} (below : compare key key' = .lt) :
      Before w ⟨owner, key⟩ ⟨owner, key'⟩
  /-- The verbs of the world come first. -/
  | global {key : Key} {h : Handle} (other : h.owner ≠ .world) : Before w ⟨.world, key⟩ h
  /-- The verbs in different scenes are listed by the ids of the scenes. -/
  | byScene {h h' : Handle} {id id' : String} (home : h.owner.sceneId? = some id)
      (home' : h'.owner.sceneId? = some id') (below : compare id id' = .lt) : Before w h h'
  /-- The verbs of a scene come before those of its actors. -/
  | ownFirst {id actor : String} {key key' : Key} :
      Before w ⟨.scene id, key⟩ ⟨.actor id actor, key'⟩
  /-- The verbs of different actors are listed in the order in which the actors came. -/
  | byArrival {id first second : String} {scene : Scene} {key key' : Key}
      (present : w.scene? id = some scene) (earlier : [first, second].Sublist scene.actors.names) :
      Before w ⟨.actor id first, key⟩ ⟨.actor id second, key'⟩

/-- In a list without repetitions one thing is not both before and behind another. -/
theorem not_sublist_swap {α : Type} {list : List α} (apart : list.Nodup) {a b : α}
    (before : [a, b].Sublist list) : ¬ [b, a].Sublist list := by
  induction list with
  | nil => cases before
  | cons head rest ih =>
    obtain ⟨fresh, restApart⟩ := List.nodup_cons.mp apart
    intro behind
    cases before with
    | cons _ inRest =>
      cases behind with
      | cons _ behindInRest => exact ih restApart inRest behindInRest
      | cons_cons _ _ => exact fresh (inRest.subset (by simp))
    | cons_cons _ later =>
      cases behind with
      | cons _ behindInRest => exact fresh (behindInRest.subset (by simp))
      | cons_cons _ _ => exact fresh (later.subset (by simp))

/-- Of two verbs at most one comes before the other. -/
theorem Before.asymm {h h' : Handle} (before : w.Before h h') : ¬ w.Before h' h := by
  have swapped {κ : Type} [Ord κ] [Std.TransOrd κ] {a b : κ} (below : compare a b = .lt) :
      compare b a ≠ .lt := by
    rw [Std.OrientedCmp.gt_of_lt below]
    exact nofun
  intro after
  cases before <;> cases after
  case byKey.byArrival earlier => exact not_sublist_swap (Roster.distinct _) earlier earlier
  case byArrival.byKey _ earlier _ => exact not_sublist_swap (Roster.distinct _) earlier earlier
  case byArrival.byArrival present earlier _ present' earlier' =>
    cases present.symm.trans present'
    exact not_sublist_swap (Roster.distinct _) earlier earlier'
  all_goals first
    | exact swapped ‹_› ‹_›
    | simp_all [Owner.sceneId?]

instance : Std.Asymm w.Before := ⟨fun _ _ => Before.asymm⟩

/-! ## Walking through the tables -/

theorem pairwise_handlesOf (owner : Owner) (verbs : VerbTable) :
    (handlesOf owner verbs).Pairwise w.Before := by
  unfold handlesOf Table.keys
  rw [List.map_map, List.pairwise_map]
  exact verbs.ascending.imp .byKey

theorem Keyed.pairwise_sceneHandles (keyed : w.Keyed) (id : String) :
    (w.sceneHandles id).Pairwise w.Before := by
  unfold sceneHandles
  cases present : w.scene? id with
  | none => exact .nil
  | some scene =>
    refine List.pairwise_append.mpr ⟨pairwise_handlesOf _ _, ?_, ?_⟩
    · rw [List.pairwise_flatMap]
      refine ⟨fun actor _ => pairwise_handlesOf _ _, ?_⟩
      have arrivals : scene.actors.names.Pairwise fun first second =>
          [first, second].Sublist scene.actors.names :=
        List.pairwise_iff_forall_sublist.mpr fun earlier => earlier
      unfold Roster.names at arrivals
      unfold Roster.values
      rw [List.pairwise_map] at arrivals ⊢
      refine arrivals.imp_of_mem fun {a b} memberA memberB earlier h listed h' listed' => ?_
      have own : ∀ entry ∈ scene.actors.entries, entry.2.id = entry.1 := fun entry member =>
        (keyed id scene present).2 entry.1 entry.2
          ((Roster.get?_eq_some_iff scene.actors entry.1 entry.2).mpr member)
      rw [own a memberA] at listed
      rw [own b memberB] at listed'
      obtain ⟨key, _, rfl⟩ := List.mem_map.mp listed
      obtain ⟨key', _, rfl⟩ := List.mem_map.mp listed'
      exact .byArrival present earlier
    · intro h own h' ofActor
      obtain ⟨key, _, rfl⟩ := List.mem_map.mp own
      obtain ⟨actor, _, listed⟩ := List.mem_flatMap.mp ofActor
      obtain ⟨key', _, rfl⟩ := List.mem_map.mp listed
      exact .ownFirst

/-- The list of all verbs is in order. -/
theorem Keyed.pairwise_handles (keyed : w.Keyed) : w.handles.Pairwise w.Before := by
  unfold handles
  refine List.pairwise_append.mpr ⟨pairwise_handlesOf .world w.verbs, ?_, ?_⟩
  · rw [List.pairwise_flatMap]
    refine ⟨fun id _ => keyed.pairwise_sceneHandles id, ?_⟩
    unfold Table.keys
    rw [List.pairwise_map]
    refine w.scenes.ascending.imp fun below h listed h' listed' => ?_
    have home := sceneId?_of_mem_sceneHandles listed
    exact .byScene home (sceneId?_of_mem_sceneHandles listed') below
  · intro h isGlobal h' inScene
    obtain ⟨key, _, rfl⟩ := List.mem_map.mp isGlobal
    obtain ⟨id, _, listed⟩ := List.mem_flatMap.mp inScene
    exact .global (owner_ne_world_of_mem_sceneHandles listed)

/-! ## The verbs to which time passes -/

instance (h : Handle) : Decidable (w.GivesTime h) :=
  inferInstanceAs (Decidable (h.owner = .world ∨ h.owner.sceneId? = w.currentScene))

/-- Time passes to every parked verb of the world. -/
theorem filter_handlesOf_world :
    (handlesOf .world w.verbs).filter (fun h => w.isParked h ∧ w.GivesTime h) =
      (w.verbs.parkedKeys.map (Handle.mk .world)).filter w.isParked := by
  have parked : ∀ entry ∈ w.verbs.entries,
      w.isParked ⟨.world, entry.1⟩ = entry.2.isParked := by
    intro entry member
    have found := (Table.get?_eq_some_iff w.verbs entry.1 entry.2).mpr member
    simp [isParked, script?, verbs?, found]
  have givesTime : ∀ key, w.GivesTime ⟨.world, key⟩ := fun _ => .inl rfl
  unfold handlesOf Table.keys VerbTable.parkedKeys
  simp only [List.map_map, List.filter_map, List.filter_filter]
  congr 1
  refine List.filter_congr fun entry member => ?_
  simp [parked entry member, givesTime]

/-- Of the verbs in scenes time passes to those of the current one. -/
theorem filter_sceneHandles (id : String) :
    (w.sceneHandles id).filter (fun h => w.isParked h ∧ w.GivesTime h) =
      if w.currentScene = some id then (w.sceneHandles id).filter w.isParked else [] := by
  have givesTime : ∀ h ∈ w.sceneHandles id, w.GivesTime h ↔ w.currentScene = some id := by
    intro h listed
    have other := owner_ne_world_of_mem_sceneHandles listed
    have home := sceneId?_of_mem_sceneHandles listed
    simp [GivesTime, other, home, eq_comm]
  split
  · next current =>
    refine List.filter_congr fun h listed => ?_
    simp [(givesTime h listed).mpr current]
  · next elsewhere =>
    refine List.filter_eq_nil_iff.mpr fun h listed => ?_
    simp [mt (givesTime h listed).mp elsewhere]

theorem filter_flatMap_sceneHandles :
    (w.scenes.keys.flatMap w.sceneHandles).filter (fun h => w.isParked h ∧ w.GivesTime h) =
      (match w.currentScene with
        | some id => w.sceneHandles id
        | none => []).filter w.isParked := by
  rw [List.filter_flatMap]
  simp only [filter_sceneHandles]
  cases current : w.currentScene with
  | none => simp
  | some id =>
    simp only [Option.some.injEq]
    have elsewhere : ∀ ids : List String, id ∉ ids →
        (ids.flatMap fun other =>
          if id = other then (w.sceneHandles other).filter w.isParked else []) = [] := by
      refine fun ids absent => List.flatMap_eq_nil_iff.mpr fun other member => if_neg ?_
      rintro rfl
      exact absent member
    by_cases isScene : id ∈ w.scenes.keys
    · obtain ⟨before, after, parts⟩ := List.append_of_mem isScene
      have apart := Table.nodup_keys w.scenes
      rw [parts, List.nodup_append, List.nodup_cons] at apart
      obtain ⟨_, ⟨notAfter, _⟩, notBefore⟩ := apart
      have absent : id ∉ before := fun member => notBefore id member id (by simp) rfl
      rw [parts, List.flatMap_append, List.flatMap_cons, elsewhere before absent,
        elsewhere after notAfter]
      simp
    · have noScene : w.scene? id = none := by
        refine Option.eq_none_iff_forall_ne_some.mpr fun scene present => isScene ?_
        exact List.mem_map_of_mem ((Table.get?_eq_some_iff w.scenes id scene).mp present)
      have vacant : w.sceneHandles id = [] := by simp [sceneHandles, noScene]
      rw [elsewhere _ isScene, vacant]
      rfl

/-- The parked verbs to which time passes are those of the list of all, in its order. -/
theorem parkedHandles_eq_filter :
    w.parkedHandles = w.handles.filter fun h => w.isParked h ∧ w.GivesTime h := by
  unfold handles
  rw [List.filter_append, filter_handlesOf_world, filter_flatMap_sceneHandles,
    ← List.filter_append]
  rfl

/-! ## Exactness -/

/-- How the verbs of a world are listed. -/
structure ListsVerbs (w : World) : Prop where
  /-- Exactly the verbs that are found are listed. -/
  complete : ∀ h, h ∈ w.handles ↔ (w.script? h).isSome
  /-- None is listed twice. -/
  once : w.handles.Nodup
  /-- They are listed in order. -/
  ordered : w.handles.Pairwise w.Before
  /-- There is one such list only. -/
  sole : ∀ list : List Handle, (∀ h, h ∈ list ↔ (w.script? h).isSome) → list.Pairwise w.Before →
    list = w.handles
  /-- The handles lead one after the other to the verbs in the tables. -/
  found : w.handles.map w.script? = w.scripts.map some
  /-- The parked verbs to which time passes are those of the list, in its order. -/
  parked : w.parkedHandles = w.handles.filter fun h => w.isParked h ∧ w.GivesTime h

/-- In a consistent world all verbs are listed, each once and in order. -/
theorem Consistent.listsVerbs (consistent : w.Consistent) : w.ListsVerbs := by
  have keyed := consistent.keyed
  have ordered := keyed.pairwise_handles
  have complete : ∀ h, h ∈ w.handles ↔ (w.script? h).isSome := by
    intro h
    constructor
    · intro listed
      have inMap : w.script? h ∈ w.scripts.map some := by
        rw [← keyed.map_script?_handles]
        exact List.mem_map_of_mem listed
      obtain ⟨script, _, same⟩ := List.mem_map.mp inMap
      simp [← same]
    · intro isThere
      obtain ⟨script, found⟩ := Option.isSome_iff_exists.mp isThere
      exact keyed.mem_handles found
  exact {
    complete
    once := ordered.nodup
    ordered
    sole := fun list same inOrder =>
      inOrder.eq_of_mem_iff ordered fun h => (same h).trans (complete h).symm
    found := keyed.map_script?_handles
    parked := parkedHandles_eq_filter }

end World

/-- Somebody who is on the main layer. -/
def ActorDefinition.worker (id : String) (verbs : List VerbDefinition) : ActorDefinition :=
  { (default : ActorDefinition) with id, verbs, layer := "main", visible := true }

/-- A game in a smithy, in which the smith is there before the apprentice, and with a loft above
it. -/
def Definition.forge : Definition where
  game := ⟨"Forge", "forge", "1", "smithy", none⟩
  scenes := [{
    id := "smithy"
    state := none
    layers := [⟨"main", true, false⟩]
    actors := [
      .worker "smith" [⟨⟨"strike", none, none⟩, [.wait 1]⟩, ⟨⟨"call", none, none⟩, [.wait 1]⟩],
      .worker "apprentice" [⟨⟨"blow", none, none⟩, [.wait 1]⟩]]
    verbs := [⟨⟨"init", none, none⟩, []⟩]
    properties := ∅ }, {
    id := "loft"
    state := none
    layers := []
    actors := []
    verbs := [⟨⟨"creak", none, none⟩, [.wait 1]⟩]
    properties := ∅ }]
  verbs := [⟨⟨"work", none, none⟩, []⟩]
  properties := ∅

/-- The world with which the game in the smithy begins. -/
def World.forge : World := Definition.forge.build.toOption.getD .empty

theorem World.forge_built : Definition.forge.build = .ok World.forge := rfl

/-- The verbs of the smithy while both work there and the loft creaks.  The smith comes first, who
was there first, and of the parked verbs that in the loft is left out. -/
theorem World.forge_listed :
    let smith := Owner.actor "smithy" "smith"
    let apprentice := Owner.actor "smithy" "apprentice"
    let begun := ((Stage.ofWorld .forge).play [(.runVerb apprentice "blow" none, 1),
      (.runVerb (.scene "loft") "creak" none, 1), (.runVerb smith "strike" none, 1)]).world
    begun.Consistent ∧
      begun.handles = [⟨.world, "work", none, none⟩, ⟨.scene "loft", "creak", none, none⟩,
        ⟨.scene "smithy", "init", none, none⟩, ⟨smith, "call", none, none⟩,
        ⟨smith, "strike", none, none⟩, ⟨apprentice, "blow", none, none⟩] ∧
      begun.parkedHandles = [⟨smith, "strike", none, none⟩, ⟨apprentice, "blow", none, none⟩] ∧
      begun.isParked ⟨.scene "loft", "creak", none, none⟩ ∧
      begun.ListsVerbs := by
  intro smith apprentice begun
  have consistent : begun.Consistent :=
    Stage.consistent_play (Definition.consistent_build forge_built) _
  exact ⟨consistent, by decide +kernel, by decide +kernel, by decide +kernel,
    consistent.listsVerbs⟩

end Stagecraft
