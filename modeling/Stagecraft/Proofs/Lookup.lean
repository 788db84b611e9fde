import Stagecraft.Play.Stage

/-!
# Looking things up after a change

A change of the world is seen where it was made and nowhere else.  Verbs are looked up through their
owner, so each way of changing an owner comes with the verbs that are found afterwards.
-/

namespace Stagecraft

/-! ## The first of a kind -/

/-- Whether something is the first in a list that is of a kind. -/
def FirstOf {α : Type} (kind : α → Prop) (list : List α) (a : α) : Prop :=
  ∃ before after, list = before ++ a :: after ∧ kind a ∧ ∀ b ∈ before, ¬ kind b

theorem FirstOf.mem {α : Type} {kind : α → Prop} {list : List α} {a : α}
    (first : FirstOf kind list a) : a ∈ list := by
  obtain ⟨before, after, rfl, _⟩ := first
  simp

theorem List.find?_eq_some_iff_firstOf {α : Type} (kind : α → Prop) [DecidablePred kind]
    (list : List α) (a : α) : list.find? (kind ·) = some a ↔ FirstOf kind list a := by
  simp [List.find?_eq_some_iff_append, FirstOf, and_left_comm, exists_and_left]

theorem List.findSome?_eq_some_iff_firstOf {α β : Type} (look : α → Option β) (list : List α)
    (b : β) :
    list.findSome? look = some b ↔
      ∃ a, FirstOf (fun a => (look a).isSome) list a ∧ look a = some b := by
  rw [List.findSome?_eq_some_iff]
  constructor
  · rintro ⟨before, a, after, same, finds, passed⟩
    exact ⟨a, ⟨before, after, same, by simp [finds], by simpa using passed⟩, finds⟩
  · rintro ⟨a, ⟨before, after, same, _, passed⟩, finds⟩
    exact ⟨before, a, after, same, finds, by simpa using passed⟩

/-! ## Tables -/

namespace Table

variable {κ ν : Type} [Ord κ] [Std.LawfulEqOrd κ]

private theorem lookup_eq_some_iff {entries : List (κ × ν)}
    (ascending : entries.Pairwise fun a b => compare a.1 b.1 = .lt) (key : κ) (value : ν) :
    lookup key entries = some value ↔ (key, value) ∈ entries := by
  induction entries with
  | nil => simp [lookup]
  | cons head rest ih =>
    obtain ⟨k, v⟩ := head
    obtain ⟨above, tail⟩ := List.pairwise_cons.mp ascending
    by_cases same : compare key k = .eq
    · obtain rfl := Std.LawfulEqCmp.eq_of_compare same
      have notLater : (key, value) ∉ rest := by
        intro later
        have := above _ later
        simp at this
      simp [lookup, notLater, eq_comm]
    · have apart : key ≠ k := by
        rintro rfl
        exact same Std.ReflCmp.compare_self
      simp [lookup, same, apart, ih tail]

/-- A key has a value exactly if the two are an entry. -/
theorem get?_eq_some_iff (t : Table κ ν) (key : κ) (value : ν) :
    t.get? key = some value ↔ (key, value) ∈ t.entries :=
  lookup_eq_some_iff t.ascending key value

/-- Only what a change does with the value of the key counts. -/
theorem modify_congr {t : Table κ ν} {key : κ} {first second : ν → ν}
    (same : ∀ value, t.get? key = some value → first value = second value) :
    t.modify key first = t.modify key second := by
  apply Table.ext
  refine List.map_congr_left fun entry member => ?_
  split
  · next here =>
    have found := (t.get?_eq_some_iff entry.1 entry.2).mpr member
    rw [← Std.LawfulEqCmp.eq_of_compare here] at found
    rw [same _ found]
  · rfl

omit [Std.LawfulEqOrd κ] in
theorem modify_id (t : Table κ ν) (key : κ) : t.modify key (fun value => value) = t := by
  apply Table.ext
  simp [modify]

omit [Std.LawfulEqOrd κ] in
/-- Two changes of one value are one change. -/
theorem modify_modify (t : Table κ ν) (key : κ) (first second : ν → ν) :
    (t.modify key first).modify key second = t.modify key (second ∘ first) := by
  apply Table.ext
  simp only [modify, List.map_map]
  refine List.map_congr_left fun entry _ => ?_
  simp only [Function.comp]
  split <;> simp_all

private theorem place_filter [Std.TransOrd κ] {key : κ} {value : ν} {entries : List (κ × ν)}
    (ascending : entries.Pairwise fun a b => compare a.1 b.1 = .lt)
    (member : (key, value) ∈ entries) :
    place key value (entries.filter fun entry => compare key entry.1 != .eq) = entries := by
  induction entries with
  | nil => simp at member
  | cons head rest ih =>
    obtain ⟨k, v⟩ := head
    obtain ⟨above, tail⟩ := List.pairwise_cons.mp ascending
    rcases List.mem_cons.mp member with here | later
    · obtain ⟨rfl, rfl⟩ := Prod.mk.inj here
      have kept : (rest.filter fun entry => compare key entry.1 != .eq) = rest := by
        refine List.filter_eq_self.mpr fun entry inRest => ?_
        simp [above entry inRest]
      rw [List.filter_cons_of_neg (by simp), kept]
      cases rest with
      | nil => rfl
      | cons next more => simp [place, above next (List.mem_cons_self ..)]
    · have greater : compare key k = .gt := Std.OrientedCmp.gt_of_lt (above _ later)
      rw [List.filter_cons_of_pos (by simp [greater])]
      simp [place, greater, ih tail later]

/-- Taking a value away and giving it back changes nothing. -/
theorem insert_erase [Std.TransOrd κ] {t : Table κ ν} {key : κ} {value : ν}
    (found : t.get? key = some value) : (t.erase key).insert key value = t :=
  Table.ext (place_filter t.ascending ((t.get?_eq_some_iff key value).mp found))

omit [Std.LawfulEqOrd κ] in
/-- A key without a value is none of the keys. -/
private theorem compare_ne_of_lookup {key : κ} {entries : List (κ × ν)}
    (absent : lookup key entries = none) : ∀ entry ∈ entries, compare key entry.1 ≠ .eq := by
  induction entries with
  | nil => simp
  | cons head rest ih =>
    simp only [lookup] at absent
    split at absent
    · cases absent
    · next other => simpa using ⟨other, fun k v => ih absent (k, v)⟩

omit [Std.LawfulEqOrd κ] in
private theorem filter_place [Std.TransOrd κ] (key : κ) (value : ν) (entries : List (κ × ν)) :
    ((place key value entries).filter fun entry => compare key entry.1 != .eq) =
      entries.filter fun entry => compare key entry.1 != .eq := by
  induction entries with
  | nil => simp [place]
  | cons head rest ih =>
    obtain ⟨k, v⟩ := head
    unfold place
    split
    · rw [List.filter_cons_of_neg (by simp)]
    · next same => rw [List.filter_cons_of_neg (by simp), List.filter_cons_of_neg (by simp [same])]
    · rw [List.filter_cons, List.filter_cons, ih]

/-- Giving a value to a key and taking it away is taking away the value that the key has. -/
theorem erase_insert_self [Std.TransOrd κ] (t : Table κ ν) (key : κ) (value : ν) :
    (t.insert key value).erase key = t.erase key :=
  Table.ext (filter_place key value t.entries)

/-- Giving a value to a key is the same when the one that the key had has been taken away. -/
theorem insert_erase_self [Std.TransOrd κ] (t : Table κ ν) (key : κ) (value : ν) :
    (t.erase key).insert key value = t.insert key value := by
  rw [← t.erase_insert_self key value]
  exact insert_erase (by simp)

omit [Std.LawfulEqOrd κ] in
/-- Taking the value of a key away that has none changes nothing. -/
theorem erase_eq_self {t : Table κ ν} {key : κ} (absent : t.get? key = none) :
    t.erase key = t := by
  apply Table.ext
  apply List.filter_eq_self.mpr
  intro entry member
  simpa using compare_ne_of_lookup absent entry member

/-- Giving a value to a key that has none and taking it away changes nothing. -/
theorem erase_insert [Std.TransOrd κ] {t : Table κ ν} {key : κ} (value : ν)
    (absent : t.get? key = none) : (t.insert key value).erase key = t :=
  (t.erase_insert_self key value).trans (erase_eq_self absent)

/-- An erased key is not in the table. -/
theorem contains_erase_self [Std.TransOrd κ] (t : Table κ ν) (key : κ) :
    (t.erase key).contains key = false := by
  simp [contains, get?_erase]

end Table

/-! ## Rosters -/

namespace Roster

variable {ν : Type}

private theorem find_eq_some_iff {entries : List (String × ν)}
    (distinct : (entries.map (·.1)).Nodup) (name : String) (value : ν) :
    find name entries = some value ↔ (name, value) ∈ entries := by
  induction entries with
  | nil => simp [find]
  | cons head rest ih =>
    obtain ⟨n, v⟩ := head
    simp only [List.map_cons, List.nodup_cons] at distinct
    by_cases same : name = n
    · subst same
      have notLater : (name, value) ∉ rest := fun later =>
        distinct.1 (List.mem_map_of_mem later)
      simp [find, notLater, eq_comm]
    · simp [find, same, ih distinct.2]

/-- A name has a value exactly if the two are an entry. -/
theorem get?_eq_some_iff (r : Roster ν) (name : String) (value : ν) :
    r.get? name = some value ↔ (name, value) ∈ r.entries :=
  find_eq_some_iff r.distinct name value

/-- Only what a change does with the value of the name counts. -/
theorem modify_congr {r : Roster ν} {name : String} {first second : ν → ν}
    (same : ∀ value, r.get? name = some value → first value = second value) :
    r.modify name first = r.modify name second := by
  apply Roster.ext
  refine List.map_congr_left fun entry member => ?_
  split
  · next here =>
    have found := (r.get?_eq_some_iff entry.1 entry.2).mpr member
    rw [← here] at found
    rw [same _ found]
  · rfl

theorem modify_id (r : Roster ν) (name : String) : r.modify name (fun value => value) = r := by
  apply Roster.ext
  simp [modify]

/-- Two changes of one value are one change. -/
theorem modify_modify (r : Roster ν) (name : String) (first second : ν → ν) :
    (r.modify name first).modify name second = r.modify name (second ∘ first) := by
  apply Roster.ext
  simp only [modify, List.map_map]
  refine List.map_congr_left fun entry _ => ?_
  simp only [Function.comp]
  split <;> simp_all

end Roster

/-! ## Worlds -/

namespace World

/-- A changed scene is seen under its id alone. -/
theorem scene?_modifyScene (w : World) (id other : String) (change : Scene → Scene) :
    (w.modifyScene id change).scene? other =
      if other = id then (w.scene? other).map change else w.scene? other := by
  simp only [scene?, modifyScene, Table.get?_modify, Std.compare_eq_iff_eq]

/-- Changing a scene brings none in and takes none away. -/
theorem isSome_scene?_modifyScene (w : World) (id other : String) (change : Scene → Scene) :
    ((w.modifyScene id change).scene? other).isSome = (w.scene? other).isSome := by
  rw [scene?_modifyScene]
  split <;> simp

/-- An actor is looked up in its scene. -/
theorem actor?_of_found {w : World} {scene : String} {place : Scene}
    (found : w.scene? scene = some place) (id : String) : w.actor? scene id = place.actor? id := by
  rw [actor?, found]
  rfl

/-- A changed actor is seen under its id in its scene alone. -/
theorem actor?_modifyActor (w : World) (scene id otherScene other : String)
    (change : Actor → Actor) :
    (w.modifyActor scene id change).actor? otherScene other =
      if otherScene = scene ∧ other = id then (w.actor? otherScene other).map change
      else w.actor? otherScene other := by
  simp only [actor?, modifyActor, scene?_modifyScene]
  by_cases sameScene : otherScene = scene
  · cases h : w.scene? otherScene with
    | none => simp
    | some found => simp [sameScene, Scene.actor?, Roster.get?_modify]
  · simp [sameScene]

/-- Changing an actor changes no scene's own verbs. -/
theorem map_verbs_scene?_modifyActor (w : World) (scene id other : String)
    (change : Actor → Actor) :
    ((w.modifyActor scene id change).scene? other).map (·.verbs) =
      (w.scene? other).map (·.verbs) := by
  simp only [modifyActor, scene?_modifyScene]
  split
  · cases w.scene? other <;> rfl
  · rfl

/-- A changed table of verbs is seen at its owner alone. -/
theorem verbs?_modifyVerbs (w : World) (owner other : Owner) (change : VerbTable → VerbTable) :
    (w.modifyVerbs owner change).verbs? other =
      if other = owner then (w.verbs? other).map change else w.verbs? other := by
  cases owner with
  | world => cases other <;> simp [modifyVerbs, verbs?, scene?, actor?]
  | scene scene =>
    cases other with
    | world => simp [modifyVerbs, verbs?, modifyScene]
    | scene other =>
      simp only [modifyVerbs, verbs?, scene?_modifyScene, Owner.scene.injEq]
      split
      · cases w.scene? other <;> rfl
      · rfl
    | actor otherScene other =>
      simp only [modifyVerbs, verbs?, actor?, scene?_modifyScene, reduceCtorEq, if_false]
      split
      · cases w.scene? otherScene <;> rfl
      · rfl
  | actor scene id =>
    cases other with
    | world => simp [modifyVerbs, verbs?, modifyActor, modifyScene]
    | scene other =>
      simp only [modifyVerbs, verbs?, reduceCtorEq, if_false]
      exact map_verbs_scene?_modifyActor w scene id other _
    | actor otherScene other =>
      simp only [modifyVerbs, verbs?, actor?_modifyActor, Owner.actor.injEq]
      split
      · cases w.actor? otherScene other <;> rfl
      · rfl

/-- Whether an owner exists does not depend on the verbs of another or its own. -/
@[simp] theorem isSome_verbs?_modifyVerbs (w : World) (owner other : Owner)
    (change : VerbTable → VerbTable) :
    ((w.modifyVerbs owner change).verbs? other).isSome = (w.verbs? other).isSome := by
  rw [verbs?_modifyVerbs]
  split <;> simp

/-- Two changes of one table of verbs are one change. -/
theorem modifyVerbs_modifyVerbs (w : World) (owner : Owner)
    (first second : VerbTable → VerbTable) :
    (w.modifyVerbs owner first).modifyVerbs owner second =
      w.modifyVerbs owner (second ∘ first) := by
  cases owner with
  | world => rfl
  | scene scene => simp [modifyVerbs, modifyScene, Table.modify_modify, Function.comp_def]
  | actor scene id =>
    simp [modifyVerbs, modifyActor, modifyScene, Table.modify_modify, Roster.modify_modify,
      Function.comp_def]

/-- Two changes of one scene are one change. -/
theorem modifyScene_modifyScene (w : World) (id : String) (first second : Scene → Scene) :
    (w.modifyScene id first).modifyScene id second = w.modifyScene id (second ∘ first) := by
  simp [modifyScene, Table.modify_modify]

/-- Only what a change does with the scene of the id counts. -/
theorem modifyScene_congr {w : World} {id : String} {first second : Scene → Scene}
    (same : ∀ s, w.scene? id = some s → first s = second s) :
    w.modifyScene id first = w.modifyScene id second := by
  unfold modifyScene
  rw [Table.modify_congr same]

/-- What a change makes of the scene of the id may take its place. -/
theorem modifyScene_of_found {w : World} {id : String} {place : Scene}
    (found : w.scene? id = some place) (change : Scene → Scene) :
    w.modifyScene id change = w.modifyScene id fun _ => change place := by
  refine modifyScene_congr fun s isThere => ?_
  cases found.symm.trans isThere
  rfl

/-- Only what a change does with the actor of the id counts. -/
theorem modifyActor_congr {w : World} {scene id : String} {first second : Actor → Actor}
    (same : ∀ a, w.actor? scene id = some a → first a = second a) :
    w.modifyActor scene id first = w.modifyActor scene id second := by
  refine modifyScene_congr fun s found => ?_
  have inScene : ∀ a, s.actors.get? id = some a → first a = second a := by
    intro a present
    exact same a (by simp [actor?, found, Scene.actor?, present])
  rw [Roster.modify_congr inScene]

theorem modifyScene_id (w : World) (id : String) : w.modifyScene id (fun s => s) = w := by
  unfold modifyScene
  rw [Table.modify_id]

/-- Only what a change does with the owner's table of verbs counts. -/
theorem modifyVerbs_congr {w : World} {owner : Owner} {first second : VerbTable → VerbTable}
    (same : ∀ verbs, w.verbs? owner = some verbs → first verbs = second verbs) :
    w.modifyVerbs owner first = w.modifyVerbs owner second := by
  cases owner with
  | world => simp [modifyVerbs, same w.verbs rfl]
  | scene scene =>
    refine modifyScene_congr fun s found => ?_
    rw [same s.verbs (by simp [verbs?, found])]
  | actor scene id =>
    refine modifyActor_congr fun a found => ?_
    rw [same a.verbs (by simp [verbs?, found])]

/-- A change that leaves an owner's table of verbs alone leaves the world alone. -/
theorem modifyVerbs_eq_self {w : World} {owner : Owner} {change : VerbTable → VerbTable}
    (still : ∀ verbs, w.verbs? owner = some verbs → change verbs = verbs) :
    w.modifyVerbs owner change = w := by
  refine (modifyVerbs_congr still).trans ?_
  cases owner with
  | world => rfl
  | scene scene => exact modifyScene_id w scene
  | actor scene id =>
    unfold modifyVerbs modifyActor
    simp [Roster.modify_id, modifyScene_id]

/-! ## Verbs of changed worlds -/

/-- A change of a scene that keeps its verbs and those of its actors keeps all verbs. -/
theorem verbs?_modifyScene {w : World} {id : String} {change : Scene → Scene}
    (ownVerbs : ∀ s, w.scene? id = some s → (change s).verbs = s.verbs)
    (actorVerbs : ∀ s, w.scene? id = some s → ∀ actor,
      ((change s).actor? actor).map (·.verbs) = (s.actor? actor).map (·.verbs)) :
    (w.modifyScene id change).verbs? = w.verbs? := by
  funext owner
  cases owner with
  | world => rfl
  | scene other =>
    simp only [verbs?, scene?_modifyScene]
    split
    · next same =>
      subst same
      cases found : w.scene? other with
      | none => rfl
      | some s => simp [ownVerbs s found]
    · rfl
  | actor scene other =>
    simp only [verbs?, actor?, scene?_modifyScene]
    split
    · next same =>
      subst same
      cases found : w.scene? scene with
      | none => rfl
      | some s => simpa using actorVerbs s found other
    · rfl

/-- A change of an actor that keeps its verbs keeps all verbs. -/
theorem verbs?_modifyActor {w : World} {scene id : String} {change : Actor → Actor}
    (keeps : ∀ a, w.actor? scene id = some a → (change a).verbs = a.verbs) :
    (w.modifyActor scene id change).verbs? = w.verbs? := by
  refine verbs?_modifyScene (fun _ _ => rfl) fun s found actor => ?_
  simp only [Scene.actor?, Roster.get?_modify]
  split
  · next same =>
    subst same
    cases present : s.actors.get? actor with
    | none => rfl
    | some a => simp [keeps a (by simp [actor?, found, Scene.actor?, present])]
  · rfl

/-- The verb of a handle is looked up among its owner's verbs. -/
theorem script?_eq_some_iff (w : World) (h : Handle) (script : Script Action) :
    w.script? h = some script ↔
      ∃ verbs, w.verbs? h.owner = some verbs ∧ verbs.get? h.key = some script := by
  simp [script?, Option.bind_eq_some_iff]

/-- The owner of a verb exists. -/
theorem isSome_verbs?_of_script? {w : World} {h : Handle} (found : (w.script? h).isSome) :
    (w.verbs? h.owner).isSome := by
  obtain ⟨script, isThere⟩ := Option.isSome_iff_exists.mp found
  obtain ⟨verbs, present, _⟩ := (w.script?_eq_some_iff h script).mp isThere
  simp [present]

/-- After a change of an owner's table, the verbs of that owner are looked up in the changed one. -/
theorem script?_modifyVerbs (w : World) (owner : Owner) (change : VerbTable → VerbTable)
    (h : Handle) :
    (w.modifyVerbs owner change).script? h =
      if h.owner = owner then (w.verbs? h.owner).bind fun verbs => (change verbs).get? h.key
      else w.script? h := by
  simp only [script?, verbs?_modifyVerbs]
  split
  · cases w.verbs? h.owner <;> rfl
  · rfl

/-- Handles of one owner differ in their keys. -/
private theorem handle_eq_iff {other h : Handle} (sameOwner : other.owner = h.owner) :
    other = h ↔ other.key = h.key := by
  cases other
  cases h
  simp_all

/-- A verb that is taken out of its table is not found, and all others are. -/
theorem script?_erase (w : World) (h other : Handle) :
    (w.modifyVerbs h.owner (·.erase h.key)).script? other =
      if other = h then none else w.script? other := by
  rw [script?_modifyVerbs]
  by_cases sameOwner : other.owner = h.owner
  · rw [if_pos sameOwner]
    simp only [script?, handle_eq_iff sameOwner]
    cases w.verbs? other.owner with
    | none => simp
    | some verbs => simp [Table.get?_erase]
  · have different : other ≠ h := by
      rintro rfl
      exact sameOwner rfl
    simp [sameOwner, different]

/-- A verb that is put into its owner's table is found, and no other is touched. -/
theorem script?_insert {w : World} {h : Handle} (present : (w.verbs? h.owner).isSome)
    (script : Script Action) (other : Handle) :
    (w.modifyVerbs h.owner (·.insert h.key script)).script? other =
      if other = h then some script else w.script? other := by
  rw [script?_modifyVerbs]
  by_cases sameOwner : other.owner = h.owner
  · rw [← sameOwner] at present
    rw [if_pos sameOwner]
    simp only [script?, handle_eq_iff sameOwner]
    cases isThere : w.verbs? other.owner with
    | none => simp [isThere] at present
    | some verbs => simp [Table.get?_insert]
  · have different : other ≠ h := by
      rintro rfl
      exact sameOwner rfl
    simp [sameOwner, different]

/-- A verb that comes back is found, unless its key has got another one in the meantime or its owner
is gone; no other verb is touched. -/
theorem script?_restore (w : World) (h : Handle) (script : Script Action) (other : Handle) :
    (w.modifyVerbs h.owner (·.restore h.key script)).script? other =
      if other = h then (w.verbs? h.owner).bind fun verbs => (verbs.get? h.key).or (some script)
      else w.script? other := by
  rw [script?_modifyVerbs]
  by_cases sameOwner : other.owner = h.owner
  · rw [if_pos sameOwner]
    simp only [script?, handle_eq_iff sameOwner, sameOwner]
    cases w.verbs? h.owner with
    | none => simp
    | some verbs =>
      simp only [Option.bind_some, VerbTable.restore]
      by_cases taken : verbs.contains h.key = true
      · obtain ⟨defined, isThere⟩ := Option.isSome_iff_exists.mp taken
        simp only [taken, if_true, isThere, Option.some_or]
        split
        · next sameKey => rw [sameKey, isThere]
        · rfl
      · have absent : verbs.get? h.key = none := by simpa [Table.contains] using taken
        simp [taken, absent, Table.get?_insert]
  · have different : other ≠ h := by
      rintro rfl
      exact sameOwner rfl
    simp [sameOwner, different]

/-- Worlds with the same verbs have the same verb under a handle. -/
theorem script?_congr {w w' : World} (same : w'.verbs? = w.verbs?) : w'.script? = w.script? := by
  funext h
  simp only [script?, same]

end World

end Stagecraft
