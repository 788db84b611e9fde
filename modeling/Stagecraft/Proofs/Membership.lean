import Mathlib.Data.List.Count
import Stagecraft.Proofs.Actors
import Stagecraft.Proofs.Opening
import Stagecraft.Proofs.Upkeep

/-!
# Where actors are recorded

Where an actor is stands in three places: on the roster of its scene, on the layers of that scene,
and in the actor itself.  In a consistent world the three agree, and every scene stands under its
own id.  A world is consistent when it is empty and when it has been built, whatever ids its
definition repeats, and it stays so however it is played.

A layer that is brought into a scene from outside may list anybody, so the layers of a scene may
hold more entries than its actors have.  That is why a bound on the extra entries runs through the
lemmas of this module; a world is consistent if it is so without any.
-/

namespace Stagecraft

/-! ## Layers -/

namespace Layer

/-- The ids on layers, from the topmost layer down. -/
def listing (layers : List Layer) : List String := layers.flatMap (·.actors)

/-- Whether an actor is on the first of the layers that have a name. -/
def OnFirst (layers : List Layer) (id name : String) : Prop :=
  ∃ layer, layers.find? (·.name == name) = some layer ∧ id ∈ layer.actors

/-- Whether an actor is once on the first of the layers that have a name. -/
def OnceOnFirst (layers : List Layer) (id name : String) : Prop :=
  ∃ layer, layers.find? (·.name == name) = some layer ∧ layer.actors.count id = 1

variable {layers : List Layer} {id other name : String}

@[simp] theorem listing_nil : listing [] = [] := rfl

@[simp] theorem listing_cons (layer : Layer) (layers : List Layer) :
    listing (layer :: layers) = layer.actors ++ listing layers := rfl

@[simp] theorem listing_append (above below : List Layer) :
    listing (above ++ below) = listing above ++ listing below := List.flatMap_append ..

/-- An actor that is taken off the layers is listed no more, and the others are listed as before. -/
theorem count_listing_unlink (id other : String) (layers : List Layer) :
    (listing (Scene.unlink id layers)).count other =
      if other = id then 0 else (listing layers).count other := by
  induction layers with
  | nil => simp [Scene.unlink]
  | cons layer rest ih =>
    have onLayer : (layer.actors.filter (· ≠ id)).count other =
        if other = id then 0 else layer.actors.count other := by
      split
      · next same => simp [same, List.count_eq_zero]
      · next apart => exact List.count_filter (by simpa using apart)
    simp only [Scene.unlink, List.map_cons, listing_cons, List.count_append, onLayer] at ih ⊢
    rw [ih]
    split <;> simp

/-- An actor that is put on a layer is listed once more, and the others are listed as before. -/
theorem count_listing_link (id other name : String) (layers : List Layer) :
    (listing (Scene.link id name layers)).count other =
      (listing layers).count other + if other = id then 1 else 0 := by
  induction layers with
  | nil => simp [Scene.link, List.count_singleton, @eq_comm _ id]
  | cons layer rest ih =>
    unfold Scene.link
    split
    · simp only [listing_cons, List.count_append, List.count_singleton, beq_iff_eq, @eq_comm _ id]
      omega
    · simp only [listing_cons, List.count_append, ih]
      omega

/-- An actor that is taken off the layers and put on one is listed once. -/
theorem count_listing_relink (id name : String) (layers : List Layer) :
    (listing (Scene.link id name (Scene.unlink id layers))).count id = 1 := by
  rw [count_listing_link, count_listing_unlink, if_pos rfl, if_pos rfl]

/-- An actor that is put on the first layer with a name is there. -/
theorem onFirst_link_self (id name : String) (layers : List Layer) :
    OnFirst (Scene.link id name layers) id name := by
  induction layers with
  | nil => exact ⟨_, List.find?_cons_of_pos (by simp), by simp⟩
  | cons layer rest ih =>
    unfold Scene.link
    split
    · next named => exact ⟨_, List.find?_cons_of_pos (by simpa using named), by simp⟩
    · next unnamed =>
      rcases ih with ⟨found, isFirst, member⟩
      exact ⟨found, by rwa [List.find?_cons_of_neg (by simpa using unnamed)], member⟩

/-- An actor on the first layer with a name is there once if it is listed once over all layers. -/
theorem OnFirst.once (onFirst : OnFirst layers id name)
    (counted : (listing layers).count id = 1) : OnceOnFirst layers id name := by
  rcases onFirst with ⟨layer, isFirst, member⟩
  have atLeast : 0 < layer.actors.count id := List.count_pos_iff.mpr member
  have atMost : layer.actors.count id ≤ (listing layers).count id :=
    (List.sublist_flatten_of_mem
      (List.mem_map_of_mem (List.mem_of_find?_eq_some isFirst))).count_le id
  exact ⟨layer, isFirst, by omega⟩

/-- Who is on the first layer with a name is listed. -/
theorem OnFirst.mem_listing (onFirst : OnFirst layers id name) : id ∈ listing layers := by
  rcases onFirst with ⟨layer, isFirst, member⟩
  exact List.mem_flatMap.mpr ⟨layer, List.mem_of_find?_eq_some isFirst, member⟩

theorem OnceOnFirst.onFirst (once : OnceOnFirst layers id name) : OnFirst layers id name := by
  rcases once with ⟨layer, isFirst, counted⟩
  exact ⟨layer, isFirst, List.count_pos_iff.mp (by omega)⟩

/-- Where another actor is put, an actor is on the same layer as before. -/
theorem OnceOnFirst.link (once : OnceOnFirst layers id name) (apart : id ≠ other)
    (otherName : String) : OnceOnFirst (Scene.link other otherName layers) id name := by
  induction layers with
  | nil =>
    rcases once with ⟨layer, isFirst, _⟩
    cases isFirst
  | cons layer rest ih =>
    rcases once with ⟨first, isFirst, counted⟩
    by_cases named : layer.name = name
    · rw [List.find?_cons_of_pos (by simpa using named)] at isFirst
      cases isFirst
      unfold Scene.link
      split
      · exact ⟨_, List.find?_cons_of_pos (by simpa using named), by simp [counted, apart.symm]⟩
      · exact ⟨_, List.find?_cons_of_pos (by simpa using named), counted⟩
    · rw [List.find?_cons_of_neg (by simpa using named)] at isFirst
      unfold Scene.link
      split
      · exact ⟨first, by rwa [List.find?_cons_of_neg (by simpa using named)], counted⟩
      · rcases ih ⟨first, isFirst, counted⟩ with ⟨found, isFound, counted⟩
        exact ⟨found, by rwa [List.find?_cons_of_neg (by simpa using named)], counted⟩

/-- When another actor is taken off the layers, an actor is on the same layer as before. -/
theorem OnceOnFirst.unlink (once : OnceOnFirst layers id name) (apart : id ≠ other) :
    OnceOnFirst (Scene.unlink other layers) id name := by
  rcases once with ⟨layer, isFirst, counted⟩
  refine ⟨{ layer with actors := layer.actors.filter (· ≠ other) }, ?_, ?_⟩
  · unfold Scene.unlink
    rw [List.find?_map]
    exact Option.map_eq_some_iff.mpr ⟨layer, isFirst, rfl⟩
  · rw [List.count_filter (by simpa using apart)]
    exact counted

/-- Below the layers that are there a layer may be added. -/
theorem OnceOnFirst.append (once : OnceOnFirst layers id name) (below : List Layer) :
    OnceOnFirst (layers ++ below) id name := by
  rcases once with ⟨layer, isFirst, counted⟩
  exact ⟨layer, by simp [List.find?_append, isFirst], counted⟩

end Layer

/-! ## Scenes -/

/-- What an actor says about where it is: its id, its scene and its layer. -/
def Actor.record (a : Actor) : String × Option String × String := (a.id, a.scene, a.layer)

/-- Whether the records of a scene agree: an actor stands under its own id and names the scene, it
is listed exactly once over all layers, on the first with the name that it gives, and nobody else is
listed. -/
structure Scene.Consistent (s : Scene) : Prop where
  filed : ∀ id actor, s.actor? id = some actor → actor.id = id ∧ actor.scene = some s.id
  listed : ∀ id, (Layer.listing s.layers).count id = if (s.actor? id).isSome then 1 else 0
  placed : ∀ id actor, s.actor? id = some actor → Layer.OnFirst s.layers id actor.layer

/-- Whether the records of a scene agree but for extra entries on its layers: an actor stands under
its own id and names the scene, and it is once on the first layer with the name that it gives; over
all layers nobody has more entries than that one and the extra ones. -/
structure Scene.ConsistentBut (s : Scene) (extra : String → Nat) : Prop where
  filed : ∀ id actor, s.actor? id = some actor → actor.id = id ∧ actor.scene = some s.id
  listed : ∀ id, (Layer.listing s.layers).count id ≤
    (if (s.actor? id).isSome then 1 else 0) + extra id
  placed : ∀ id actor, s.actor? id = some actor → Layer.OnceOnFirst s.layers id actor.layer

namespace Scene

/-- A scene with one more layer below the others. -/
def addLayer (s : Scene) (layer : Layer) : Scene := { s with layers := s.layers ++ [layer] }

@[simp] theorem id_dress (s : Scene) (id : String) (visible interaction : Option Bool)
    (layer : Option String) : (s.dress id visible interaction layer).id = s.id := by
  rcases s.exists_dress_eq id visible interaction layer with ⟨actors, layers, same⟩
  rw [same]

@[simp] theorem id_without (s : Scene) (id : String) : (s.without id).id = s.id := by
  rcases s.exists_without_eq id with ⟨actors, layers, same⟩
  rw [same]

@[simp] theorem id_noticed (s : Scene) (id : String) (player : Option String) :
    (s.noticed id player).id = s.id := by
  rcases s.exists_noticed_eq id player with ⟨actors, same⟩
  rw [same]

@[simp] theorem listing_addLayer (s : Scene) (layer : Layer) :
    Layer.listing (s.addLayer layer).layers = Layer.listing s.layers ++ layer.actors := by
  simp [addLayer]

variable {s s' : Scene} {extra : String → Nat}

/-- Without extra entries an id is listed once if it is that of an actor, and not at all
otherwise. -/
theorem ConsistentBut.count_listing (consistent : s.ConsistentBut extra) {id : String}
    (none : extra id = 0) :
    (Layer.listing s.layers).count id = if (s.actor? id).isSome then 1 else 0 := by
  have atMost := consistent.listed id
  cases found : s.actor? id with
  | none => simpa [found, none] using atMost
  | some actor =>
    have member := (consistent.placed id actor found).onFirst.mem_listing
    have atLeast := List.count_pos_iff.mpr member
    simp only [found, Option.isSome_some, if_true, none] at atMost ⊢
    omega

/-- The records of a scene agree if they do so but for no extra entries. -/
theorem consistent_iff_but_zero : s.Consistent ↔ s.ConsistentBut fun _ => 0 := by
  constructor
  · rintro ⟨filed, listed, placed⟩
    refine ⟨filed, fun id => Nat.le_of_eq (listed id), ?_⟩
    intro id actor found
    apply (placed id actor found).once
    rw [listed, found]
    rfl
  · intro consistent
    exact ⟨consistent.filed, fun id => consistent.count_listing rfl,
      fun id actor found => (consistent.placed id actor found).onFirst⟩

/-! ### Entries -/

/-- An actor that is put into a scene has a single entry there, whoever was listed before. -/
theorem count_listing_addActor (s : Scene) (actor : Actor) :
    (Layer.listing (s.addActor actor).layers).count actor.id = 1 :=
  Layer.count_listing_relink ..

/-- An actor that is moved has a single entry, whoever was listed before. -/
theorem count_listing_moveToLayer? {id layer : String} (moved : s.moveToLayer? id layer = some s') :
    (Layer.listing s'.layers).count id = 1 := by
  unfold moveToLayer? at moved
  split at moved
  · cases moved
    exact Layer.count_listing_relink ..
  · cases moved

/-- An actor that is removed has no entry left, whoever was listed before. -/
theorem count_listing_removeActor? {id : String} {gone : Actor}
    (removed : s.removeActor? id = some (gone, s')) : (Layer.listing s'.layers).count id = 0 := by
  rcases Option.map_eq_some_iff.mp removed with ⟨_, _, same⟩
  cases same
  simp [Layer.count_listing_unlink]

namespace ConsistentBut

/-- The records of a scene agree while nobody is in it and nobody is listed. -/
theorem of_vacant (vacant : ∀ id, s.actor? id = none) (nobody : Layer.listing s.layers = []) :
    s.ConsistentBut extra where
  filed id actor found := by simp [vacant] at found
  listed id := by simp [nobody]
  placed id actor found := by simp [vacant] at found

variable (consistent : s.ConsistentBut extra)

include consistent

theorem mono {more : String → Nat} (le : ∀ id, extra id ≤ more id) : s.ConsistentBut more where
  filed := consistent.filed
  listed id := Nat.le_trans (consistent.listed id) (Nat.add_le_add_left (le id) _)
  placed := consistent.placed

/-- The records go on agreeing while the layers stay and so does what each actor says. -/
theorem congr (sameId : s'.id = s.id) (sameLayers : s'.layers = s.layers)
    (sameActors : ∀ id, (s'.actor? id).map (·.record) = (s.actor? id).map (·.record)) :
    s'.ConsistentBut extra := by
  have before : ∀ id actor', s'.actor? id = some actor' →
      ∃ actor, s.actor? id = some actor ∧ actor.record = actor'.record := by
    intro id actor' found
    have same := sameActors id
    rw [found] at same
    exact Option.map_eq_some_iff.mp same.symm
  constructor
  · intro id actor' found
    rcases before id actor' found with ⟨actor, isThere, same⟩
    simp only [Actor.record, Prod.mk.injEq] at same
    rw [← same.1, ← same.2.1, sameId]
    exact consistent.filed id actor isThere
  · intro id
    have sameThere := congrArg Option.isSome (sameActors id)
    rw [Option.isSome_map, Option.isSome_map] at sameThere
    rw [sameLayers, sameThere]
    exact consistent.listed id
  · intro id actor' found
    rcases before id actor' found with ⟨actor, isThere, same⟩
    simp only [Actor.record, Prod.mk.injEq] at same
    rw [← same.2.2, sameLayers]
    exact consistent.placed id actor isThere

/-- An actor that changes without saying anything else leaves the records in agreement. -/
theorem modify {change : Actor → Actor} (keeps : ∀ a, (change a).record = a.record) (id : String) :
    { s with actors := s.actors.modify id change }.ConsistentBut extra := by
  have changed : ∀ other, { s with actors := s.actors.modify id change }.actor? other =
      if other = id then (s.actor? other).map change else s.actor? other :=
    fun other => s.actors.get?_modify id other change
  refine consistent.congr ?_ ?_ (map_actor?_of_change keeps changed)
  · rfl
  · rfl

/-- What an actor notices is no matter of record. -/
theorem noticed (id : String) (player : Option String) :
    (s.noticed id player).ConsistentBut extra := by
  have keeps : ∀ a : Actor, (a.noticed (s.noticeable? id player)).record = a.record := by
    intro a
    rcases a.exists_noticed_eq (s.noticeable? id player) with ⟨inside, same⟩
    rw [same]
    rfl
  have sameActors := map_actor?_of_change keeps fun other => s.actor?_noticed id other player
  rcases s.exists_noticed_eq id player with ⟨actors, same⟩
  rw [same] at sameActors ⊢
  refine consistent.congr ?_ ?_ sameActors
  · rfl
  · rfl

/-- An actor that is entered on the roster and put on the layer that it gives is recorded there, and
the others are where they were. -/
private theorem relink (actor : Actor) {actors : Roster Actor} (own : actor.scene = some s.id)
    (entered : ∀ id, actors.get? id = if id = actor.id then some actor else s.actor? id) :
    { s with
      actors
      layers := link actor.id actor.layer (unlink actor.id s.layers) }.ConsistentBut extra where
  filed id other found := by
    rw [actor?, entered] at found
    split at found
    · next same =>
      cases found
      exact ⟨same.symm, own⟩
    · exact consistent.filed id other found
  listed id := by
    simp only [Layer.count_listing_link, Layer.count_listing_unlink, actor?, entered]
    split
    · simp
    · exact consistent.listed id
  placed id other found := by
    rw [actor?, entered] at found
    split at found
    · next same =>
      cases found
      rw [same]
      exact (Layer.onFirst_link_self ..).once (Layer.count_listing_relink ..)
    · next apart => exact ((consistent.placed id other found).unlink apart).link apart _

theorem addActor (actor : Actor) : (s.addActor actor).ConsistentBut extra :=
  consistent.relink { actor with scene := some s.id } rfl
    fun id => Roster.get?_insert s.actors actor.id id _

theorem moveToLayer? {id layer : String} {moved : Scene}
    (isMoved : s.moveToLayer? id layer = some moved) : moved.ConsistentBut extra := by
  unfold Scene.moveToLayer? at isMoved
  split at isMoved
  · next present =>
    cases isMoved
    rcases Option.isSome_iff_exists.mp present with ⟨actor, found⟩
    rcases consistent.filed id actor found with ⟨rfl, own⟩
    apply consistent.relink { actor with layer } own
    intro other
    rw [Roster.get?_modify]
    split
    · next same =>
      subst same
      rw [found]
      rfl
    · rfl
  · cases isMoved

theorem dress (id : String) (visible interaction : Option Bool) (layer : Option String) :
    (s.dress id visible interaction layer).ConsistentBut extra := by
  have moved : ((layer.bind (s.moveToLayer? id ·)).getD s).ConsistentBut extra := by
    cases there : layer.bind (s.moveToLayer? id ·) with
    | none => exact consistent
    | some scene =>
      rcases Option.bind_eq_some_iff.mp there with ⟨layer, _, isMoved⟩
      exact consistent.moveToLayer? isMoved
  refine moved.modify ?_ id
  exact fun _ => rfl

theorem without (id : String) : (s.without id).ConsistentBut extra := by
  unfold Scene.without removeActor?
  cases present : s.actor? id with
  | none => exact consistent
  | some gone =>
    constructor
    · intro other actor found
      simp only [Option.map_some, Option.getD_some, actor?, Roster.get?_erase] at found ⊢
      split at found
      · cases found
      · exact consistent.filed other actor found
    · intro other
      simp only [Option.map_some, Option.getD_some, actor?, Roster.get?_erase,
        Layer.count_listing_unlink]
      split
      · exact Nat.zero_le _
      · exact consistent.listed other
    · intro other actor found
      simp only [Option.map_some, Option.getD_some, actor?, Roster.get?_erase] at found ⊢
      split at found
      · cases found
      · next apart => exact (consistent.placed other actor found).unlink apart

/-- Whoever is on a layer that is added has that many entries more. -/
theorem addLayer (layer : Layer) :
    (s.addLayer layer).ConsistentBut fun id => extra id + layer.actors.count id where
  filed := consistent.filed
  listed id := by
    rw [listing_addLayer, List.count_append, ← Nat.add_assoc]
    exact Nat.add_le_add_right (consistent.listed id) _
  placed id actor found := (consistent.placed id actor found).append [layer]

end ConsistentBut

/-- A layer can be added to a consistent scene exactly if nobody is on it. -/
theorem Consistent.addLayer_iff (consistent : s.Consistent) (layer : Layer) :
    (s.addLayer layer).Consistent ↔ layer.actors = [] := by
  constructor
  · intro added
    apply List.eq_nil_iff_forall_not_mem.mpr
    intro id member
    have before := consistent.listed id
    have after := added.listed id
    have isThere : (s.addLayer layer).actor? id = s.actor? id := rfl
    have counted : 0 < layer.actors.count id := List.count_pos_iff.mpr member
    rw [listing_addLayer, List.count_append, isThere] at after
    omega
  · intro nobody
    have added := (consistent_iff_but_zero.mp consistent).addLayer layer
    rw [nobody] at added
    exact consistent_iff_but_zero.mpr added

end Scene

/-! ## Worlds -/

/-- Whether the records of a world agree: every scene stands under its own id, the records of each
agree, and the current scene is there. -/
structure World.Consistent (w : World) : Prop where
  scenes : ∀ id s, w.scene? id = some s → s.id = id ∧ s.Consistent
  current : ∀ id, w.currentScene = some id → (w.scene? id).isSome

/-- Whether the records of a world agree but for extra entries on the layers of its scenes. -/
structure World.ConsistentBut (w : World) (extra : String → String → Nat) : Prop where
  scenes : ∀ id s, w.scene? id = some s → s.id = id ∧ s.ConsistentBut (extra id)
  current : ∀ id, w.currentScene = some id → (w.scene? id).isSome

namespace World

variable {w : World} {extra : String → String → Nat}

/-- The records of a world agree if they do so but for no extra entries. -/
theorem consistent_iff_but_zero : w.Consistent ↔ w.ConsistentBut fun _ _ => 0 := by
  constructor
  · rintro ⟨scenes, current⟩
    refine ⟨fun id s found => ?_, current⟩
    exact ⟨(scenes id s found).1, Scene.consistent_iff_but_zero.mp (scenes id s found).2⟩
  · rintro ⟨scenes, current⟩
    refine ⟨fun id s found => ?_, current⟩
    exact ⟨(scenes id s found).1, Scene.consistent_iff_but_zero.mpr (scenes id s found).2⟩

namespace ConsistentBut

theorem empty : World.empty.ConsistentBut extra where
  scenes _ _ found := by cases found
  current _ isCurrent := by cases isCurrent

variable (consistent : w.ConsistentBut extra)

include consistent

theorem modifyScene {id : String} {change : Scene → Scene}
    (keeps : ∀ s : Scene, s.ConsistentBut (extra id) →
      (change s).id = s.id ∧ (change s).ConsistentBut (extra id)) :
    (w.modifyScene id change).ConsistentBut extra where
  scenes other s' found := by
    rw [scene?_modifyScene] at found
    split at found
    · next same =>
      subst same
      rcases Option.map_eq_some_iff.mp found with ⟨s, isThere, rfl⟩
      rcases consistent.scenes other s isThere with ⟨sameId, agree⟩
      rcases keeps s agree with ⟨keepsId, agree'⟩
      exact ⟨keepsId.trans sameId, agree'⟩
    · exact consistent.scenes other s' found
  current other isCurrent := by
    rw [isSome_scene?_modifyScene]
    exact consistent.current other isCurrent

theorem modifyActor {scene id : String} {change : Actor → Actor}
    (keeps : ∀ a, (change a).record = a.record) :
    (w.modifyActor scene id change).ConsistentBut extra := by
  apply consistent.modifyScene
  exact fun s agree => ⟨rfl, agree.modify keeps id⟩

theorem modifyVerbs (owner : Owner) (change : VerbTable → VerbTable) :
    (w.modifyVerbs owner change).ConsistentBut extra := by
  cases owner with
  | world => exact ⟨consistent.scenes, consistent.current⟩
  | scene home =>
    apply consistent.modifyScene
    exact fun s agree => ⟨rfl, agree.filed, agree.listed, agree.placed⟩
  | actor home id => exact consistent.modifyActor fun _ => rfl

theorem setState (owner : Owner) (state : Option String) :
    (w.setState owner state).ConsistentBut extra := by
  cases owner with
  | world => exact ⟨consistent.scenes, consistent.current⟩
  | scene home =>
    apply consistent.modifyScene
    exact fun s agree => ⟨rfl, agree.filed, agree.listed, agree.placed⟩
  | actor home id => exact consistent.modifyActor fun _ => rfl

theorem setProperty (owner : Owner) (name : String) (value : Option String) :
    (w.setProperty owner name value).ConsistentBut extra := by
  cases owner with
  | world => exact ⟨consistent.scenes, consistent.current⟩
  | scene home =>
    apply consistent.modifyScene
    exact fun s agree => ⟨rfl, agree.filed, agree.listed, agree.placed⟩
  | actor home id => exact consistent.modifyActor fun _ => rfl

theorem modifyPlayer {change : Actor → Actor} (keeps : ∀ a, (change a).record = a.record) :
    (w.modifyPlayer change).ConsistentBut extra := by
  unfold World.modifyPlayer
  split
  · exact consistent.modifyActor keeps
  · exact consistent

theorem handOver (player : Option String) : (w.handOver player).ConsistentBut extra := by
  have freed : (w.modifyPlayer fun a => { a with interaction := true }).ConsistentBut extra :=
    consistent.modifyPlayer fun _ => rfl
  have named : { w.modifyPlayer fun a => { a with interaction := true } with
      player }.ConsistentBut extra := ⟨freed.scenes, freed.current⟩
  exact named.modifyPlayer fun _ => rfl

theorem addScene {s : Scene} (agree : s.ConsistentBut (extra s.id)) :
    (w.addScene s).ConsistentBut extra where
  scenes id other found := by
    simp only [World.scene?, World.addScene, Table.get?_insert] at found
    split at found
    · next same =>
      cases found
      cases Std.LawfulEqCmp.eq_of_compare same
      exact ⟨rfl, agree⟩
    · exact consistent.scenes id other found
  current id isCurrent := by
    have present := consistent.current id isCurrent
    simp only [World.scene?, World.addScene, Table.get?_insert] at present ⊢
    split
    · rfl
    · exact present

/-- Whoever is on a layer that is added to a scene has that many entries more there. -/
theorem addLayer (home : String) (layer : Layer) :
    (w.modifyScene home (·.addLayer layer)).ConsistentBut fun scene id =>
      extra scene id + if scene = home then layer.actors.count id else 0 where
  scenes other s' found := by
    rw [scene?_modifyScene] at found
    split at found
    · next same =>
      subst same
      rcases Option.map_eq_some_iff.mp found with ⟨s, isThere, rfl⟩
      rcases consistent.scenes other s isThere with ⟨sameId, agree⟩
      exact ⟨sameId, by simpa using agree.addLayer layer⟩
    · next apart => simpa [apart] using consistent.scenes other s' found
  current other isCurrent := by
    rw [isSome_scene?_modifyScene]
    exact consistent.current other isCurrent

end ConsistentBut

end World

/-- The records go on agreeing whatever is done. -/
theorem Deed.Allowed.consistent_apply {extra : String → String → Nat} {driver : Option Handle}
    {s : Stage} {deed : Deed} (allowed : deed.Allowed driver s)
    (consistent : s.world.ConsistentBut extra) : (deed.apply s).world.ConsistentBut extra := by
  cases deed with
  | note | emit => exact consistent
  | supersede | drop | putBack | take => cases allowed
  | setState owner state => exact consistent.setState owner state
  | setProperty owner name value => exact consistent.setProperty owner name value
  | dress home id visible interaction layer =>
    apply consistent.modifyScene
    exact fun place agree => ⟨place.id_dress .., agree.dress id visible interaction layer⟩
  | place | animate | playSound => exact consistent.modifyActor fun _ => rfl
  | openDialog | closeDialog | pass => exact ⟨consistent.scenes, consistent.current⟩
  | install h script => exact consistent.modifyVerbs h.owner (·.insert h.key script)
  | remove home id =>
    apply consistent.modifyScene
    exact fun place agree => ⟨place.id_without id, agree.without id⟩
  | goTo id =>
    constructor
    · exact consistent.scenes
    · rintro _ ⟨⟩
      exact allowed
  | setPlayer player => exact consistent.handOver player
  | notice home id =>
    apply consistent.modifyScene
    exact fun place agree => ⟨place.id_noticed id _, agree.noticed id _⟩
  | choose home id dialog index =>
    have closed : { s.world with openDialog := none }.ConsistentBut extra :=
      ⟨consistent.scenes, consistent.current⟩
    apply closed.modifyActor
    intro a
    rcases a.exists_chosen_eq dialog index with ⟨dialogs, same⟩
    rw [same]
    rfl

/-! ## Built worlds -/

theorem SceneDefinition.consistentBut_toScene (d : SceneDefinition) (extra : String → Nat) :
    d.toScene.ConsistentBut extra := by
  have furnished : ∀ (actors : List ActorDefinition) (s : Scene), s.ConsistentBut extra →
      (actors.foldl (fun scene actor => scene.addActor actor.toActor) s).ConsistentBut extra := by
    intro actors
    induction actors with
    | nil => exact fun _ agree => agree
    | cons actor rest ih => exact fun s agree => ih _ (agree.addActor actor.toActor)
  have nobody : Layer.listing (d.layers.map fun layer =>
      ⟨layer.name, layer.visible, layer.dynamic, []⟩) = [] := by
    simp [Layer.listing, List.flatMap_map]
  have agree := furnished d.actors { Scene.empty d.id with state := d.state, layers := _ }
    (.of_vacant (fun _ => rfl) nobody)
  exact ⟨agree.filed, agree.listed, agree.placed⟩

/-- The records of a built world agree, whatever ids the definition repeats. -/
theorem Definition.consistent_build {d : Definition} {w : World} (built : d.build = .ok w) :
    w.Consistent := by
  apply World.consistent_iff_but_zero.mpr
  refine build_keeps (World.ConsistentBut · fun _ _ => 0) ?_ ?_ ?_ ?_ built
  · have empty : World.empty.ConsistentBut fun _ _ => 0 := .empty
    exact ⟨empty.scenes, empty.current⟩
  · exact fun w agree _ scene _ => agree.addScene (scene.consistentBut_toScene _)
  · intro w agree _ id present
    constructor
    · exact agree.scenes
    · rintro _ ⟨⟩
      exact present
  · exact fun w agree _ id _ => agree.handOver (some id)

end Stagecraft
