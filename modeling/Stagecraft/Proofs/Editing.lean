import Stagecraft.Proofs.Membership

/-!
# Editing worlds

A host not only plays a world: in between it may set states and properties, bring in scenes, layers
and actors, and move and remove actors.  The records of the world agree after all of that, but for
the entries that an added layer brings along.
-/

namespace Stagecraft

/-! ## The order of actors -/

namespace Roster

variable {ν : Type}

/-- A name is added at the end, unless it is on the roster. -/
theorem names_insert (r : Roster ν) (name : String) (value : ν) :
    (r.insert name value).names = if name ∈ r.names then r.names else r.names ++ [name] :=
  map_fst_enter name value r.entries

/-- Taking a name away leaves the others in order. -/
theorem names_erase (r : Roster ν) (name : String) :
    (r.erase name).names = r.names.filter (· ≠ name) := by
  simp only [names, erase, List.filter_map, Function.comp_def, ne_comm]

end Roster

namespace Scene

variable (s : Scene)

/-- An actor that takes the place of another one comes where that one was. -/
theorem names_addActor (actor : Actor) :
    (s.addActor actor).actors.names =
      if actor.id ∈ s.actors.names then s.actors.names else s.actors.names ++ [actor.id] :=
  s.actors.names_insert actor.id _

/-- When an actor is removed the others stay in order. -/
theorem names_removeActor? {id : String} {gone : Actor} {s' : Scene}
    (removed : s.removeActor? id = some (gone, s')) :
    s'.actors.names = s.actors.names.filter (· ≠ id) := by
  rcases Option.map_eq_some_iff.mp removed with ⟨_, _, same⟩
  cases same
  exact s.actors.names_erase id

end Scene

/-! ## Edits -/

/-- A change that a host makes to a world. -/
inductive Edit where
  | setState (owner : Owner) (state : Option String)
  | setProperty (owner : Owner) (name : String) (value : Option String)
  | addScene (scene : Scene)
  | addActor (scene : String) (actor : Actor)
  | removeActor (scene id : String)
  | addLayer (scene : String) (layer : Layer)
  | moveToLayer (scene id layer : String)

namespace Edit

/-- The world after an edit.  An edit of what is not there changes nothing. -/
def apply (w : World) : Edit → World
  | setState owner state => w.setState owner state
  | setProperty owner name value => w.setProperty owner name value
  | addScene scene => w.addScene scene
  | addActor scene actor => w.modifyScene scene (·.addActor actor)
  | removeActor scene id => w.modifyScene scene (·.without id)
  | addLayer scene layer => w.modifyScene scene (·.addLayer layer)
  | moveToLayer scene id layer =>
    w.modifyScene scene fun place => (place.moveToLayer? id layer).getD place

/-- How many entries of an actor an edit brings into a scene, on a layer that is added there. -/
def extra : Edit → String → String → Nat
  | addLayer home layer, scene, id => if scene = home then layer.actors.count id else 0
  | _, _, _ => 0

/-- After an edit the records of a world agree but for the entries that it brings in, if those of a
new scene agree by themselves. -/
theorem consistent_apply {edit : Edit}
    (agree : ∀ scene, edit = .addScene scene → scene.Consistent) {w : World}
    {extra : String → String → Nat} (consistent : w.ConsistentBut extra) :
    (edit.apply w).ConsistentBut fun scene id => extra scene id + edit.extra scene id := by
  cases edit with
  | setState owner state => exact consistent.setState owner state
  | setProperty owner name value => exact consistent.setProperty owner name value
  | addScene scene =>
    have own := Scene.consistent_iff_but_zero.mp (agree scene rfl)
    exact consistent.addScene (own.mono fun _ => Nat.zero_le _)
  | addActor scene actor =>
    apply consistent.modifyScene
    exact fun place agree => ⟨rfl, agree.addActor actor⟩
  | removeActor scene id =>
    apply consistent.modifyScene
    exact fun place agree => ⟨place.id_without id, agree.without id⟩
  | addLayer scene layer => exact consistent.addLayer scene layer
  | moveToLayer scene id layer =>
    apply consistent.modifyScene
    intro place agree
    cases moved : place.moveToLayer? id layer with
    | none => exact ⟨rfl, agree⟩
    | some after =>
      rcases Scene.exists_moveToLayer?_eq moved with ⟨actors, layers, rfl⟩
      exact ⟨rfl, agree.moveToLayer? moved⟩

end Edit

/-! ## Sessions -/

/-- What a host may do next: play a move, with the depth down to which it may go, or edit. -/
inductive Step where
  | move (m : Move) (depth : Nat)
  | edit (e : Edit)

/-- How many entries of an actor a step brings into a scene on an added layer. -/
def Step.extra : Step → String → String → Nat
  | move _ _, _, _ => 0
  | edit e, scene, id => e.extra scene id

namespace Stage

/-- The stage after a step. -/
def step (s : Stage) : Step → Stage
  | .move m depth => s.move m depth
  | .edit e => s.mapWorld fun w => e.apply w

/-- The stage after steps one after the other. -/
def steps (s : Stage) (list : List Step) : Stage := list.foldl step s

/-- How many entries of an actor steps bring into a scene on added layers. -/
def extras : List Step → String → String → Nat
  | [], _, _ => 0
  | first :: rest, scene, id => first.extra scene id + extras rest scene id

/-- No entries of an actor are brought in if it is not on the layers that are added. -/
theorem extras_eq_zero {list : List Step} {home id : String}
    (unlisted : ∀ layer, .edit (.addLayer home layer) ∈ list → id ∉ layer.actors) :
    extras list home id = 0 := by
  induction list with
  | nil => rfl
  | cons first rest ih =>
    have still : first.extra home id = 0 := by
      cases first with
      | move m depth => rfl
      | edit e =>
        cases e with
        | addLayer other layer =>
          simp only [Step.extra, Edit.extra, ite_eq_right_iff]
          rintro rfl
          exact List.count_eq_zero.mpr (unlisted layer (List.mem_cons_self ..))
        | _ => rfl
    rw [extras, still, ih fun layer member => unlisted layer (List.mem_cons_of_mem _ member)]

end Stage

/-! ## Consistency -/

/-- That the records of the world agree but for extra entries is kept by every change. -/
def Upkeep.consistency (extra : String → String → Nat) : Upkeep where
  __ := nothing
  holds w := w.ConsistentBut extra
  deed := Deed.Allowed.consistent_apply
  verbs owner change consistent := consistent.modifyVerbs owner change
  shows _ consistent := ⟨consistent.scenes, consistent.current⟩

namespace Stage

variable {s : Stage} {extra : String → String → Nat}

/-- The records of the world go on agreeing but for extra entries along a run of moves. -/
theorem consistentBut_play (consistent : s.world.ConsistentBut extra) (moves : List (Move × Nat)) :
    (s.play moves).world.ConsistentBut extra := by
  have upheld : (Upkeep.consistency extra).Upheld s.world :=
    ⟨consistent, (Upkeep.upheld_nothing s.world).scripts⟩
  exact (upheld.play moves).world

/-- The records of the world agree after a run of moves. -/
theorem consistent_play (consistent : s.world.Consistent) (moves : List (Move × Nat)) :
    (s.play moves).world.Consistent :=
  World.consistent_iff_but_zero.mpr
    (consistentBut_play (World.consistent_iff_but_zero.mp consistent) moves)

/-- After a step the records of the world agree but for the entries that it brings in. -/
theorem consistentBut_step (consistent : s.world.ConsistentBut extra) {step : Step}
    (agree : ∀ scene, step = .edit (.addScene scene) → scene.Consistent) :
    (s.step step).world.ConsistentBut fun scene id => extra scene id + step.extra scene id := by
  cases step with
  | move m depth => exact consistentBut_play consistent [(m, depth)]
  | edit e => exact Edit.consistent_apply (fun scene same => agree scene (same ▸ rfl)) consistent

/-- After steps the records of the world agree but for the entries that they bring in. -/
theorem consistentBut_steps {list : List Step}
    (agree : ∀ scene, .edit (.addScene scene) ∈ list → scene.Consistent)
    (consistent : s.world.ConsistentBut extra) :
    (s.steps list).world.ConsistentBut fun scene id => extra scene id + extras list scene id := by
  induction list generalizing s extra with
  | nil => exact consistent
  | cons first rest ih =>
    have onward : (s.step first).world.ConsistentBut fun scene id =>
        extra scene id + first.extra scene id := by
      apply consistentBut_step consistent
      rintro scene rfl
      exact agree scene (List.mem_cons_self ..)
    have ended := ih (fun scene member => agree scene (List.mem_cons_of_mem _ member)) onward
    simp only [Nat.add_assoc] at ended
    exact ended

/-- However a host plays and edits an empty or a built world, every scene stands under its own id
and every actor under its own id in the scene that it names, each is once on the first layer with
the name that it gives, and over all layers nobody has more entries than that one and those on
layers that were added.  So who was not on these is listed once or, if it is no actor of the scene,
not at all, and the records agree if nobody was on them.

In every scene the actors stay in order when one comes in place of another and when one is removed,
an actor that comes or is moved has a single entry and one that is removed has none.  To a scene
whose records agree only a layer on which nobody is can be added, if they are to agree again. -/
theorem consistent_steps {w : World}
    (begins : w = .empty ∨ ∃ d : Definition, d.build = .ok w) (settings : Settings)
    {list : List Step} (agree : ∀ scene, .edit (.addScene scene) ∈ list → scene.Consistent) :
    let after := ((ofWorld w settings).steps list).world
    after.ConsistentBut (extras list) ∧
      (∀ home place id, after.scene? home = some place →
        (∀ layer, .edit (.addLayer home layer) ∈ list → id ∉ layer.actors) →
          (Layer.listing place.layers).count id = if (place.actor? id).isSome then 1 else 0) ∧
      ((∀ home layer, .edit (.addLayer home layer) ∈ list → layer.actors = []) →
        after.Consistent) ∧
      ∀ place : Scene,
        (∀ actor, (place.addActor actor).actors.names =
            (if actor.id ∈ place.actors.names then place.actors.names
            else place.actors.names ++ [actor.id]) ∧
          (Layer.listing (place.addActor actor).layers).count actor.id = 1) ∧
        (∀ id gone place', place.removeActor? id = some (gone, place') →
          place'.actors.names = place.actors.names.filter (· ≠ id) ∧
            (Layer.listing place'.layers).count id = 0) ∧
        (∀ id layer place', place.moveToLayer? id layer = some place' →
          (Layer.listing place'.layers).count id = 1) ∧
        (∀ layer, place.Consistent → ((place.addLayer layer).Consistent ↔ layer.actors = [])) := by
  intro after
  have begun : (ofWorld w settings).world.ConsistentBut fun _ _ => 0 := by
    rcases begins with rfl | ⟨d, built⟩
    · exact .empty
    · exact World.consistent_iff_but_zero.mp (Definition.consistent_build built)
  have ended : after.ConsistentBut (extras list) := by
    simpa only [Nat.zero_add] using consistentBut_steps agree begun
  refine ⟨ended, ?_, ?_, ?_⟩
  · intro home place id present unlisted
    exact (ended.scenes home place present).2.count_listing (extras_eq_zero unlisted)
  · intro nobody
    have none : extras list = fun _ _ => 0 := by
      funext home id
      apply extras_eq_zero
      intro layer member
      simp [nobody home layer member]
    rw [none] at ended
    exact World.consistent_iff_but_zero.mpr ended
  · intro place
    refine ⟨?_, ?_, ?_, ?_⟩
    · exact fun actor => ⟨place.names_addActor actor, place.count_listing_addActor actor⟩
    · exact fun _ _ _ removed =>
        ⟨place.names_removeActor? removed, Scene.count_listing_removeActor? removed⟩
    · exact fun _ _ _ => Scene.count_listing_moveToLayer?
    · exact fun layer agree => agree.addLayer_iff layer

/-- A layer may list somebody who is not in the hall to which it is added, and then the records no
longer agree. -/
theorem hall_haunted :
    let list : List Step := [
      .edit (.addScene (.empty "hall")),
      .edit (.addLayer "hall" ⟨"main", true, false, ["ghost"]⟩)]
    (∀ scene, .edit (.addScene scene) ∈ list → scene.Consistent) ∧
      (∃ hall, ((ofWorld .empty).steps list).world.scene? "hall" = some hall ∧
        "ghost" ∈ Layer.listing hall.layers ∧ hall.actor? "ghost" = none) ∧
      ¬((ofWorld .empty).steps list).world.Consistent := by
  intro list
  refine ⟨?_, ⟨_, rfl, by decide, rfl⟩, ?_⟩
  · intro scene member
    simp only [list, List.mem_cons, reduceCtorEq, Step.edit.injEq, Edit.addScene.injEq,
      List.not_mem_nil, or_false] at member
    subst member
    exact Scene.consistent_iff_but_zero.mpr (.of_vacant (fun _ => rfl) rfl)
  · intro consistent
    have listed := (consistent.scenes "hall" _ rfl).2.listed "ghost"
    revert listed
    decide

/-- A host may let the clerk of the hall be talked to, and then bring in an attic and a layer on
which the clerk and a ghost are, and put the clerk there.  Over all layers the clerk then has at
most one entry too many, and so has the ghost, who is not in the hall. -/
theorem consistent_steps_hall :
    let list : List Step := [
      .move (.interact "clerk" "talk" none) 2,
      .edit (.addScene (.empty "attic")),
      .edit (.addLayer "hall" ⟨"back", true, false, ["clerk", "ghost"]⟩),
      .edit (.moveToLayer "hall" "clerk" "back"),
      .move (.chooseOption 0) 2]
    Definition.hall.build = .ok World.hall ∧
      (∀ scene, .edit (.addScene scene) ∈ list → scene.Consistent) ∧
      ((ofWorld .hall).steps list).world.ConsistentBut (extras list) ∧
      extras list "hall" "clerk" = 1 ∧ extras list "hall" "ghost" = 1 := by
  intro list
  have agree : ∀ scene, .edit (.addScene scene) ∈ list → scene.Consistent := by
    intro scene member
    simp only [list, List.mem_cons, reduceCtorEq, Step.edit.injEq, Edit.addScene.injEq,
      List.not_mem_nil, false_or, or_false] at member
    subst member
    exact Scene.consistent_iff_but_zero.mpr (.of_vacant (fun _ => rfl) rfl)
  exact ⟨World.hall_built, agree,
    (consistent_steps (.inr ⟨.hall, World.hall_built⟩) .standard agree).1, rfl, rfl⟩

end Stage

end Stagecraft
