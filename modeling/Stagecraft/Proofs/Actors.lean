import Stagecraft.Proofs.Scenes

/-!
# What deeds make of actors

No deed brings a new actor into the world.  An actor that is not removed by a deed is there
afterwards, and what has become of it is told here once for all deeds; what a deed leaves alone
about an actor is read off that.
-/

namespace Stagecraft

/-! ## Actors of changed worlds -/

namespace World

variable (w : World)

/-- Whom an actor of a scene can notice as the player. -/
def noticeable? (scene id : String) : Option Actor :=
  (w.scene? scene).bind (·.noticeable? id w.player)

variable {w}

/-- It is another actor that is in the scene. -/
theorem noticeable?_eq_some_iff {scene id : String} {a : Actor} :
    w.noticeable? scene id = some a ↔
      ∃ player, w.player = some player ∧ player ≠ id ∧ w.actor? scene player = some a := by
  unfold noticeable? Scene.noticeable? actor?
  cases w.scene? scene with
  | none => simp
  | some place =>
    cases w.player with
    | none => simp
    | some player =>
      simp only [Option.bind_some, Option.some.injEq, exists_eq_left']
      split
      · next same => simp [same]
      · next other => simp [other]

/-- A change of one actor of a scene is seen at that actor alone. -/
theorem actor?_modifyScene_of {home id : String} {change : Scene → Scene} {onActor : Actor → Actor}
    (inside : ∀ s, w.scene? home = some s → ∀ other, (change s).actor? other =
      if other = id then (s.actor? other).map onActor else s.actor? other) (scene other : String) :
    (w.modifyScene home change).actor? scene other =
      if scene = home ∧ other = id then (w.actor? scene other).map onActor
      else w.actor? scene other := by
  simp only [actor?, scene?_modifyScene]
  by_cases sameScene : scene = home
  · subst sameScene
    cases present : w.scene? scene with
    | none => simp
    | some place => simp [inside place present]
  · simp [sameScene]

end World

/-! ## What becomes of an actor -/

/-- What an actor of a scene of a world has become after a deed that does not remove it. -/
def Deed.onActor (w : World) (scene id : String) : Deed → Actor → Actor
  | .setState owner state, a => if owner = .actor scene id then { a with state } else a
  | .setProperty owner name value, a =>
    if owner = .actor scene id then { a with properties := a.properties.set name value } else a
  | .dress home other visible interaction layer, a =>
    if home = scene ∧ other = id then
      { a with
        visible := visible.getD a.visible
        interaction := interaction.getD a.interaction
        layer := layer.getD a.layer }
    else a
  | .place home other pos, a => if home = scene ∧ other = id then a.moveTo pos else a
  | .animate home other animation, a =>
    if home = scene ∧ other = id then { a with animation := some animation } else a
  | .playSound home other sound, a =>
    if home = scene ∧ other = id then { a with playingSound := some sound } else a
  | .install h script, a | .putBack h script, a =>
    if h.owner = .actor scene id then { a with verbs := a.verbs.insert h.key script } else a
  | .take h _, a => if h.owner = .actor scene id then { a with verbs := a.verbs.erase h.key } else a
  | .setPlayer player, a =>
    if w.currentScene = some scene then
      if player = some id then { a with interaction := false }
      else if w.player = some id then { a with interaction := true }
      else a
    else a
  | .notice home other, a =>
    if home = scene ∧ other = id then a.noticed (w.noticeable? scene id) else a
  | .choose home other dialog index, a =>
    if home = scene ∧ other = id then a.chosen dialog index else a
  | .note .., a | .emit _, a | .openDialog _, a | .closeDialog, a | .remove .., a | .goTo _, a
  | .pass _, a | .supersede _, a | .drop _, a => a

namespace World

variable {w : World} {scene id : String}

/-- What becomes of an actor when one is changed. -/
theorem actor?_modifyActor_eq_map (home other : String) (change : Actor → Actor) :
    (w.modifyActor home other change).actor? scene id =
      (w.actor? scene id).map fun a => if home = scene ∧ other = id then change a else a := by
  rw [actor?_modifyActor]
  simp only [@eq_comm _ scene, @eq_comm _ id]
  split
  · rfl
  · exact Option.map_id'.symm

/-- A change of a scene that leaves its actors alone leaves all actors alone. -/
theorem actor?_modifyScene_of_same {home : String} {change : Scene → Scene}
    (same : ∀ s, (change s).actors = s.actors) :
    (w.modifyScene home change).actor? scene id = w.actor? scene id := by
  simp only [actor?, scene?_modifyScene]
  split
  · cases w.scene? scene with
    | none => rfl
    | some s => simp [Scene.actor?, same]
  · rfl

theorem actor?_setState (owner : Owner) (state : Option String) :
    (w.setState owner state).actor? scene id =
      (w.actor? scene id).map fun a => if owner = .actor scene id then { a with state } else a := by
  cases owner with
  | world => exact Option.map_id'.symm
  | scene home => simp [setState, actor?_modifyScene_of_same]
  | actor home other => simp only [setState, actor?_modifyActor_eq_map, Owner.actor.injEq]

theorem actor?_setProperty (owner : Owner) (name : String) (value : Option String) :
    (w.setProperty owner name value).actor? scene id =
      (w.actor? scene id).map fun a =>
        if owner = .actor scene id then { a with properties := a.properties.set name value }
        else a := by
  cases owner with
  | world => exact Option.map_id'.symm
  | scene home => simp [setProperty, actor?_modifyScene_of_same]
  | actor home other => simp only [setProperty, actor?_modifyActor_eq_map, Owner.actor.injEq]

theorem actor?_modifyVerbs (owner : Owner) (change : VerbTable → VerbTable) :
    (w.modifyVerbs owner change).actor? scene id =
      (w.actor? scene id).map fun a =>
        if owner = .actor scene id then { a with verbs := change a.verbs } else a := by
  cases owner with
  | world => exact Option.map_id'.symm
  | scene home => simp [modifyVerbs, actor?_modifyScene_of_same]
  | actor home other => simp only [modifyVerbs, actor?_modifyActor_eq_map, Owner.actor.injEq]

theorem actor?_modifyPlayer (change : Actor → Actor) :
    (w.modifyPlayer change).actor? scene id =
      (w.actor? scene id).map fun a =>
        if w.currentScene = some scene ∧ w.player = some id then change a else a := by
  unfold modifyPlayer
  split
  · next home player isCurrent isPlayer =>
    simp only [actor?_modifyActor_eq_map, isCurrent, isPlayer, Option.some.injEq]
  · next nobody =>
    have apart : ¬ (w.currentScene = some scene ∧ w.player = some id) := fun ⟨current, player⟩ =>
      nobody scene id current player
    simp [apart]

/-- The actor that was the player's answers again, and the one that is to be it does so no more. -/
theorem actor?_handOver (player : Option String) :
    (w.handOver player).actor? scene id =
      (w.actor? scene id).map fun a =>
        if w.currentScene = some scene then
          if player = some id then { a with interaction := false }
          else if w.player = some id then { a with interaction := true }
          else a
        else a := by
  have freed : { w.modifyPlayer fun a => { a with interaction := true } with
      player }.actor? scene id = _ := actor?_modifyPlayer fun a => { a with interaction := true }
  unfold handOver
  rw [actor?_modifyPlayer, currentScene_modifyPlayer, freed, Option.map_map]
  congr 1
  funext a
  by_cases current : w.currentScene = some scene <;> by_cases next : player = some id <;>
    by_cases before : w.player = some id <;> simp [current, next, before]

/-- An actor that is taken out of its scene is not there, and all others are. -/
theorem actor?_without (home other : String) :
    (w.modifyScene home (·.without other)).actor? scene id =
      if home = scene ∧ other = id then none else w.actor? scene id := by
  simp only [actor?, scene?_modifyScene, @eq_comm _ home, @eq_comm _ other]
  by_cases sameScene : scene = home
  · cases w.scene? scene with
    | none => simp
    | some place => simp [sameScene, Scene.actor?_without]
  · simp [sameScene]

/-- An actor that is shown in another way is the same but for that. -/
theorem actor?_dress (home other : String) (visible interaction : Option Bool)
    (layer : Option String) :
    (w.modifyScene home (·.dress other visible interaction layer)).actor? scene id =
      (w.actor? scene id).map fun a =>
        if home = scene ∧ other = id then
          { a with
            visible := visible.getD a.visible
            interaction := interaction.getD a.interaction
            layer := layer.getD a.layer }
        else a := by
  rw [actor?_modifyScene_of fun s _ id => s.actor?_dress other id visible interaction layer]
  simp only [@eq_comm _ scene, @eq_comm _ id]
  split
  · rfl
  · exact Option.map_id'.symm

/-- An actor that has compared the player's place with its region is the same but for that. -/
theorem actor?_noticed (home other : String) :
    (w.modifyScene home (·.noticed other w.player)).actor? scene id =
      (w.actor? scene id).map fun a =>
        if home = scene ∧ other = id then a.noticed (w.noticeable? scene id) else a := by
  have inside : ∀ s, w.scene? home = some s → ∀ id, (s.noticed other w.player).actor? id =
      if id = other then (s.actor? id).map (·.noticed (w.noticeable? home other))
      else s.actor? id := by
    intro s found id
    simp only [noticeable?, found, Option.bind_some]
    exact s.actor?_noticed other id w.player
  rw [actor?_modifyScene_of inside]
  by_cases same : home = scene ∧ other = id
  · rcases same with ⟨rfl, rfl⟩
    simp
  · have apart : ¬ (scene = home ∧ id = other) := fun ⟨sameScene, sameId⟩ =>
      same ⟨sameScene.symm, sameId.symm⟩
    simp [same, apart]

end World

namespace Deed

/-- An actor is there after a deed if it was there before and has not been removed, and it has
become what the deed makes of it. -/
theorem actor?_apply_eq_some_iff (deed : Deed) (s : Stage) {scene id : String} {a' : Actor} :
    (deed.apply s).world.actor? scene id = some a' ↔
      deed ≠ .remove scene id ∧
        ∃ a, s.world.actor? scene id = some a ∧ deed.onActor s.world scene id a = a' := by
  by_cases removal : ∃ home other, deed = .remove home other
  · rcases removal with ⟨home, other, rfl⟩
    simp only [apply, Stage.mapWorld, World.actor?_without, onActor, ne_eq, Deed.remove.injEq,
      exists_eq_right]
    split <;> simp [*]
  · have stays : (deed.apply s).world.actor? scene id =
        (s.world.actor? scene id).map (deed.onActor s.world scene id) := by
      cases deed with
      | setState owner state => exact World.actor?_setState owner state
      | setProperty owner name value => exact World.actor?_setProperty owner name value
      | dress home other visible interaction layer =>
        exact World.actor?_dress home other visible interaction layer
      | place | animate | playSound => exact World.actor?_modifyActor_eq_map _ _ _
      | choose => exact World.actor?_modifyActor_eq_map _ _ _
      | install h | take h | putBack h => exact World.actor?_modifyVerbs h.owner _
      | remove home other => exact absurd ⟨home, other, rfl⟩ removal
      | setPlayer player => exact World.actor?_handOver player
      | notice home other => exact World.actor?_noticed home other
      | _ => exact Option.map_id'.symm
    have notRemoved : deed ≠ .remove scene id := fun same => removal ⟨scene, id, same⟩
    simp [stays, notRemoved, Option.map_eq_some_iff]

end Deed

end Stagecraft
