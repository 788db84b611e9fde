import Stagecraft.Proofs.VerbsAfter

/-!
# The scenes after a deed

A deed changes what is in the scene that it names, or in the current one when it hands over control,
and no other scene.  No scene comes into being or goes away, and the current scene is another one
only after a change of scene.
-/

namespace Stagecraft

namespace World

variable (w : World)

@[simp] theorem currentScene_modifyVerbs (owner : Owner) (change : VerbTable → VerbTable) :
    (w.modifyVerbs owner change).currentScene = w.currentScene := by
  cases owner <;> rfl

@[simp] theorem currentScene_modifyPlayer (change : Actor → Actor) :
    (w.modifyPlayer change).currentScene = w.currentScene := by
  unfold modifyPlayer
  split <;> rfl

@[simp] theorem currentScene_handOver (actor : Option String) :
    (w.handOver actor).currentScene = w.currentScene :=
  (currentScene_modifyPlayer _ _).trans (w.currentScene_modifyPlayer _)

/-- A world in which a scene may have been changed, but none that is neither of two. -/
def ChangesOnly (w w' : World) (named current : Option String) : Prop :=
  ∀ id, ∃ change : Scene → Scene, w'.scene? id = (w.scene? id).map change ∧
    (named ≠ some id → current ≠ some id → change = fun s => s)

variable {w} {w' : World} {named current : Option String}

namespace ChangesOnly

/-- Nothing is changed where the scenes are the same. -/
theorem of_scenes_eq (same : w'.scenes = w.scenes) : w.ChangesOnly w' named current := by
  intro id
  refine ⟨fun s => s, ?_, fun _ _ => rfl⟩
  rw [Option.map_id', scene?, same]
  rfl

theorem modifyScene {home : String} (change : Scene → Scene)
    (isNamed : named = some home ∨ current = some home) :
    w.ChangesOnly (w.modifyScene home change) named current := by
  intro id
  rw [scene?_modifyScene]
  by_cases same : id = home
  · subst same
    refine ⟨change, if_pos rfl, fun notNamed notCurrent => ?_⟩
    rcases isNamed with isNamed | isCurrent
    · exact absurd isNamed notNamed
    · exact absurd isCurrent notCurrent
  · exact ⟨fun s => s, by simp [same], fun _ _ => rfl⟩

theorem modifyVerbs (owner : Owner) (change : VerbTable → VerbTable) :
    w.ChangesOnly (w.modifyVerbs owner change) owner.sceneId? current := by
  cases owner with
  | world => exact of_scenes_eq rfl
  | scene home => exact modifyScene _ (.inl rfl)
  | actor home id => exact modifyScene _ (.inl rfl)

theorem modifyPlayer (change : Actor → Actor) :
    w.ChangesOnly (w.modifyPlayer change) none w.currentScene := by
  unfold World.modifyPlayer
  split
  · next isCurrent _ => exact modifyScene _ (.inr isCurrent)
  · exact of_scenes_eq rfl

theorem trans {w'' : World} (first : w.ChangesOnly w' named current)
    (second : w'.ChangesOnly w'' named current) : w.ChangesOnly w'' named current := by
  intro id
  rcases first id with ⟨change, changed, untouched⟩
  rcases second id with ⟨change', changed', untouched'⟩
  refine ⟨change' ∘ change, ?_, ?_⟩
  · rw [changed', changed, Option.map_map]
  · intro notNamed notCurrent
    rw [untouched notNamed notCurrent, untouched' notNamed notCurrent]
    rfl

/-- Any other scene is as it was. -/
theorem scene?_eq (changes : w.ChangesOnly w' named current) {id : String}
    (notNamed : named ≠ some id) (notCurrent : current ≠ some id) : w'.scene? id = w.scene? id := by
  rcases changes id with ⟨change, changed, untouched⟩
  rw [changed, untouched notNamed notCurrent, Option.map_id']

end ChangesOnly

end World

namespace Deed

/-- A deed changes the scene that it names, or the current one. -/
theorem changesOnly_apply (deed : Deed) (s : Stage) :
    s.world.ChangesOnly (deed.apply s).world deed.sceneId? s.world.currentScene := by
  cases deed with
  | setState owner state =>
    cases owner with
    | world => exact .of_scenes_eq rfl
    | scene home => exact .modifyScene _ (.inl rfl)
    | actor home id => exact .modifyScene _ (.inl rfl)
  | setProperty owner name value =>
    cases owner with
    | world => exact .of_scenes_eq rfl
    | scene home => exact .modifyScene _ (.inl rfl)
    | actor home id => exact .modifyScene _ (.inl rfl)
  | dress | place | animate | playSound | remove | notice => exact .modifyScene _ (.inl rfl)
  | choose home id dialog index =>
    have opened : s.world.ChangesOnly { s.world with openDialog := none } (some home)
        s.world.currentScene := .of_scenes_eq rfl
    exact opened.trans (.modifyScene _ (.inl rfl))
  | install h script => exact .modifyVerbs h.owner _
  | take h driving => exact .modifyVerbs h.owner _
  | putBack h script => exact .modifyVerbs h.owner _
  | setPlayer actor =>
    have freed := World.ChangesOnly.modifyPlayer (w := s.world) fun a =>
      { a with interaction := true }
    have taken := World.ChangesOnly.modifyPlayer
      (w := { s.world.modifyPlayer fun a => { a with interaction := true } with player := actor })
      fun a => { a with interaction := false }
    rw [World.currentScene_modifyPlayer] at taken
    exact freed.trans (.trans (.of_scenes_eq rfl) taken)
  | _ => exact .of_scenes_eq rfl

/-- Only a change of scene makes another scene the current one. -/
theorem currentScene_apply (deed : Deed) (s : Stage) :
    (deed.apply s).world.currentScene =
      match deed with
      | .goTo scene => some scene
      | _ => s.world.currentScene := by
  cases deed with
  | setState owner | setProperty owner => cases owner <;> rfl
  | install h | take h | putBack h => exact World.currentScene_modifyVerbs _ h.owner _
  | setPlayer actor => exact s.world.currentScene_handOver actor
  | _ => rfl

end Deed

end Stagecraft
