import Stagecraft.Definition.Build
import Stagecraft.Proofs.Actors
import Stagecraft.Proofs.Moves
import Stagecraft.Save.Load

/-!
# How games begin

A game begins with the world of a definition, in which no verb has been started, or with that of a
saved game, in which the verbs that were stored between two actions have been taken up again.
-/

namespace Stagecraft

/-! ## Built worlds -/

mutual

/-- The action of an instruction has no progress. -/
theorem Instruction.reset_toAction :
    ∀ instruction : Instruction, instruction.toAction.reset = instruction.toAction
  | .conditional condition body => by
    simp only [Instruction.toAction, Action.reset, Script.reset, Script.ofActions,
      Instruction.resetAll_toActions body]
  | .setState .. | .setProperty .. | .setActorAttr .. | .position .. | .goto ..
  | .playAnimation .. | .playSound .. | .say .. | .wait .. | .showDialog .. | .runVerb ..
  | .cancelVerb .. | .addVerb .. | .changeScene .. | .setPlayer .. | .removeActor .. => rfl

/-- The actions of instructions have no progress. -/
theorem Instruction.resetAll_toActions :
    ∀ body : List Instruction,
      Action.resetAll (Instruction.toActions body) = Instruction.toActions body
  | [] => rfl
  | instruction :: rest => by
    simp only [Instruction.toActions, Action.resetAll, Instruction.reset_toAction instruction,
      Instruction.resetAll_toActions rest]

end

/-- What holds of a world without scenes, and is kept when scenes are added and the first one is
made the current one before anyone is the player, and when control is then handed over, holds of a
built world. -/
theorem Definition.build_keeps {d : Definition} {w : World} (kept : World → Prop)
    (bare : kept { World.empty with
      title := d.game.title
      properties := d.properties
      verbs := VerbDefinition.toTable d.verbs })
    (addScene : ∀ w, kept w → w.player = none → ∀ scene ∈ d.scenes,
      kept (w.addScene scene.toScene))
    (enter : ∀ w, kept w → w.player = none → ∀ id, (w.scene? id).isSome →
      kept { w with currentScene := some id })
    (handOver : ∀ w, kept w → w.player = none → ∀ id, (w.current?.bind (·.actor? id)).isSome →
      kept (w.handOver (some id)))
    (built : d.build = .ok w) : kept w := by
  have furnished : ∀ (scenes : List SceneDefinition) (w : World),
      (∀ scene ∈ scenes, scene ∈ d.scenes) → kept w → w.player = none →
        kept (scenes.foldl (fun world scene => world.addScene scene.toScene) w) ∧
        (scenes.foldl (fun world scene => world.addScene scene.toScene) w).player = none := by
    intro scenes
    induction scenes with
    | nil => exact fun w _ holds nobody => ⟨holds, nobody⟩
    | cons scene rest ih =>
      intro w listed holds nobody
      rw [List.forall_mem_cons] at listed
      exact ih _ listed.2 (addScene w holds nobody scene listed.1) nobody
  rcases furnished d.scenes _ (fun _ member => member) bare rfl with ⟨holds, nobody⟩
  simp only [Definition.build] at built
  split at built
  · next present =>
    have entered := enter _ holds nobody d.game.initialScene present
    split at built
    · cases built
      exact entered
    · next player _ =>
      split at built
      · next stage set =>
        cases built
        obtain ⟨isThere, text, rfl⟩ := Stage.setPlayer_eq_ok set
        exact handOver _ entered nobody player (isThere player rfl)
      · cases built
  · cases built

/-- Adding actors to a scene leaves its id. -/
private theorem Scene.id_addActors (actors : List ActorDefinition) (s : Scene) :
    (actors.foldl (fun scene actor => scene.addActor actor.toActor) s).id = s.id := by
  induction actors generalizing s with
  | nil => rfl
  | cons actor rest ih => exact ih _

namespace SceneDefinition

theorem id_toScene (d : SceneDefinition) : d.toScene.id = d.id :=
  Scene.id_addActors d.actors _

/-- Every actor of the scene of a definition stands in the definition. -/
theorem exists_of_actor?_toScene {d : SceneDefinition} {id : String} {a : Actor}
    (found : d.toScene.actor? id = some a) :
    ∃ actor ∈ d.actors, actor.id = id ∧ a = { actor.toActor with scene := some d.id } := by
  have furnished : ∀ (actors : List ActorDefinition) (s : Scene), s.id = d.id →
      (∀ actor ∈ actors, actor ∈ d.actors) →
      (actors.foldl (fun scene actor => scene.addActor actor.toActor) s).actor? id = some a →
        s.actor? id = some a ∨
          ∃ actor ∈ d.actors, actor.id = id ∧ a = { actor.toActor with scene := some d.id } := by
    intro actors
    induction actors with
    | nil => exact fun s _ _ found => .inl found
    | cons actor rest ih =>
      intro s sameId listed found
      rw [List.forall_mem_cons] at listed
      rcases ih (s.addActor actor.toActor) sameId listed.2 found with earlier | later
      · simp only [Scene.addActor, Scene.actor?, Roster.get?_insert] at earlier
        split at earlier
        · next same =>
          cases earlier
          exact .inr ⟨actor, listed.1, same.symm, by rw [sameId]⟩
        · exact .inl earlier
      · exact .inr later
  rcases furnished d.actors _ rfl (fun _ member => member) found with before | stands
  · cases before
  · exact stands

end SceneDefinition

/-- Every actor of a built world stands in the definition of a scene of that id. -/
theorem Definition.exists_of_actor?_build {d : Definition} {w : World} (built : d.build = .ok w)
    {scene id : String} {a : Actor} (found : w.actor? scene id = some a) :
    ∃ definition ∈ d.scenes, definition.id = scene ∧ ∃ actor ∈ definition.actors,
      actor.id = id ∧ ∃ interaction,
        a = { actor.toActor with scene := some scene, interaction } := by
  refine build_keeps (fun w => ∀ a, w.actor? scene id = some a →
    ∃ definition ∈ d.scenes, definition.id = scene ∧ ∃ actor ∈ definition.actors,
      actor.id = id ∧ ∃ interaction, a = { actor.toActor with scene := some scene, interaction })
    ?_ ?_ ?_ ?_ built a found
  · rintro a ⟨⟩
  · intro w known _ definition member a found
    simp only [World.actor?, World.scene?, World.addScene, Table.get?_insert] at found
    split at found
    · next same =>
      have sameId := definition.id_toScene.symm.trans (Std.LawfulEqCmp.eq_of_compare same).symm
      rcases SceneDefinition.exists_of_actor?_toScene found with ⟨actor, listed, isId, rfl⟩
      subst sameId
      exact ⟨definition, member, rfl, actor, listed, isId, actor.interaction, rfl⟩
    · exact known a found
  · exact fun w known _ _ _ => known
  · intro w known _ other _ a found
    rw [World.actor?_handOver] at found
    rcases Option.map_eq_some_iff.mp found with ⟨before, isThere, rfl⟩
    rcases known before isThere with ⟨definition, member, isScene, actor, listed, isId, _, rfl⟩
    refine ⟨definition, member, isScene, actor, listed, isId, ?_⟩
    split
    · split
      · exact ⟨_, rfl⟩
      · split <;> exact ⟨_, rfl⟩
    · exact ⟨_, rfl⟩

/-- Every entry of the table of a list is an entry of the list. -/
theorem Table.mem_of_get?_ofList {κ ν : Type} [Ord κ] [Std.TransOrd κ] [Std.LawfulEqOrd κ]
    {entries : List (κ × ν)} {key : κ} {value : ν}
    (found : (Table.ofList entries).get? key = some value) : (key, value) ∈ entries := by
  have fromHere : ∀ (entries : List (κ × ν)) (t : Table κ ν),
      (entries.foldl (fun t entry => t.insert entry.1 entry.2) t).get? key = some value →
        t.get? key = some value ∨ (key, value) ∈ entries := by
    intro entries
    induction entries with
    | nil => exact fun t inTable => .inl inTable
    | cons entry rest ih =>
      intro t inTable
      rcases ih _ inTable with earlier | later
      · rw [Table.get?_insert] at earlier
        split at earlier
        · next same =>
          cases earlier
          rw [Std.LawfulEqCmp.eq_of_compare same]
          exact .inr (List.mem_cons_self ..)
        · exact .inl earlier
      · exact .inr (List.mem_cons_of_mem _ later)
  rcases fromHere entries Table.empty found with inEmpty | listed
  · cases inEmpty
  · exact listed

/-- Every script of the table of a list is that of a definition in the list. -/
theorem VerbDefinition.exists_of_get?_toTable {definitions : List VerbDefinition} {key : Key}
    {script : Script Action} (found : (toTable definitions).get? key = some script) :
    ∃ definition ∈ definitions, definition.toVerb.script = script := by
  have listed := Table.mem_of_get?_ofList found
  simp only [List.map_map, List.mem_map, Function.comp, Prod.mk.injEq] at listed
  rcases listed with ⟨definition, member, _, same⟩
  exact ⟨definition, member, same⟩

/-- The verb definitions of a scene and of its actors. -/
def SceneDefinition.allVerbs (d : SceneDefinition) : List VerbDefinition :=
  d.verbs ++ d.actors.flatMap (·.verbs)

/-- All verb definitions of a definition. -/
def Definition.allVerbs (d : Definition) : List VerbDefinition :=
  d.verbs ++ d.scenes.flatMap (·.allVerbs)

/-- A table all of whose scripts are of a kind. -/
def VerbTable.Each (kind : Script Action → Prop) (verbs : VerbTable) : Prop :=
  ∀ key script, verbs.get? key = some script → kind script

/-- A scene in which all scripts of verbs are of a kind. -/
def Scene.Each (kind : Script Action → Prop) (s : Scene) : Prop :=
  s.verbs.Each kind ∧ ∀ id actor, s.actor? id = some actor → actor.verbs.Each kind

/-- A world in which all scripts of verbs are of a kind. -/
def World.Each (kind : Script Action → Prop) (w : World) : Prop :=
  ∀ owner verbs, w.verbs? owner = some verbs → verbs.Each kind

/-- A world in which no verb has been started. -/
def World.Fresh (w : World) : Prop := w.Each fun script => ∃ actions, script = .ofActions actions

section

variable {kind : Script Action → Prop}

theorem VerbDefinition.toTable_each {definitions : List VerbDefinition}
    (written : ∀ definition ∈ definitions, kind definition.toVerb.script) :
    (VerbDefinition.toTable definitions).Each kind := by
  intro key script found
  rcases exists_of_get?_toTable found with ⟨definition, member, rfl⟩
  exact written definition member

theorem VerbTable.empty_each : VerbTable.Each kind ∅ := by
  intro key script found
  cases found

theorem Scene.addActor_each {s : Scene} (each : s.Each kind) {actor : Actor}
    (actorEach : actor.verbs.Each kind) : (s.addActor actor).Each kind := by
  refine ⟨each.1, fun id other found => ?_⟩
  simp only [Scene.addActor, Scene.actor?, Roster.get?_insert] at found
  split at found
  · cases found
    exact actorEach
  · exact each.2 id other found

theorem SceneDefinition.toScene_each {d : SceneDefinition}
    (written : ∀ definition ∈ d.allVerbs, kind definition.toVerb.script) :
    d.toScene.Each kind := by
  have furnished : ∀ (actors : List ActorDefinition) (s : Scene),
      (∀ actor ∈ actors, actor ∈ d.actors) → s.Each kind →
        (actors.foldl (fun scene actor => scene.addActor actor.toActor) s).Each kind := by
    intro actors
    induction actors with
    | nil => exact fun s _ each => each
    | cons actor rest ih =>
      intro s listed each
      rw [List.forall_mem_cons] at listed
      refine ih _ listed.2 (Scene.addActor_each each (VerbDefinition.toTable_each ?_))
      intro definition member
      exact written definition (List.mem_append_right _
        (List.mem_flatMap.mpr ⟨actor, listed.1, member⟩))
  constructor
  · apply VerbDefinition.toTable_each
    exact fun definition member => written definition (List.mem_append_left _ member)
  · refine (furnished d.actors _ (fun _ member => member) ⟨VerbTable.empty_each, ?_⟩).2
    intro id actor found
    cases found

namespace World

theorem addScene_each {w : World} (each : w.Each kind) {scene : Scene}
    (sceneEach : scene.Each kind) : (w.addScene scene).Each kind := by
  intro owner verbs present
  cases owner with
  | world => exact each .world verbs present
  | scene id =>
    simp only [verbs?, scene?, addScene, Table.get?_insert] at present
    split at present
    · cases present
      exact sceneEach.1
    · exact each (.scene id) verbs present
  | actor home id =>
    simp only [verbs?, actor?, scene?, addScene, Table.get?_insert] at present
    split at present
    · obtain ⟨actor, found, rfl⟩ := Option.map_eq_some_iff.mp present
      exact sceneEach.2 id actor found
    · exact each (.actor home id) verbs present

theorem Each.of_script? {w : World} (each : w.Each kind) {h : Handle} {script : Script Action}
    (found : w.script? h = some script) : kind script := by
  obtain ⟨verbs, present, inTable⟩ := (w.script?_eq_some_iff h script).mp found
  exact each h.owner verbs present h.key script inTable

/-- Control is handed over without changing a verb. -/
theorem Each.handOver {w : World} (each : w.Each kind) (actor : Option String) :
    (w.handOver actor).Each kind := by
  intro owner verbs present
  rw [World.verbs?_handOver] at present
  exact each owner verbs present

end World

/-- The verbs of a built world are those of the verb definitions. -/
theorem Definition.build_each {d : Definition} {w : World}
    (written : ∀ definition ∈ d.allVerbs, kind definition.toVerb.script)
    (built : d.build = .ok w) : w.Each kind := by
  refine build_keeps (World.Each kind) ?_ ?_ ?_ ?_ built
  · intro owner verbs present
    cases owner with
    | world =>
      cases present
      apply VerbDefinition.toTable_each
      exact fun definition member => written definition (List.mem_append_left _ member)
    | scene id => cases present
    | actor home id => cases present
  · intro w each _ scene listed
    refine World.addScene_each each (SceneDefinition.toScene_each ?_)
    intro definition member
    exact written definition (List.mem_append_right _
      (List.mem_flatMap.mpr ⟨scene, listed, member⟩))
  · exact fun w each _ _ _ => each
  · exact fun w each _ id _ => each.handOver (some id)

end

/-- No verb of a built world has been started. -/
theorem Definition.build_fresh {d : Definition} {w : World} (built : d.build = .ok w) : w.Fresh :=
  Definition.build_each (fun _ _ => ⟨_, rfl⟩) built

/-- No dialog is open in a built world. -/
theorem Definition.openDialog_build {d : Definition} {w : World} (built : d.build = .ok w) :
    w.openDialog = none := by
  have changed : ∀ (w : World) change, (w.modifyPlayer change).openDialog = w.openDialog := by
    intro w change
    unfold World.modifyPlayer
    split <;> rfl
  refine build_keeps (fun w => w.openDialog = none) ?_ ?_ ?_ ?_ built
  · rfl
  · exact fun w closed _ _ _ => closed
  · exact fun w closed _ _ _ => closed
  · exact fun w closed _ _ _ => (changed _ _).trans ((changed w _).trans closed)

/-! ## Stored worlds -/

/-- A world whose scenes and actors are found under their own ids. -/
def World.Keyed (w : World) : Prop :=
  ∀ id scene, w.scene? id = some scene →
    scene.id = id ∧ ∀ name actor, scene.actor? name = some actor → actor.id = name

namespace World

private theorem mem_handlesOf {owner : Owner} {verbs : VerbTable} {key : Key}
    {script : Script Action} (found : verbs.get? key = some script) :
    ⟨owner, key⟩ ∈ handlesOf owner verbs := by
  have member := (Table.get?_eq_some_iff verbs key script).mp found
  exact List.mem_map_of_mem (List.mem_map_of_mem member)

/-- Every verb of a keyed world is listed. -/
theorem Keyed.mem_handles {w : World} (keyed : w.Keyed) {h : Handle} {script : Script Action}
    (found : w.script? h = some script) : h ∈ w.handles := by
  obtain ⟨verbs, present, inTable⟩ := (w.script?_eq_some_iff h script).mp found
  obtain ⟨owner, key⟩ := h
  unfold handles
  have inScene : ∀ id, (w.scene? id).isSome → ⟨owner, key⟩ ∈ w.sceneHandles id →
      ⟨owner, key⟩ ∈ handlesOf .world w.verbs ++ w.scenes.keys.flatMap w.sceneHandles := by
    intro id isScene listed
    obtain ⟨scene, isThere⟩ := Option.isSome_iff_exists.mp isScene
    have member := (Table.get?_eq_some_iff w.scenes id scene).mp isThere
    exact List.mem_append_right _
      (List.mem_flatMap.mpr ⟨id, List.mem_map_of_mem member, listed⟩)
  cases owner with
  | world =>
    cases present
    exact List.mem_append_left _ (mem_handlesOf inTable)
  | scene id =>
    obtain ⟨scene, isThere, rfl⟩ := Option.map_eq_some_iff.mp present
    refine inScene id (by simp [isThere]) ?_
    simp only [sceneHandles, isThere]
    exact List.mem_append_left _ (mem_handlesOf inTable)
  | actor home id =>
    obtain ⟨actor, found, rfl⟩ := Option.map_eq_some_iff.mp present
    obtain ⟨scene, isThere, inRoster⟩ := Option.bind_eq_some_iff.mp found
    refine inScene home (by simp [isThere]) ?_
    simp only [sceneHandles, isThere]
    refine List.mem_append_right _ (List.mem_flatMap.mpr ⟨actor, ?_, ?_⟩)
    · exact List.mem_map_of_mem ((Roster.get?_eq_some_iff scene.actors id actor).mp inRoster)
    · rw [(keyed home scene isThere).2 id actor inRoster]
      exact mem_handlesOf inTable

/-- The verbs of a keyed world in which nothing is wrong are sound. -/
theorem Keyed.sound {w : World} (keyed : w.Keyed) (right : w.verbError? = none) {h : Handle}
    {script : Script Action} (found : w.script? h = some script) : script.corruption? = none := by
  have listed := keyed.mem_handles found
  simp only [verbError?, Option.or_eq_none_iff] at right
  have checked := List.findSome?_eq_none_iff.mp right.1 h listed
  simpa [found] using checked

end World

/-- The stages on which a game begins, with any settings. -/
inductive Stage.Opening : Stage → Prop
  /-- The world of a definition is played. -/
  | built {d : Definition} {w : World} (settings : Settings) (built : d.build = .ok w) :
      Opening (Stage.ofWorld w settings)
  /-- The world of a saved game is taken up. -/
  | loaded {path text : String} {w : World} {s : Stage} (settings : Settings)
      (parsed : World.parse? text = some w) (keyed : w.Keyed)
      (taken : loadText path text = .ok s) : Opening { s with settings }

/-! ## A small game -/

/-- A game in a hall with a clerk.  Talking to the clerk opens a dialog whose only option is to talk
to the clerk again, and ringing for the clerk is talking if that is all right. -/
def Definition.hall : Definition where
  game := ⟨"Hall", "hall", "1", "hall", none⟩
  scenes := [{
    id := "hall"
    state := none
    layers := [⟨"main", true, false⟩]
    actors := [{
      id := "clerk"
      desc := ""
      layer := "main"
      pos := ⟨0, 0⟩
      corners := []
      zIndex := 0
      state := none
      visible := true
      interaction := true
      verbs := [⟨⟨"talk", none, none⟩,
        [.showDialog none "offer", .setState .owner (some "met")]⟩]
      dialogs := [⟨"offer", [⟨"Again", some "talk", false⟩]⟩]
      sounds := []
      properties := ∅ }]
    verbs := [⟨⟨"ring", none, none⟩,
      [.conditional (.all []) [.runVerb (.actor "clerk") "talk" none], .setState .scene none]⟩]
    properties := ∅ }]
  verbs := []
  properties := ∅

/-- The world with which the game in the hall begins. -/
def World.hall : World := Definition.hall.build.toOption.getD .empty

theorem World.hall_built : Definition.hall.build = .ok World.hall := rfl

/-- A game on stairs that lead from a landing to a cellar and at once back up, and so on in a
circle.  Going is going down, and the two verbs cancel each other; on the way through the cellar the
verb that goes down gets a new definition. -/
def Definition.stairs : Definition where
  game := ⟨"Stairs", "stairs", "1", "landing", none⟩
  scenes := [{
    id := "landing"
    state := none
    layers := []
    actors := []
    verbs := [⟨⟨"init", none, none⟩, [.changeScene "cellar"]⟩]
    properties := ∅ }, {
    id := "cellar"
    state := none
    layers := []
    actors := []
    verbs := [⟨⟨"init", none, none⟩,
      [.addVerb .world ⟨"down", none, none⟩ [.setState .world (some "below")],
        .changeScene "landing"]⟩]
    properties := ∅ }]
  verbs := [
    ⟨⟨"go", none, none⟩, [.runVerb .world "down" none, .cancelVerb .world "down" none]⟩,
    ⟨⟨"down", none, none⟩, [.changeScene "cellar", .cancelVerb .world "go" none, .wait 1]⟩]
  properties := ∅

/-- The world with which the game on the stairs begins. -/
def World.stairs : World := Definition.stairs.build.toOption.getD .empty

theorem World.stairs_built : Definition.stairs.build = .ok World.stairs := rfl

end Stagecraft
