import Stagecraft.Proofs.Belongings
import Stagecraft.Proofs.Resolving

/-!
# References in play

A verb that an action installs is checked for the owner of that action, but runs for the one that
gets it.  Where every such verb would pass the check also with all those who may get it, and no actor
is ever removed, no action of a scene or an actor fails because of a dangling reference, however the
game is played.
-/

namespace Stagecraft

/-! ## Who gets verbs -/

namespace Definition

variable (d : Definition)

/-- The scenes in which a verb of an owner may act: its own, or for the world any one. -/
def homes : Owner → List String
  | .world => d.scenes.map (·.id)
  | .scene home | .actor home _ => [home]

/-- Whom a target may mean in a verb of an owner. -/
def meant (owner : Owner) : Target → List Owner
  | .owner => [owner]
  | .actor id => (d.homes owner).map (.actor · id)
  | .scene => (d.homes owner).map .scene
  | .world => [.world]

/-- Whether an instruction passes the check in a verb of an owner, if that is a scene or an actor of
the definition. -/
def suits (owner : Owner) (instruction : Instruction) : Bool :=
  match d.place? owner with
  | some (scope, _) => owner == .world || (instruction.defects scope "").isEmpty
  | none => true

end Definition

mutual

/-- Whether the verbs that an instruction installs when it runs for an owner pass the check with all
who may get them. -/
def Instruction.delivers (d : Definition) (owner : Owner) : Instruction → Bool
  | .conditional _ body => Instruction.allDeliver d owner body
  | .addVerb whose _ body => (d.meant owner whose).all fun recipient =>
    body.all (d.suits recipient) && Instruction.allDeliver d recipient body
  | _ => true

/-- Whether that is so for all instructions of a list. -/
def Instruction.allDeliver (d : Definition) (owner : Owner) : List Instruction → Bool
  | [] => true
  | instruction :: rest => instruction.delivers d owner && Instruction.allDeliver d owner rest

end

mutual

/-- Whether an instruction removes no actor, and installs no verb that does. -/
def Instruction.removesNone : Instruction → Bool
  | .removeActor _ => false
  | .conditional _ body | .addVerb _ _ body => Instruction.allRemoveNone body
  | _ => true

/-- Whether that is so for all instructions of a list. -/
def Instruction.allRemoveNone : List Instruction → Bool
  | [] => true
  | instruction :: rest => instruction.removesNone && Instruction.allRemoveNone rest

end

/-- Whether something is so of all instructions that stand in verbs, each with the owner of its
verb. -/
def Definition.every (d : Definition) (holds : Owner → Instruction → Bool) : Bool :=
  (d.verbs.all fun verb => verb.body.all (holds .world)) &&
    d.scenes.all fun scene =>
      (scene.verbs.all fun verb => verb.body.all (holds (.scene scene.id))) &&
        scene.actors.all fun actor =>
          actor.verbs.all fun verb => verb.body.all (holds (.actor scene.id actor.id))

/-- What is so of all instructions is so of those in the verbs of an owner. -/
theorem Definition.of_every {d : Definition} {holds : Owner → Instruction → Bool}
    (everywhere : d.every holds) {owner : Owner} {scope : Scope} {verbs : List VerbDefinition}
    (place : d.place? owner = some (scope, verbs)) {verb : VerbDefinition} (member : verb ∈ verbs)
    {instruction : Instruction} (inBody : instruction ∈ verb.body) : holds owner instruction := by
  simp only [every, Bool.and_eq_true, List.all_eq_true] at everywhere
  rcases everywhere with ⟨ofWorld, ofScenes⟩
  cases owner with
  | world =>
    cases place
    exact ofWorld verb member instruction inBody
  | scene home =>
    rcases Option.map_eq_some_iff.mp place with ⟨scene, isScene, same⟩
    cases same
    have sameId : scene.id = home := by simpa using List.find?_some isScene
    rw [← sameId]
    exact (ofScenes scene (List.mem_of_find?_eq_some isScene)).1 verb member instruction inBody
  | actor home id =>
    rcases Option.bind_eq_some_iff.mp place with ⟨scene, isScene, place⟩
    rcases Option.map_eq_some_iff.mp place with ⟨actor, isActor, same⟩
    cases same
    have sameHome : scene.id = home := by simpa using List.find?_some isScene
    have sameId : actor.id = id := by simpa using List.find?_some isActor
    rw [← sameHome, ← sameId]
    exact (ofScenes scene (List.mem_of_find?_eq_some isScene)).2 actor
      (List.mem_of_find?_eq_some isActor) verb member instruction inBody

/-! ## Sound instructions -/

/-- Whether an instruction has been checked for the owner it runs for, if that is a scene or an
actor, installs only verbs that pass the check with all who may get them, and removes no actor. -/
structure Instruction.Sound (d : Definition) (owner : Owner) (instruction : Instruction) : Prop where
  checked : owner ≠ .world → ∃ scope verbs context, d.place? owner = some (scope, verbs) ∧
    instruction.defects scope context = []
  delivers : instruction.delivers d owner
  removesNone : instruction.removesNone

namespace Instruction

variable {d : Definition} {owner recipient : Owner}

theorem allDeliver_iff (body : List Instruction) :
    Instruction.allDeliver d owner body ↔ ∀ instruction ∈ body, instruction.delivers d owner := by
  induction body with
  | nil => simp [Instruction.allDeliver]
  | cons instruction rest ih => simp [Instruction.allDeliver, ih]

theorem allRemoveNone_iff (body : List Instruction) :
    Instruction.allRemoveNone body ↔ ∀ instruction ∈ body, instruction.removesNone := by
  induction body with
  | nil => simp [Instruction.allRemoveNone]
  | cons instruction rest ih => simp [Instruction.allRemoveNone, ih]

/-- What stands in a sound condition is sound. -/
theorem sound_inside {condition : Condition} {body : List Instruction}
    (sound : Sound d owner (.conditional condition body)) :
    ∀ instruction ∈ body, Sound d owner instruction := by
  intro instruction member
  constructor
  · intro inScene
    rcases sound.checked inScene with ⟨scope, verbs, context, place, checked⟩
    simp only [Instruction.defects, List.append_eq_nil_iff] at checked
    rcases Instruction.defects_of_mem checked.2 member with ⟨context, checked⟩
    exact ⟨scope, verbs, context, place, checked⟩
  · exact (allDeliver_iff body).mp sound.delivers instruction member
  · exact (allRemoveNone_iff body).mp sound.removesNone instruction member

/-- The verb that a sound instruction installs is sound for everyone of the definition who may get
it. -/
theorem sound_installed {whose : Target} {key : Key} {body : List Instruction}
    (sound : Sound d owner (.addVerb whose key body)) (isMeant : recipient ∈ d.meant owner whose)
    (known : (d.place? recipient).isSome) : ∀ instruction ∈ body, Sound d recipient instruction := by
  intro instruction member
  have delivers := sound.delivers
  simp only [Instruction.delivers, List.all_eq_true, Bool.and_eq_true] at delivers
  rcases delivers recipient isMeant with ⟨suits, delivered⟩
  rcases Option.isSome_iff_exists.mp known with ⟨⟨scope, verbs⟩, place⟩
  constructor
  · intro inScene
    have passes := suits instruction member
    simp only [Definition.suits, place, Bool.or_eq_true, beq_iff_eq, inScene, false_or,
      List.isEmpty_iff] at passes
    exact ⟨scope, verbs, "", place, passes⟩
  · exact (allDeliver_iff body).mp delivered instruction member
  · exact (allRemoveNone_iff body).mp sound.removesNone instruction member

end Instruction

/-! ## What is kept -/

namespace Definition

variable {d : Definition} {w w' : World}

/-- The scene in which a verb acts is one in which it may act, if it stands in the definition. -/
theorem mem_homes {f : Frame} {scene : String} (here : f.sceneId = .ok scene)
    (known : (d.scene? scene).isSome) : scene ∈ d.homes f.scope := by
  unfold Frame.sceneId at here
  cases owner : f.scope with
  | world =>
    rcases Option.isSome_iff_exists.mp known with ⟨definition, isScene⟩
    have sameId : definition.id = scene := by simpa using List.find?_some isScene
    exact List.mem_map.mpr ⟨definition, List.mem_of_find?_eq_some isScene, sameId⟩
  | scene home | actor home id =>
    rw [owner] at here
    cases here
    exact List.mem_singleton_self _

/-- Whoever is in a furnished world and named by a target is among those whom it may mean. -/
theorem Furnishes.mem_meant {f : Frame} (furnishes : d.Furnishes f.stage.world) {whose : Target}
    {owner : Owner} (named : f.target whose = .ok owner)
    (present : (f.stage.world.verbs? owner).isSome) : owner ∈ d.meant f.scope whose := by
  have known := furnishes.known owner present
  cases whose with
  | owner =>
    cases named
    exact List.mem_singleton_self f.scope
  | world =>
    cases named
    exact List.mem_singleton_self Owner.world
  | actor id =>
    simp only [Frame.target] at named
    cases here : f.sceneId with
    | error reason =>
      rw [here] at named
      cases named
    | ok scene =>
      rw [here] at named
      cases named
      apply List.mem_map_of_mem (mem_homes here _)
      simp only [place?, Option.isSome_bind] at known
      exact Option.isSome_of_any known
  | scene =>
    simp only [Frame.target] at named
    cases here : f.sceneId with
    | error reason =>
      rw [here] at named
      cases named
    | ok scene =>
      rw [here] at named
      cases named
      apply List.mem_map_of_mem (mem_homes here _)
      simpa only [place?, Option.isSome_map] using known

/-- A world stays furnished while nobody comes and nobody goes. -/
theorem Furnishes.of_stays (furnishes : d.Furnishes w) (stays : w.StaysFurnished w')
    (noneComes : ∀ owner, (w'.verbs? owner).isSome → (w.verbs? owner).isSome) : d.Furnishes w' where
  known owner present := furnishes.known owner (noneComes owner present)
  actors := by
    intro home scene id actor isScene isActor
    rcases furnishes.actors home scene id actor isScene isActor with ⟨a, found, equips⟩
    rcases stays home id a found with ⟨a', found', sameSounds, sameDialogs⟩
    refine ⟨a', found', ?_, ?_⟩
    · rw [sameSounds]
      exact equips.sounds
    · rw [sameDialogs]
      exact equips.dialogs

/-- Sound instructions are performed in a furnished world. -/
def soundness (d : Definition) : Placement where
  fits := Instruction.Writes (Instruction.Sound d)
  filed _ _ := True
  holds _ _ w := d.Furnishes w
  installs {f whose key script owner} furnishes writes named present := by
    rcases writes with ⟨instruction, written, sound⟩
    cases instruction with
    | addVerb whose key body =>
      cases written
      constructor
      · simp only [Script.reset, Instruction.resetAll_toActions, Script.ofActions]
        apply Instruction.placed_toActions Instruction.sound_inside
        exact Instruction.sound_installed sound (furnishes.mem_meant named present)
          (furnishes.known owner present)
      · trivial
    | _ => cases written
  deed {driver s deed} allowed licensed furnishes := by
    have removesNone : ∀ scene actor, deed ≠ .remove scene actor := by
      rintro scene actor rfl
      rcases licensed with ⟨owner, instruction, written, sound⟩
      cases instruction with
      | removeActor => cases sound.removesNone
      | _ => cases written
    exact furnishes.of_stays (Deed.staysFurnished removesNone s) fun owner => allowed.isSome_verbs?
  verbs {_ _ w} owner change furnishes := by
    apply furnishes.of_stays (.modifyVerbs w owner change)
    intro other present
    rwa [World.isSome_verbs?_modifyVerbs] at present
  shows _ furnishes := ⟨furnishes.known, furnishes.actors⟩
  closes _ furnishes := furnishes

/-- The world of a definition is furnished before anyone is the player. -/
theorem furnishes_furnished (distinct : d.Distinct) : d.Furnishes d.furnished where
  known owner present := by
    rwa [verbs?_furnished distinct, Option.isSome_map] at present
  actors := by
    intro home scene id actor isScene isActor
    have found : d.furnished.actor? home id = some { actor.toActor with scene := some scene.id } := by
      simp only [actor?_furnished distinct, isScene, Option.bind_some, isActor, Option.map_some]
    refine ⟨_, found, ?_, ?_⟩
    · simp [ActorDefinition.toActor, Function.comp_def]
    · simp [ActorDefinition.toActor, DialogDefinition.toDialog, Function.comp_def]

/-- The world that is built from a definition without defects is furnished. -/
theorem furnishes_build (checked : d.defects = []) (built : d.build = .ok w) : d.Furnishes w := by
  have furnishes := furnishes_furnished (distinct_of_checked checked)
  rcases build_of_checked checked with ⟨_, isBuilt, _, rfl | ⟨player, rfl⟩⟩
  · cases isBuilt.symm.trans built
    exact furnishes
  · cases isBuilt.symm.trans built
    have hands : ∀ scene id, Deed.setPlayer player ≠ .remove scene id := by simp
    have stays : d.furnished.StaysFurnished (d.furnished.handOver player) :=
      Deed.staysFurnished hands (Stage.ofWorld d.furnished)
    apply furnishes.of_stays stays
    intro owner present
    rwa [World.verbs?_handOver] at present

/-- The world that is built is kept, if the verbs that are installed pass the check and no actor is
removed. -/
theorem keeps_soundness (checked : d.defects = [])
    (delivers : d.every fun owner instruction => instruction.delivers d owner)
    (removesNone : d.every fun _ instruction => instruction.removesNone)
    (built : d.build = .ok w) (settings : Settings) :
    d.soundness.Keeps (Stage.ofWorld w settings) where
  world := furnishes_build checked built
  scripts h script found := by
    rcases exists_verb_of_build checked built found with ⟨scope, verbs, place, verb, member, rfl⟩
    rcases verb_checked checked place member with ⟨context, verbChecked⟩
    simp only [VerbDefinition.defects, List.append_eq_nil_iff] at verbChecked
    constructor
    · apply Instruction.placed_toActions Instruction.sound_inside
      intro instruction inBody
      rcases Instruction.defects_of_mem verbChecked.2 inBody with ⟨context, checked⟩
      exact ⟨fun _ => ⟨scope, verbs, context, place, checked⟩, of_every delivers place member inBody,
        of_every removesNone place member inBody⟩
    · trivial

/-- Let a definition have no defects, let the verbs that its actions install pass the check with all
who may get them, and let it remove no actor.  Then in no game that is played with it does anything
fail because of a dangling reference that is performed, or for which time passes, on behalf of a scene
or an actor. -/
theorem resolves (checked : d.defects = [])
    (delivers : d.every fun owner instruction => instruction.delivers d owner)
    (removesNone : d.every fun _ instruction => instruction.removesNone) :
    ∃ w, d.build = .ok w ∧ ∀ settings moves m depth attempt g,
      ((Stage.ofWorld w settings).play moves).Attempts m depth attempt g → g.scope ≠ .world →
        ∀ below reason, attempt.fault? below g = some reason → reason.isDangling = false := by
  rcases build_of_checked checked with ⟨w, built, _⟩
  refine ⟨w, built, fun settings moves m depth attempt g attempts inScene below reason failed => ?_⟩
  have hosts := ((keeps_soundness checked delivers removesNone built settings).play moves).attempts
    attempts
  rcases hosts.placed.own with ⟨instruction, written, sound⟩
  rcases sound.checked inScene with ⟨scope, verbs, context, place, checked⟩
  have resolving : d.Hosts g scope := ⟨hosts.keeps.world, ⟨verbs, place⟩, inScene⟩
  cases attempt with
  | perform action =>
    have isFault : (Action.perform below action g).2.1.resolves := by
      have notRemoval : ∀ actor, instruction ≠ .removeActor actor := by
        rintro actor rfl
        cases sound.removesNone
      rcases Action.exists_perform_eq below with ⟨inner, same⟩
      have resolves := Instruction.resolves_performWith inner resolving checked notRemoval
      rw [written, Attempt.action, Action.resolves_performWith_reset] at resolves
      rwa [same]
    simp only [Attempt.fault?] at failed
    split at failed
    · next reason failedSo =>
      cases failed
      rw [failedSo] at isFault
      simpa [Outcome.resolves] using isFault
    · cases failed
  | tick delta action =>
    simp only [Attempt.fault?] at failed
    split at failed
    · next failedSo =>
      cases failed
      exact Instruction.resolves_tick resolving checked written failedSo
    · cases failed

end Definition

/-! ## A small game -/

/-- A game in a smithy.  Forging gives the smithy a verb with which a sound is heard: the smith's, if
it is said whose it is. -/
def Definition.smithy (whose : Option String) : Definition where
  game := ⟨"Smithy", "smithy", "1", "smithy", none⟩
  scenes := [{
    id := "smithy"
    state := none
    layers := [⟨"main", true, false⟩]
    actors := [{
      id := "smith"
      desc := ""
      layer := "main"
      pos := ⟨0, 0⟩
      corners := []
      zIndex := 0
      state := none
      visible := true
      interaction := true
      verbs := [⟨⟨"forge", none, none⟩,
        [.addVerb .scene ⟨"ring", none, none⟩ [.playSound whose "clang"]]⟩]
      dialogs := []
      sounds := [⟨"clang", "clang.ogg", false, 1⟩]
      properties := ∅ }]
    verbs := []
    properties := ∅ }]
  verbs := []
  properties := ∅

/-- The stage in the smithy after forging. -/
def Stage.forged (whose : Option String) : Stage :=
  (Stage.ofWorld ((Definition.smithy whose).build.toOption.getD .empty)).play
    [(.runVerb (.actor "smithy" "smith") "forge" none, 2)]

/-- After forging the sound is played on behalf of the smithy. -/
theorem Stage.forged_attempts {whose : Option String}
    (known : whose = none ∨ whose = some "smith") :
    ∃ g, (Stage.forged whose).Attempts (.runVerb (.scene "smithy") "ring" none) 2
      (.perform (.playSound whose "clang")) g ∧ g.scope = .scene "smithy" := by
  rcases known with rfl | rfl
  · exact ⟨_, ⟨.run, ⟨.scene "smithy", "ring", none, none⟩, Stage.forged none,
      .ofActions [.playSound none "clang"], .runVerb rfl, List.not_mem_nil, rfl,
      .perform ⟨rfl, rfl, rfl⟩ (.here rfl) .itself⟩, rfl⟩
  · exact ⟨_, ⟨.run, ⟨.scene "smithy", "ring", none, none⟩, Stage.forged (some "smith"),
      .ofActions [.playSound (some "smith") "clang"], .runVerb rfl, List.not_mem_nil, rfl,
      .perform ⟨rfl, rfl, rfl⟩ (.here rfl) .itself⟩, rfl⟩

/-- Where it is said that the sound is the smith's it is found. -/
theorem Stage.forged_resolves :
    (Definition.smithy (some "smith")).defects = [] ∧
    (∃ g, (Stage.forged (some "smith")).Attempts (.runVerb (.scene "smithy") "ring" none) 2
      (.perform (.playSound (some "smith") "clang")) g ∧ g.scope = .scene "smithy" ∧
        ∀ below reason, (Attempt.perform (.playSound (some "smith") "clang")).fault? below g =
          some reason → reason.isDangling = false) := by
  have checked : (Definition.smithy (some "smith")).defects = [] := rfl
  rcases Definition.resolves checked (by decide) (by decide) with ⟨w, built, resolves⟩
  have isBuilt : (Definition.smithy (some "smith")).build.toOption.getD .empty = w := by
    rw [built]
    rfl
  rcases Stage.forged_attempts (.inr rfl) with ⟨g, attempts, scope⟩
  refine ⟨checked, g, attempts, scope, ?_⟩
  unfold Stage.forged at attempts
  rw [isBuilt] at attempts
  exact resolves .standard _ _ 2 _ g attempts (by rw [scope]; nofun)

/-- A verb that leaves out whose sound it is passes the check, since it is the smith who installs it,
but the smithy that gets it is no actor. -/
theorem Stage.forged_dangles :
    (Definition.smithy none).defects = [] ∧
    (Definition.smithy none).every (fun _ instruction => instruction.removesNone) = true ∧
    ∃ g, (Stage.forged none).Attempts (.runVerb (.scene "smithy") "ring" none) 2
      (.perform (.playSound none "clang")) g ∧
        (Attempt.perform (.playSound none "clang")).fault? 2 g =
          some (.actorOmitted (.scene "smithy")) := by
  rcases Stage.forged_attempts (.inl rfl) with ⟨g, attempts, scope⟩
  refine ⟨rfl, by decide, g, attempts, ?_⟩
  simp only [Attempt.fault?, Action.perform, Action.performWith, Frame.playSound, Frame.actor,
    Frame.actorRef, scope]
  rfl

end Stagecraft
