import Stagecraft.Proofs.Checked

/-!
# Well-formed definitions

What the check of a definition asks for, told without its list of defects.  Ids are distinct,
numbers are in range, and every condition and every instruction, however deep it stands, finds what
it names where it stands: in the scope of the owner whose verbs hold it.  The instructions of a verb
that is to be installed are seen from there too, whoever may get it.  Main statement: nothing is
wrong with a definition exactly if it is well formed.
-/

namespace Stagecraft

/-! ## Texts and numbers -/

/-- Whether a text holds more than blanks. -/
def Text.IsFilled (text : String) : Prop := ∃ c ∈ text.toList, Text.isBlank c = false

@[simp] theorem Text.isBlankText_eq_false_iff (text : String) :
    Text.isBlankText text = false ↔ Text.IsFilled text := by
  simp [Text.isBlankText, Text.IsFilled]

/-- Whether a number can be the length of a pause in seconds. -/
def Single.IsDuration (x : Single) : Prop := x.isFinite = true ∧ 0 ≤ x

/-- Whether a number can be the speed of a walk. -/
def Single.IsSpeed (x : Single) : Prop := x.isFinite = true ∧ 0 < x

/-- Whether a number can be the volume of a sound. -/
def Single.IsVolume (x : Single) : Prop := 0 ≤ x ∧ x ≤ 1

@[simp] theorem durationDefects_eq_nil_iff (seconds : Single) (context : String) :
    durationDefects seconds context = [] ↔ seconds.IsDuration := by
  simp [durationDefects, Single.IsDuration]

@[simp] theorem pointDefects_eq_nil_iff (p : Point) (context : String) :
    pointDefects p context = [] ↔ p.isFinite = true := by
  simp [pointDefects]

/-! ## References -/

namespace Scope

/-- Whether an actor is the one that a reference means: the first of its id among the actors in
scope, or the owner of the verb if the reference is left out. -/
def Means (s : Scope) : Option String → ActorDefinition → Prop
  | some id, a => FirstOf (·.id = id) s.actors a
  | none, a => s.actor = some a

/-- Whether a target is there, for which only the name of an actor counts. -/
def HasTarget (s : Scope) : Target → Prop
  | .actor id => ∃ a ∈ s.actors, a.id = id
  | .owner | .scene | .world => True

variable (s : Scope) (actor : Option String) (context : String)

theorem actor?_eq_some_iff (a : ActorDefinition) : s.actor? actor = some a ↔ s.Means actor a := by
  cases actor with
  | none => rfl
  | some id =>
    exact List.find?_eq_some_iff_firstOf (fun a : ActorDefinition => a.id = id) s.actors a

/-- A named actor is meant by its name as soon as some actor in scope has it. -/
theorem exists_means_some_iff (id : String) :
    (∃ a, s.Means (some id) a) ↔ ∃ a ∈ s.actors, a.id = id := by
  simp only [← actor?_eq_some_iff, ← Option.isSome_iff_exists, actor?, List.find?_isSome,
    beq_iff_eq]

@[simp] theorem actorDefects_eq_nil_iff :
    s.actorDefects actor context = [] ↔ ∃ a, s.Means actor a := by
  simp only [actorDefects, defectUnless_eq_nil_iff, Option.isSome_iff_exists, actor?_eq_some_iff]

@[simp] theorem targetDefects_eq_nil_iff (target : Target) :
    s.targetDefects target context = [] ↔ s.HasTarget target := by
  cases target with
  | actor id =>
    exact (s.actorDefects_eq_nil_iff (some id) context).trans (s.exists_means_some_iff id)
  | _ => simp [targetDefects, HasTarget]

/-- There is no defect in a thing of an actor exactly if the actor is there and has it. -/
theorem belongingDefects_eq_nil_iff (kind : IdKind) (owned : ActorDefinition → List String)
    (id : String) :
    s.actorDefects actor context ++ s.belongingDefects actor kind owned id context = [] ↔
      ∃ a, s.Means actor a ∧ id ∈ owned a := by
  rw [List.append_eq_nil_iff, actorDefects_eq_nil_iff, belongingDefects]
  simp only [← actor?_eq_some_iff]
  cases s.actor? actor with
  | none => simp
  | some a => simp

end Scope

/-! ## Conditions -/

/-- The conditions that a condition combines. -/
def Condition.inside : Condition → List Condition
  | .not inner => [inner]
  | .all list | .any list => list
  | _ => []

/-- Whether a condition finds what it names itself. -/
def Condition.FitsIn (s : Scope) : Condition → Prop
  | .stateIs target _ | .propertyIs target _ _ => s.HasTarget target
  | .visible actor | .playerInside actor => ∃ a, s.Means actor a
  | .not _ | .all _ | .any _ => True

/-- Whether a condition and all that stand in it find what they name. -/
inductive Condition.WellFormed (s : Scope) : Condition → Prop
  | intro {condition : Condition} (own : condition.FitsIn s)
      (inner : ∀ part ∈ condition.inside, WellFormed s part) : WellFormed s condition

theorem Condition.wellFormed_iff (s : Scope) (condition : Condition) :
    condition.WellFormed s ↔ condition.FitsIn s ∧ ∀ part ∈ condition.inside, part.WellFormed s := by
  constructor
  · rintro ⟨own, inner⟩
    exact ⟨own, inner⟩
  · rintro ⟨own, inner⟩
    exact .intro own inner

mutual

/-- Nothing is wrong with a condition exactly if it is well formed. -/
theorem Condition.defects_eq_nil_iff (s : Scope) (context : String) : ∀ condition : Condition,
    condition.defects s context = [] ↔ condition.WellFormed s
  | .stateIs .. | .propertyIs .. | .visible _ | .playerInside _ => by
    rw [Condition.defects, Condition.wellFormed_iff]
    simp [FitsIn, inside]
  | .not inner => by
    rw [Condition.defects, Condition.defects_eq_nil_iff s context inner,
      Condition.wellFormed_iff s (.not inner)]
    simp [FitsIn, inside]
  | .all list | .any list => by
    rw [Condition.defects, Condition.listDefects_eq_nil_iff s context list,
      Condition.wellFormed_iff]
    simp [FitsIn, inside]

/-- Nothing is wrong with a list of conditions exactly if all of them are well formed. -/
theorem Condition.listDefects_eq_nil_iff (s : Scope) (context : String) : ∀ list : List Condition,
    Condition.listDefects s context list = [] ↔ ∀ condition ∈ list, condition.WellFormed s
  | [] => by simp [Condition.listDefects]
  | condition :: rest => by
    rw [Condition.listDefects, List.append_eq_nil_iff,
      Condition.defects_eq_nil_iff s context condition,
      Condition.listDefects_eq_nil_iff s context rest, List.forall_mem_cons]

end

/-! ## Instructions -/

/-- The instructions that stand in an instruction. -/
def Instruction.inside : Instruction → List Instruction
  | .conditional _ body | .addVerb _ _ body => body
  | _ => []

/-- Whether an instruction finds what it names itself, and its own numbers are in range. -/
def Instruction.FitsIn (s : Scope) : Instruction → Prop
  | .setState target _ | .setProperty target _ _ => s.HasTarget target
  | .setActorAttr actor _ _ _ => ∃ a, s.Means actor a
  | .position actor pos => (∃ a, s.Means actor a) ∧ pos.isFinite = true
  | .goto actor pos speed =>
    (∃ a, s.Means actor a) ∧ pos.isFinite = true ∧ ∀ v, speed = some v → v.IsSpeed
  | .playAnimation actor _ duration _ => (∃ a, s.Means actor a) ∧ duration.IsDuration
  | .playSound actor sound => ∃ a, s.Means actor a ∧ sound ∈ a.sounds.map (·.id)
  | .say actor _ duration _ => (∃ a, s.Means actor a) ∧ ∀ t, duration = some t → t.IsDuration
  | .wait seconds => seconds.IsDuration
  | .showDialog actor dialog => ∃ a, s.Means actor a ∧ dialog ∈ a.dialogs.map (·.id)
  | .conditional condition _ => condition.WellFormed s
  | .runVerb whose verb _ | .cancelVerb whose verb _ => s.HasTarget whose ∧ Text.IsFilled verb
  | .addVerb whose key _ => s.HasTarget whose ∧ Text.IsFilled key.id
  | .changeScene scene => ∃ d ∈ s.scenes, d.id = scene
  | .setPlayer actor => ∀ id, actor = some id → ∃ a ∈ s.actors, a.id = id
  | .removeActor id => ∃ a ∈ s.actors, a.id = id

/-- Whether an instruction and all that stand in it fit in a scope, also those of verbs that are to
be installed. -/
inductive Instruction.WellFormed (s : Scope) : Instruction → Prop
  | intro {instruction : Instruction} (own : instruction.FitsIn s)
      (inner : ∀ part ∈ instruction.inside, WellFormed s part) : WellFormed s instruction

theorem Instruction.wellFormed_iff (s : Scope) (instruction : Instruction) :
    instruction.WellFormed s ↔
      instruction.FitsIn s ∧ ∀ part ∈ instruction.inside, part.WellFormed s := by
  constructor
  · rintro ⟨own, inner⟩
    exact ⟨own, inner⟩
  · rintro ⟨own, inner⟩
    exact .intro own inner

@[simp] theorem verbIdDefects_eq_nil_iff (id context : String) :
    verbIdDefects id context = [] ↔ Text.IsFilled id := by
  simp [verbIdDefects]

mutual

/-- Nothing is wrong with an instruction exactly if it is well formed. -/
theorem Instruction.defects_eq_nil_iff (s : Scope) : ∀ (instruction : Instruction)
    (context : String), instruction.defects s context = [] ↔ instruction.WellFormed s
  | .setState .., context | .setProperty .., context | .setActorAttr .., context
  | .position .., context | .playAnimation .., context | .wait .., context
  | .runVerb .., context | .cancelVerb .., context | .changeScene .., context => by
    rw [Instruction.defects, Instruction.wellFormed_iff]
    simp [FitsIn, inside]
  | .removeActor id, context => by
    rw [Instruction.defects, Instruction.wellFormed_iff]
    simp [FitsIn, inside, s.exists_means_some_iff]
  | .goto actor pos speed, context => by
    rw [Instruction.wellFormed_iff]
    cases speed <;> simp [Instruction.defects, FitsIn, inside, Single.IsSpeed]
  | .say actor text duration waits, context => by
    rw [Instruction.wellFormed_iff]
    cases duration <;> simp [Instruction.defects, FitsIn, inside]
  | .playSound actor sound, context => by
    rw [Instruction.defects, s.belongingDefects_eq_nil_iff, Instruction.wellFormed_iff]
    simp only [FitsIn, inside, List.not_mem_nil, false_implies, implies_true, and_true]
  | .showDialog actor dialog, context => by
    rw [Instruction.defects, s.belongingDefects_eq_nil_iff, Instruction.wellFormed_iff]
    simp only [FitsIn, inside, List.not_mem_nil, false_implies, implies_true, and_true]
  | .setPlayer actor, context => by
    rw [Instruction.wellFormed_iff]
    cases actor <;> simp [Instruction.defects, FitsIn, inside, s.exists_means_some_iff]
  | .conditional condition body, context => by
    rw [Instruction.defects, List.append_eq_nil_iff, Condition.defects_eq_nil_iff,
      Instruction.listDefects_eq_nil_iff s body, Instruction.wellFormed_iff]
    rfl
  | .addVerb whose key body, context => by
    rw [Instruction.defects, List.append_eq_nil_iff, List.append_eq_nil_iff,
      s.targetDefects_eq_nil_iff, verbIdDefects_eq_nil_iff,
      Instruction.listDefects_eq_nil_iff s body, Instruction.wellFormed_iff]
    rfl

/-- Nothing is wrong with a list of instructions exactly if all of them are well formed. -/
theorem Instruction.listDefects_eq_nil_iff (s : Scope) : ∀ (body : List Instruction)
    (label : String) (number : Nat), Instruction.listDefects s label number body = [] ↔
      ∀ instruction ∈ body, instruction.WellFormed s
  | [], label, number => by simp [Instruction.listDefects]
  | instruction :: rest, label, number => by
    rw [Instruction.listDefects, List.append_eq_nil_iff,
      Instruction.defects_eq_nil_iff s instruction, Instruction.listDefects_eq_nil_iff s rest,
      List.forall_mem_cons]

end

/-! ## Verbs, actors and scenes -/

/-- Whether a verb can stand among the verbs of an owner. -/
structure VerbDefinition.WellFormed (s : Scope) (d : VerbDefinition) : Prop where
  named : Text.IsFilled d.key.id
  body : ∀ instruction ∈ d.body, instruction.WellFormed s

theorem VerbDefinition.defects_eq_nil_iff (s : Scope) (context : String) (d : VerbDefinition) :
    d.defects s context = [] ↔ d.WellFormed s := by
  rw [defects, List.append_eq_nil_iff, verbIdDefects_eq_nil_iff,
    Instruction.listDefects_eq_nil_iff]
  constructor
  · rintro ⟨named, body⟩
    exact ⟨named, body⟩
  · rintro ⟨named, body⟩
    exact ⟨named, body⟩

/-- Whether an actor is as it has to be, leaving its verbs aside. -/
structure ActorDefinition.WellFormed (d : ActorDefinition) : Prop where
  named : Text.IsFilled d.id
  region : d.corners = [] ∨ 3 ≤ d.corners.length
  place : d.pos.isFinite = true ∧ ∀ corner ∈ d.corners, corner.isFinite = true
  dialogs : (d.dialogs.map (·.id)).Nodup
  sounds : (d.sounds.map (·.id)).Nodup
  volumes : ∀ sound ∈ d.sounds, sound.volume.IsVolume

theorem ActorDefinition.defects_eq_nil_iff (d : ActorDefinition) (scene : String) :
    d.defects scene = [] ↔ d.WellFormed := by
  simp only [defects, List.append_eq_nil_iff, List.flatMap_eq_nil_iff, defectUnless_eq_nil_iff,
    duplicateDefects_eq_nil_iff, Bool.not_eq_true', Text.isBlankText_eq_false_iff, Bool.or_eq_true,
    Bool.and_eq_true, beq_iff_eq, decide_eq_true_eq, List.all_eq_true, List.length_eq_zero_iff]
  constructor
  · rintro ⟨⟨⟨⟨⟨named, region⟩, place⟩, dialogs⟩, sounds⟩, volumes⟩
    exact ⟨named, region, place, dialogs, sounds, volumes⟩
  · rintro ⟨named, region, place, dialogs, sounds, volumes⟩
    exact ⟨⟨⟨⟨⟨named, region⟩, place⟩, dialogs⟩, sounds⟩, volumes⟩

/-- Whether a scene is as it has to be among the scenes of a definition. -/
structure SceneDefinition.WellFormed (scenes : List SceneDefinition) (d : SceneDefinition) :
    Prop where
  actorIds : (d.actors.map (·.id)).Nodup
  layerNames : (d.layers.map (·.name)).Nodup
  actors : ∀ actor ∈ d.actors, actor.WellFormed
  actorVerbs : ∀ actor ∈ d.actors, ∀ verb ∈ actor.verbs,
    verb.WellFormed ⟨scenes, some d, some actor⟩
  verbs : ∀ verb ∈ d.verbs, verb.WellFormed ⟨scenes, some d, none⟩

theorem SceneDefinition.defects_eq_nil_iff (scenes : List SceneDefinition) (d : SceneDefinition) :
    d.defects scenes = [] ↔ d.WellFormed scenes := by
  simp only [defects, List.append_eq_nil_iff, List.flatMap_eq_nil_iff,
    duplicateDefects_eq_nil_iff, ActorDefinition.defects_eq_nil_iff,
    VerbDefinition.defects_eq_nil_iff]
  constructor
  · rintro ⟨⟨⟨actorIds, layerNames⟩, actors⟩, verbs⟩
    exact ⟨actorIds, layerNames, fun a member => (actors a member).1,
      fun a member => (actors a member).2, verbs⟩
  · rintro ⟨actorIds, layerNames, actors, actorVerbs, verbs⟩
    exact ⟨⟨⟨actorIds, layerNames⟩, fun a member => ⟨actors a member, actorVerbs a member⟩⟩, verbs⟩

/-! ## Definitions -/

/-- Whether a game begins in a scene that is there, with a player who is an actor of that scene. -/
structure GameDefinition.WellFormed (scenes : List SceneDefinition) (d : GameDefinition) :
    Prop where
  named : Text.IsFilled d.initialScene
  initial : ∃ scene ∈ scenes, scene.id = d.initialScene
  player : ∀ id, d.player = some id →
    ∃ scene ∈ scenes, scene.id = d.initialScene ∧ ∃ actor ∈ scene.actors, actor.id = id

theorem GameDefinition.defects_eq_nil_iff (scenes : List SceneDefinition) (d : GameDefinition) :
    d.defects scenes = [] ↔ d.WellFormed scenes := by
  have begins : (if Text.isBlankText d.initialScene then
        [Defect.invalidValue "game initial scene missing"]
      else defectUnless ((scenes.map (·.id)).contains d.initialScene)
        (.missingReference .scene d.initialScene "game initial scene")) = [] ↔
      Text.IsFilled d.initialScene ∧ ∃ scene ∈ scenes, scene.id = d.initialScene := by
    rw [← Text.isBlankText_eq_false_iff]
    cases Text.isBlankText d.initialScene <;> simp
  rw [defects, List.append_eq_nil_iff, begins]
  constructor
  · rintro ⟨⟨named, initial⟩, player⟩
    refine ⟨named, initial, fun id isPlayer => ?_⟩
    simpa [isPlayer, and_assoc] using player
  · rintro ⟨named, initial, player⟩
    refine ⟨⟨named, initial⟩, ?_⟩
    cases isPlayer : d.player with
    | none => rfl
    | some id => simpa [and_assoc] using player id isPlayer

/-- Whether a definition is as it has to be.  The verbs of an actor are seen from the actor in its
scene, those of a scene from that scene, and the global ones from all scenes. -/
structure Definition.WellFormed (d : Definition) : Prop where
  sceneIds : (d.scenes.map (·.id)).Nodup
  game : d.game.WellFormed d.scenes
  scenes : ∀ scene ∈ d.scenes, scene.WellFormed d.scenes
  verbs : ∀ verb ∈ d.verbs, verb.WellFormed ⟨d.scenes, none, none⟩

/-- Nothing is wrong with a definition exactly if it is well formed. -/
theorem Definition.defects_eq_nil_iff_wellFormed (d : Definition) :
    d.defects = [] ↔ d.WellFormed := by
  simp only [defects, List.append_eq_nil_iff, List.flatMap_eq_nil_iff,
    duplicateDefects_eq_nil_iff, GameDefinition.defects_eq_nil_iff,
    SceneDefinition.defects_eq_nil_iff, VerbDefinition.defects_eq_nil_iff]
  constructor
  · rintro ⟨⟨⟨sceneIds, game⟩, scenes⟩, verbs⟩
    exact ⟨sceneIds, game, scenes, verbs⟩
  · rintro ⟨sceneIds, game, scenes, verbs⟩
    exact ⟨⟨⟨sceneIds, game⟩, scenes⟩, verbs⟩

end Stagecraft
