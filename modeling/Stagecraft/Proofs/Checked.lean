import Stagecraft.Definition.Check
import Stagecraft.Proofs.Keeping
import Stagecraft.Proofs.Opening

/-!
# Checked definitions

A definition in which nothing is wrong can be built, and what stands in it is found in the world
that is built: each scene, each actor, and under each handle a verb of the owner, whose instructions
have been checked for that owner.
-/

namespace Stagecraft

/-! ## Distinct ids -/

private theorem repetitions_eq_nil_iff (seen ids : List String) :
    repetitions seen ids = [] ↔ ids.Nodup ∧ ∀ id ∈ ids, id ∉ seen := by
  induction ids generalizing seen with
  | nil => simp [repetitions]
  | cons id rest ih =>
    unfold repetitions
    by_cases known : id ∈ seen
    · simp [known]
    · simp only [known, if_false, ih, List.nodup_cons, List.mem_cons, not_or]
      constructor
      · rintro ⟨distinct, apart⟩
        refine ⟨⟨fun again => (apart id again).1 rfl, distinct⟩, ?_⟩
        rintro other (rfl | later)
        · exact known
        · exact (apart other later).2
      · rintro ⟨⟨fresh, distinct⟩, apart⟩
        refine ⟨distinct, fun other later => ⟨?_, apart other (.inr later)⟩⟩
        rintro rfl
        exact fresh later

/-- There is no defect in ids exactly if they are distinct. -/
@[simp] theorem duplicateDefects_eq_nil_iff (kind : IdKind) (ids : List String) :
    duplicateDefects kind ids = [] ↔ ids.Nodup := by
  rw [duplicateDefects, List.map_eq_nil_iff, repetitions_eq_nil_iff]
  exact and_iff_left fun _ _ => List.not_mem_nil

/-- Ids are distinct if there is no defect in them. -/
theorem nodup_of_duplicateDefects {kind : IdKind} {ids : List String}
    (checked : duplicateDefects kind ids = []) : ids.Nodup :=
  (duplicateDefects_eq_nil_iff kind ids).mp checked

/-- There is no defect exactly if what has to be so is so. -/
@[simp] theorem defectUnless_eq_nil_iff (sound : Bool) (defect : Defect) :
    defectUnless sound defect = [] ↔ sound = true := by
  cases sound <;> simp [defectUnless]

/-- What has to be so is so if there is no defect in it. -/
theorem of_defectUnless {sound : Bool} {defect : Defect}
    (checked : defectUnless sound defect = []) : sound = true :=
  (defectUnless_eq_nil_iff sound defect).mp checked

/-- Of a list with distinct ids, the one that is found under an id is the only one. -/
theorem List.find?_eq_some_of_mem {α : Type} {id : α → String} {list : List α} {a : α}
    (distinct : (list.map id).Nodup) (member : a ∈ list) :
    list.find? (id · == id a) = some a := by
  induction list with
  | nil => cases member
  | cons head rest ih =>
    rw [List.map_cons, List.nodup_cons] at distinct
    rcases List.mem_cons.mp member with rfl | later
    · simp
    · have apart : id head ≠ id a := by
        intro same
        exact distinct.1 (same ▸ List.mem_map_of_mem later)
      simp [apart, ih distinct.2 later]

/-- In a list in which an id occurs something is found under it. -/
theorem List.find?_ne_none_of_mem {α : Type} {id : α → String} {list : List α} {name : String}
    (listed : name ∈ list.map id) : list.find? (id · == name) ≠ none := by
  intro absent
  rcases List.mem_map.mp listed with ⟨a, member, rfl⟩
  exact List.find?_eq_none.mp absent a member (beq_self_eq_true (id a))

/-! ## Where things stand -/

/-- The actor with the given id. -/
def SceneDefinition.actor? (d : SceneDefinition) (id : String) : Option ActorDefinition :=
  d.actors.find? (·.id == id)

namespace Definition

/-- The scene with the given id. -/
def scene? (d : Definition) (id : String) : Option SceneDefinition := d.scenes.find? (·.id == id)

/-- What the verbs of an owner are checked against, and the verbs, if the owner stands in the
definition. -/
def place? (d : Definition) : Owner → Option (Scope × List VerbDefinition)
  | .world => some (⟨d.scenes, none, none⟩, d.verbs)
  | .scene id => (d.scene? id).map fun scene => (⟨d.scenes, some scene, none⟩, scene.verbs)
  | .actor home id => (d.scene? home).bind fun scene =>
    (scene.actor? id).map fun actor => (⟨d.scenes, some scene, some actor⟩, actor.verbs)

/-- What is to be distinct is so in a definition without defects. -/
structure Distinct (d : Definition) : Prop where
  scenes : (d.scenes.map (·.id)).Nodup
  actors : ∀ scene ∈ d.scenes, (scene.actors.map (·.id)).Nodup

variable {d : Definition}

theorem distinct_of_checked (checked : d.defects = []) : d.Distinct := by
  simp only [defects, List.append_eq_nil_iff, List.flatMap_eq_nil_iff] at checked
  rcases checked with ⟨⟨⟨duplicates, _⟩, scenes⟩, _⟩
  constructor
  · exact nodup_of_duplicateDefects duplicates
  · intro scene member
    have sceneChecked := scenes scene member
    simp only [SceneDefinition.defects, List.append_eq_nil_iff] at sceneChecked
    exact nodup_of_duplicateDefects sceneChecked.1.1.1

/-- Every verb of a definition without defects has been checked where it stands. -/
theorem verb_checked (checked : d.defects = []) {owner : Owner} {scope : Scope}
    {verbs : List VerbDefinition} (place : d.place? owner = some (scope, verbs))
    {verb : VerbDefinition} (member : verb ∈ verbs) :
    ∃ context, verb.defects scope context = [] := by
  simp only [defects, List.append_eq_nil_iff, List.flatMap_eq_nil_iff] at checked
  rcases checked with ⟨⟨_, scenes⟩, verbsChecked⟩
  have ofScene : ∀ {id scene}, d.scene? id = some scene →
      SceneDefinition.defects d.scenes scene = [] :=
    fun found => scenes _ (List.mem_of_find?_eq_some found)
  cases owner with
  | world =>
    cases place
    exact ⟨_, verbsChecked verb member⟩
  | scene id =>
    rcases Option.map_eq_some_iff.mp place with ⟨scene, found, same⟩
    cases same
    have sceneChecked := ofScene found
    simp only [SceneDefinition.defects, List.append_eq_nil_iff, List.flatMap_eq_nil_iff]
      at sceneChecked
    exact ⟨_, sceneChecked.2 verb member⟩
  | actor home id =>
    rcases Option.bind_eq_some_iff.mp place with ⟨scene, found, place⟩
    rcases Option.map_eq_some_iff.mp place with ⟨actor, isThere, same⟩
    cases same
    have sceneChecked := ofScene found
    simp only [SceneDefinition.defects, List.append_eq_nil_iff, List.flatMap_eq_nil_iff]
      at sceneChecked
    have actorChecked := sceneChecked.1.2 actor (List.mem_of_find?_eq_some isThere)
    exact ⟨_, actorChecked.2 verb member⟩

end Definition

/-- The instructions of a list without defects have none. -/
theorem Instruction.defects_of_mem {scope : Scope} {label : String} {number : Nat}
    {body : List Instruction} (checked : Instruction.listDefects scope label number body = [])
    {instruction : Instruction} (member : instruction ∈ body) :
    ∃ context, instruction.defects scope context = [] := by
  induction body generalizing number with
  | nil => cases member
  | cons head rest ih =>
    simp only [Instruction.listDefects, List.append_eq_nil_iff] at checked
    rcases List.mem_cons.mp member with rfl | later
    · exact ⟨_, checked.1⟩
    · exact ih checked.2 later

/-! ## Built worlds -/

/-- When things with distinct ids are added one after the other, each is found under its id. -/
private theorem lookup_foldl {α β γ : Type} (id : α → String) {add : β → α → β}
    (look : β → String → Option γ) {value : α → γ} (kept : β → Prop)
    (adds : ∀ b a name, kept b →
      look (add b a) name = if name = id a then some (value a) else look b name)
    (keeps : ∀ b a, kept b → kept (add b a))
    {list : List α} (distinct : (list.map id).Nodup) {b : β} (start : kept b) (name : String) :
    look (list.foldl add b) name =
      ((list.find? (id · == name)).map value).or (look b name) := by
  induction list generalizing b with
  | nil => rfl
  | cons a rest ih =>
    rw [List.map_cons, List.nodup_cons] at distinct
    rw [List.foldl_cons, ih distinct.2 (keeps b a start), adds b a name start]
    by_cases same : name = id a
    · subst same
      have notLater : rest.find? (id · == id a) = none := by
        rw [List.find?_eq_none]
        intro other later isOther
        rw [beq_iff_eq] at isOther
        exact distinct.1 (isOther ▸ List.mem_map_of_mem later)
      simp [notLater]
    · have apart : (id a == name) = false := by simpa using Ne.symm same
      simp only [same, if_false, List.find?_cons, apart]

namespace SceneDefinition

/-- The scene of a definition has its actors. -/
theorem actor?_toScene {d : SceneDefinition} (distinct : (d.actors.map (·.id)).Nodup)
    (id : String) :
    d.toScene.actor? id =
      (d.actor? id).map fun actor => { actor.toActor with scene := some d.id } := by
  have adds : ∀ (s : Scene) (actor : ActorDefinition) (name : String), s.id = d.id →
      (s.addActor actor.toActor).actor? name =
        if name = actor.id then some { actor.toActor with scene := some d.id }
        else s.actor? name := by
    intro s actor name same
    simp only [Scene.addActor, Scene.actor?, Roster.get?_insert, ActorDefinition.toActor, same]
  exact (lookup_foldl ActorDefinition.id Scene.actor? (fun s => s.id = d.id)
    adds (fun _ _ same => same) distinct rfl id).trans Option.or_none

end SceneDefinition

/-- Scenes with distinct ids that are added to a world are found in it. -/
private theorem World.scene?_addScenes {scenes : List SceneDefinition}
    (distinct : (scenes.map (·.id)).Nodup) (w : World) (id : String) :
    (scenes.foldl (fun world scene => world.addScene scene.toScene) w).scene? id =
      ((scenes.find? (·.id == id)).map (·.toScene)).or (w.scene? id) := by
  have adds : ∀ (w : World) (scene : SceneDefinition) (name : String), True →
      (w.addScene scene.toScene).scene? name =
        if name = scene.id then some scene.toScene else w.scene? name := by
    intro w scene name _
    simp only [World.addScene, World.scene?, Table.get?_insert, Std.compare_eq_iff_eq,
      scene.id_toScene]
  exact lookup_foldl SceneDefinition.id World.scene? (fun _ => True) adds (fun _ _ _ => trivial)
    distinct trivial id

namespace Definition

/-- The world of a definition before anyone is the player. -/
def furnished (d : Definition) : World :=
  { d.scenes.foldl (fun world scene => world.addScene scene.toScene)
      { World.empty with
        title := d.game.title
        properties := d.properties
        verbs := VerbDefinition.toTable d.verbs } with
    currentScene := some d.game.initialScene }

variable {d : Definition}

/-- The scenes of a definition are those of its world. -/
theorem scene?_furnished (distinct : d.Distinct) (id : String) :
    d.furnished.scene? id = (d.scene? id).map (·.toScene) :=
  (World.scene?_addScenes distinct.scenes _ id).trans Option.or_none

/-- The actors of a definition are those of its world. -/
theorem actor?_furnished (distinct : d.Distinct) (home id : String) :
    d.furnished.actor? home id = (d.scene? home).bind fun scene =>
      (scene.actor? id).map fun actor => { actor.toActor with scene := some scene.id } := by
  unfold World.actor?
  rw [scene?_furnished distinct]
  cases found : d.scene? home with
  | none => rfl
  | some scene =>
    have member : scene ∈ d.scenes := List.mem_of_find?_eq_some found
    exact SceneDefinition.actor?_toScene (distinct.actors scene member) id

/-- A world is built from a definition without defects, in its first scene: the furnished one, in
which someone may have been made the player. -/
theorem build_of_checked (checked : d.defects = []) :
    ∃ w, d.build = .ok w ∧ (d.scene? d.game.initialScene).isSome ∧
      (w = d.furnished ∨ ∃ player, w = d.furnished.handOver player) := by
  have distinct := distinct_of_checked checked
  simp only [defects, List.append_eq_nil_iff] at checked
  have gameChecked := checked.1.1.2
  simp only [GameDefinition.defects, List.append_eq_nil_iff] at gameChecked
  rcases gameChecked with ⟨initial, player⟩
  split at initial
  · cases initial
  have listed := of_defectUnless initial
  rw [List.contains_iff_mem, List.mem_map] at listed
  rcases listed with ⟨scene, member, isInitial⟩
  have standing : d.scene? d.game.initialScene = some scene :=
    isInitial ▸ List.find?_eq_some_of_mem distinct.scenes member
  have present : d.furnished.scene? d.game.initialScene = some scene.toScene := by
    rw [scene?_furnished distinct, standing, Option.map_some]
  have contains : d.furnished.scenes.contains d.game.initialScene = true :=
    Option.isSome_of_eq_some present
  -- The initial scene is there, so the world is built whoever the player is.
  rw [show d.build = _ from if_pos contains]
  cases named : d.game.player with
  | none => exact ⟨_, rfl, Option.isSome_of_eq_some standing, .inl rfl⟩
  | some id =>
    rw [named] at player
    have lives := of_defectUnless player
    simp only [List.any_eq_true, List.mem_filter, beq_iff_eq, List.contains_iff_mem] at lives
    rcases lives with ⟨home, ⟨isScene, isHome⟩, isActor⟩
    rcases List.mem_map.mp isActor with ⟨actor, inScene, rfl⟩
    have sameScene : home = scene := by
      have found := List.find?_eq_some_of_mem distinct.scenes isScene
      rw [isHome] at found
      exact Option.some.inj (found.symm.trans standing)
    subst sameScene
    have isThere : (d.furnished.current?.bind (·.actor? actor.id)).isSome = true := by
      have isCurrent : d.furnished.current? = some home.toScene := present
      have found := List.find?_eq_some_of_mem (distinct.actors home isScene) inScene
      rw [isCurrent, Option.bind_some,
        SceneDefinition.actor?_toScene (distinct.actors home isScene), SceneDefinition.actor?,
        found]
      rfl
    rcases Stage.setPlayer_of_present (s := Stage.ofWorld d.furnished) isThere with ⟨text, set⟩
    refine ⟨d.furnished.handOver (some actor.id), ?_, Option.isSome_of_eq_some standing,
      .inr ⟨_, rfl⟩⟩
    simp only
    split
    · next stage done =>
      cases set.symm.trans done
      rfl
    · next reason failed => cases set.symm.trans failed

/-- The verbs of the world are those that stand in the definition. -/
theorem verbs?_furnished (distinct : d.Distinct) (owner : Owner) :
    d.furnished.verbs? owner =
      (d.place? owner).map fun place => VerbDefinition.toTable place.2 := by
  cases owner with
  | world =>
    have kept : ∀ (scenes : List SceneDefinition) (w : World),
        (scenes.foldl (fun world scene => world.addScene scene.toScene) w).verbs = w.verbs := by
      intro scenes
      induction scenes with
      | nil => exact fun w => rfl
      | cons scene rest ih => exact fun w => ih _
    exact congrArg some (kept d.scenes _)
  | scene id =>
    simp only [World.verbs?, scene?_furnished distinct, place?, Option.map_map]
    rfl
  | actor home id =>
    simp only [World.verbs?, actor?_furnished distinct, place?, Option.map_bind, Option.map_map,
      Function.comp_def]
    rfl

end Definition

/-- The verbs of the world that is built are those that stand in the definition. -/
theorem Definition.verbs?_build {d : Definition} {w : World} (checked : d.defects = [])
    (built : d.build = .ok w) : w.verbs? = d.furnished.verbs? := by
  rcases build_of_checked checked with ⟨_, isBuilt, _, rfl | ⟨player, rfl⟩⟩
  · cases isBuilt.symm.trans built
    rfl
  · cases isBuilt.symm.trans built
    exact World.verbs?_handOver _ player

/-- Every verb of the world that is built is one that stands in the definition. -/
theorem Definition.exists_verb_of_build {d : Definition} {w : World} (checked : d.defects = [])
    (built : d.build = .ok w) {h : Handle} {script : Script Action}
    (found : w.script? h = some script) :
    ∃ scope verbs, d.place? h.owner = some (scope, verbs) ∧
      ∃ verb ∈ verbs, verb.toVerb.script = script := by
  rcases (w.script?_eq_some_iff h script).mp found with ⟨table, present, inTable⟩
  rw [verbs?_build checked built, verbs?_furnished (distinct_of_checked checked)] at present
  rcases Option.map_eq_some_iff.mp present with ⟨⟨scope, verbs⟩, place, rfl⟩
  exact ⟨scope, verbs, place, VerbDefinition.exists_of_get?_toTable inTable⟩

/-! ## Instructions and their actions -/

namespace Instruction

/-- Whether an action that runs for an owner is written as an instruction of a kind. -/
def Writes (kind : Owner → Instruction → Prop) (owner : Owner) (action : Action) : Prop :=
  ∃ instruction : Instruction, instruction.toAction = action ∧ kind owner instruction

theorem toActions_eq_map (body : List Instruction) :
    Instruction.toActions body = body.map Instruction.toAction := by
  induction body with
  | nil => rfl
  | cons instruction rest ih => simp only [Instruction.toActions, List.map_cons, ih]

/-- The action of an instruction is written so throughout, if that is so for what stands in
conditions. -/
theorem placed_toAction {kind : Owner → Instruction → Prop}
    (inside : ∀ {owner condition body}, kind owner (.conditional condition body) →
      ∀ instruction ∈ body, kind owner instruction)
    {owner : Owner} {instruction : Instruction} (isKind : kind owner instruction) :
    instruction.toAction.Placed (Writes kind) owner := by
  have own : ∀ {instruction}, kind owner instruction →
      Writes kind owner instruction.toAction.reset :=
    fun isKind => ⟨_, (reset_toAction _).symm, isKind⟩
  generalize written : instruction.toAction = action
  induction action using Action.nestedInduction generalizing instruction with
  | leaf action noInner => exact .of_leaf noInner (written ▸ own isKind)
  | conditional condition script ih =>
    cases instruction with
    | conditional condition body =>
      cases written
      constructor
      · exact own isKind
      · rintro _ _ ⟨⟩ inner member
        have isInner := member
        simp only [Script.ofActions, toActions_eq_map, List.mem_map] at member
        rcases member with ⟨below, inBody, rfl⟩
        exact ih _ isInner (inside isKind below inBody) rfl
    | _ => cases written
  | runVerb whose verb target bound script ih =>
    cases instruction with
    | runVerb whose verb target =>
      cases written
      constructor
      · exact own isKind
      · rintro _ _ ⟨⟩ inner member
        cases member
    | _ => cases written

/-- The script of a body is written so throughout. -/
theorem placed_toActions {kind : Owner → Instruction → Prop}
    (inside : ∀ {owner condition body}, kind owner (.conditional condition body) →
      ∀ instruction ∈ body, kind owner instruction)
    {owner : Owner} {body : List Instruction}
    (isKind : ∀ instruction ∈ body, kind owner instruction) :
    (Script.ofActions (Instruction.toActions body)).Placed (Writes kind) owner := by
  intro action member
  simp only [Script.ofActions, toActions_eq_map, List.mem_map] at member
  rcases member with ⟨instruction, inBody, rfl⟩
  exact placed_toAction inside (isKind instruction inBody)

end Instruction

end Stagecraft
