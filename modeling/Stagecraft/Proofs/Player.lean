import Stagecraft.Proofs.Actors
import Stagecraft.Proofs.Editing
import Stagecraft.Proofs.References

/-!
# The player's actor

Whoever is handed control answers to nobody from then on, in the scene where that happens.  In
another scene there may be an actor of the same id, which is not told that it is now the player's.
Where there is none the player's actor never answers.
-/

namespace Stagecraft

/-! ## Instructions -/

mutual

/-- Whether something is so of an instruction and of all that stand inside it. -/
def Instruction.throughout (holds : Instruction → Bool) : Instruction → Bool
  | .conditional condition body =>
    holds (.conditional condition body) && Instruction.allThroughout holds body
  | .addVerb whose key body =>
    holds (.addVerb whose key body) && Instruction.allThroughout holds body
  | instruction => holds instruction

/-- Whether that is so for all instructions of a list. -/
def Instruction.allThroughout (holds : Instruction → Bool) : List Instruction → Bool
  | [] => true
  | instruction :: rest =>
    instruction.throughout holds && Instruction.allThroughout holds rest

end

namespace Instruction

variable {holds : Instruction → Bool}

theorem allThroughout_iff (body : List Instruction) :
    Instruction.allThroughout holds body ↔
      ∀ instruction ∈ body, instruction.throughout holds := by
  induction body with
  | nil => simp [Instruction.allThroughout]
  | cons instruction rest ih => simp [Instruction.allThroughout, ih]

/-- What is so throughout an instruction is so of it. -/
theorem own_of_throughout {instruction : Instruction} (through : instruction.throughout holds) :
    holds instruction := by
  cases instruction with
  | conditional | addVerb =>
    simp only [throughout, Bool.and_eq_true] at through
    exact through.1
  | _ => exact through

theorem throughout_inside {condition : Condition} {body : List Instruction}
    (through : (Instruction.conditional condition body).throughout holds) :
    ∀ instruction ∈ body, instruction.throughout holds := by
  simp only [throughout, Bool.and_eq_true] at through
  exact (allThroughout_iff body).mp through.2

theorem throughout_installed {whose : Target} {key : Key} {body : List Instruction}
    (through : (Instruction.addVerb whose key body).throughout holds) :
    ∀ instruction ∈ body, instruction.throughout holds := by
  simp only [throughout, Bool.and_eq_true] at through
  exact (allThroughout_iff body).mp through.2

/-- Whether an instruction makes an actor answer. -/
def opensUp : Instruction → Bool
  | .setActorAttr _ _ interaction _ => interaction == some true
  | _ => false

/-- Whether an instruction makes no actor answer, and neither does any inside it. -/
def opensNoneUp (instruction : Instruction) : Bool := instruction.throughout (!·.opensUp)

end Instruction

/-- What is so of all instructions that stand in verbs is so of those of each verb, for somebody. -/
theorem Definition.of_every_allVerbs {d : Definition} {holds : Instruction → Bool}
    (everywhere : d.every fun _ => holds) {verb : VerbDefinition} (member : verb ∈ d.allVerbs)
    {instruction : Instruction} (inBody : instruction ∈ verb.body) : holds instruction := by
  simp only [every, Bool.and_eq_true, List.all_eq_true] at everywhere
  rcases everywhere with ⟨ofWorld, ofScenes⟩
  rcases List.mem_append.mp member with global | inScene
  · exact ofWorld verb global instruction inBody
  · rcases List.mem_flatMap.mp inScene with ⟨scene, isScene, inScene⟩
    rcases List.mem_append.mp inScene with own | ofActor
    · exact (ofScenes scene isScene).1 verb own instruction inBody
    · rcases List.mem_flatMap.mp ofActor with ⟨actor, isActor, own⟩
      exact (ofScenes scene isScene).2 actor isActor verb own instruction inBody

/-! ## Handing over control -/

@[simp] theorem World.player_modifyVerbs (w : World) (owner : Owner)
    (change : VerbTable → VerbTable) : (w.modifyVerbs owner change).player = w.player := by
  cases owner <;> rfl

@[simp] theorem World.player_modifyPlayer (w : World) (change : Actor → Actor) :
    (w.modifyPlayer change).player = w.player := by
  unfold modifyPlayer
  split <;> rfl

/-- Only a deed that hands over control changes who the player is. -/
theorem Deed.player_apply (deed : Deed) (s : Stage) :
    (deed.apply s).world.player =
      match deed with
      | .setPlayer player => player
      | _ => s.world.player := by
  cases deed with
  | setState owner | setProperty owner => cases owner <;> rfl
  | install h | take h | putBack h => exact World.player_modifyVerbs _ h.owner _
  | setPlayer player => exact World.player_modifyPlayer _ _
  | _ => rfl

namespace World

/-- In a world that has come from another one nobody is who was not there.  Whoever is the player
has been handed control in some scene, and does not answer there. -/
structure Aloof (origin w : World) : Prop where
  present : ∀ scene id, (w.actor? scene id).isSome → (origin.actor? scene id).isSome
  home : ∀ player, w.player = some player → ∃ home, (origin.actor? home player).isSome ∧
    ∀ a, w.actor? home player = some a → a.interaction = false

/-- Whether actors with an id are in one scene at most. -/
def Single (w : World) (id : String) : Prop :=
  ∀ scene other, (w.actor? scene id).isSome → (w.actor? other id).isSome → scene = other

variable {origin w : World}

/-- Whoever is handed control is in the current scene, and does not answer there. -/
theorem exists_home_of_handOver {w : World} {player : String}
    (isThere : (w.current?.bind (·.actor? player)).isSome) :
    ∃ home, (w.actor? home player).isSome ∧
      ∀ a, (w.handOver (some player)).actor? home player = some a → a.interaction = false := by
  rcases Option.isSome_iff_exists.mp isThere with ⟨actor, isThere⟩
  rcases Option.bind_eq_some_iff.mp isThere with ⟨place, isCurrent, found⟩
  rcases Option.bind_eq_some_iff.mp isCurrent with ⟨home, isHome, present⟩
  have inWorld : w.actor? home player = some actor :=
    Option.bind_eq_some_iff.mpr ⟨place, present, found⟩
  refine ⟨home, by simp [inWorld], fun a after => ?_⟩
  rw [actor?_handOver, inWorld] at after
  cases after
  simp [isHome]

/-- The player's actor is the one that is found under the player's id in the current scene. -/
theorem playerActor?_eq_some_iff {a : Actor} :
    w.playerActor? = some a ↔ ∃ player scene, w.player = some player ∧
      w.currentScene = some scene ∧ w.actor? scene player = some a := by
  simp only [playerActor?, current?, actor?, Option.bind_eq_some_iff]
  constructor
  · rintro ⟨player, isPlayer, place, ⟨scene, isCurrent, present⟩, found⟩
    exact ⟨player, scene, isPlayer, isCurrent, place, present, found⟩
  · rintro ⟨player, scene, isPlayer, isCurrent, place, present, found⟩
    exact ⟨player, isPlayer, place, ⟨scene, isCurrent, present⟩, found⟩

namespace Aloof

variable (aloof : origin.Aloof w)

include aloof

/-- The player's actor does not answer, if there is no actor of its id in another scene. -/
theorem interaction_eq_false {player scene : String} {a : Actor} (isPlayer : w.player = some player)
    (single : origin.Single player) (found : w.actor? scene player = some a) :
    a.interaction = false := by
  rcases aloof.home player isPlayer with ⟨home, wasThere, silent⟩
  have same := single scene home (aloof.present scene player (by simp [found])) wasThere
  subst same
  exact silent a found

theorem modifyVerbs (owner : Owner) (change : VerbTable → VerbTable) :
    origin.Aloof (w.modifyVerbs owner change) := by
  constructor
  · intro scene id isThere
    rw [actor?_modifyVerbs, Option.isSome_map] at isThere
    exact aloof.present scene id isThere
  · intro player isPlayer
    rw [player_modifyVerbs] at isPlayer
    rcases aloof.home player isPlayer with ⟨home, wasThere, silent⟩
    refine ⟨home, wasThere, fun a found => ?_⟩
    rw [actor?_modifyVerbs] at found
    rcases Option.map_eq_some_iff.mp found with ⟨before, isThere, rfl⟩
    have still := silent before isThere
    split <;> exact still

end Aloof

end World

/-- An actor that does not answer does so only after it has been made to, or when control is taken
from it. -/
theorem Deed.interaction_onActor {deed : Deed} {w : World} {scene id : String} {a : Actor}
    (stays : ∀ player, deed ≠ .setPlayer player)
    (closed : ∀ home other visible layer, deed ≠ .dress home other visible (some true) layer)
    (silent : a.interaction = false) : (deed.onActor w scene id a).interaction = false := by
  cases deed with
  | setPlayer player => exact absurd rfl (stays player)
  | dress home other visible interaction layer =>
    simp only [onActor]
    split
    · cases interaction with
      | none => exact silent
      | some answers =>
        cases answers with
        | false => rfl
        | true => exact absurd rfl (closed home other visible layer)
    · exact silent
  | notice =>
    simp only [onActor]
    split
    · rcases a.exists_noticed_eq (w.noticeable? scene id) with ⟨inside, same⟩
      rw [same]
      exact silent
    · exact silent
  | choose home other dialog index =>
    simp only [onActor]
    split
    · rcases a.exists_chosen_eq dialog index with ⟨dialogs, same⟩
      rw [same]
      exact silent
    · exact silent
  | setState | setProperty | place | animate | playSound | install | putBack | take =>
    simp only [onActor]
    split <;> exact silent
  | _ => exact silent

/-- A world stays aloof as long as no actor is made to answer. -/
theorem World.Aloof.apply {origin : World} {s : Stage} {driver : Option Handle} {deed : Deed}
    (aloof : origin.Aloof s.world) (allowed : deed.Allowed driver s)
    (closed : ∀ home other visible layer, deed ≠ .dress home other visible (some true) layer) :
    origin.Aloof (deed.apply s).world := by
  constructor
  · intro scene id isThere
    rcases Option.isSome_iff_exists.mp isThere with ⟨after, found⟩
    rcases (deed.actor?_apply_eq_some_iff s).mp found with ⟨_, before, wasThere, _⟩
    exact aloof.present scene id (by simp [wasThere])
  · intro player isPlayer
    rw [deed.player_apply] at isPlayer
    by_cases hands : ∃ next, deed = .setPlayer next
    · rcases hands with ⟨next, rfl⟩
      cases isPlayer
      rcases World.exists_home_of_handOver (allowed player rfl) with ⟨home, isThere, silent⟩
      exact ⟨home, aloof.present home player isThere, silent⟩
    · have stays : ∀ next, deed ≠ .setPlayer next := fun next same => hands ⟨next, same⟩
      have wasPlayer : s.world.player = some player := by
        cases deed with
        | setPlayer next => exact absurd rfl (stays next)
        | _ => exact isPlayer
      rcases aloof.home player wasPlayer with ⟨home, wasThere, silent⟩
      refine ⟨home, wasThere, fun a after => ?_⟩
      rcases (deed.actor?_apply_eq_some_iff s).mp after with ⟨_, before, found, rfl⟩
      exact deed.interaction_onActor stays closed (silent before found)

/-- A built world is aloof from the beginning. -/
theorem Definition.aloof_build {d : Definition} {w : World} (built : d.build = .ok w) :
    w.Aloof w where
  present _ _ isThere := isThere
  home := by
    refine build_keeps (fun w => ∀ player, w.player = some player →
      ∃ home, (w.actor? home player).isSome ∧
        ∀ a, w.actor? home player = some a → a.interaction = false) ?_ ?_ ?_ ?_ built
    · rintro player ⟨⟩
    · intro w _ nobody scene _ player isPlayer
      cases nobody.symm.trans isPlayer
    · intro w _ nobody id _ player isPlayer
      cases nobody.symm.trans isPlayer
    · intro w _ _ id isThere player isPlayer
      have same : (w.handOver (some id)).player = some id :=
        (Deed.setPlayer (some id)).player_apply (Stage.ofWorld w)
      cases same.symm.trans isPlayer
      rcases World.exists_home_of_handOver isThere with ⟨home, wasThere, silent⟩
      refine ⟨home, ?_, silent⟩
      rwa [World.actor?_handOver, Option.isSome_map]

/-- Nothing that is written makes an actor answer, and the world is one that has come from another
one. -/
def World.aloofness (origin : World) : Placement where
  fits := Instruction.Writes fun _ instruction => instruction.opensNoneUp
  filed _ _ := True
  holds _ _ := origin.Aloof
  installs {f whose key script owner} _ writes _ _ := by
    rcases writes with ⟨instruction, written, opensNoneUp⟩
    cases instruction with
    | addVerb whose key body =>
      cases written
      constructor
      · simp only [Script.reset, Instruction.resetAll_toActions, Script.ofActions]
        exact Instruction.placed_toActions Instruction.throughout_inside
          (Instruction.throughout_installed opensNoneUp)
      · trivial
    | _ => cases written
  deed allowed licensed aloof := by
    apply aloof.apply allowed
    rintro home other visible layer rfl
    rcases licensed with ⟨owner, actor, instruction, written, opensNoneUp⟩
    cases instruction with
    | setActorAttr =>
      cases written
      cases Instruction.own_of_throughout opensNoneUp
    | _ => cases written
  verbs owner change aloof := aloof.modifyVerbs owner change
  shows _ aloof := ⟨aloof.present, aloof.home⟩
  closes _ aloof := aloof

/-! ## Interacting -/

/-- Pointing at a scene finds an actor that is there and answers. -/
theorem Scene.exists_of_actorAt? {place : Scene} {point : Point} {a : Actor}
    (found : place.actorAt? point = some a) :
    (∃ id, place.actor? id = some a) ∧ a.isInteractive = true := by
  rcases List.exists_of_findSome?_eq_some found with ⟨layer, _, onLayer⟩
  have listed := List.mem_of_find?_eq_some onLayer
  have answers := List.find?_some onLayer
  simp only [stack, List.mem_reverse, List.mem_mergeSort, List.mem_filterMap] at listed
  simp only [answersAt, Bool.and_eq_true] at answers
  rcases listed with ⟨id, _, isThere⟩
  exact ⟨⟨id, isThere⟩, answers.1⟩

/-- Interacting with somebody who does not answer does nothing. -/
theorem Stage.interact_of_silent {s : Stage} {actor : String}
    (silent : ∀ scene a, s.world.currentScene = some scene →
      s.world.actor? scene actor = some a → a.interaction = false)
    (id : String) (target : Option String) (depth : Nat) :
    (s.interact actor id target depth).1 = none := by
  unfold interact
  split
  · rfl
  · next scene isCurrent =>
    split
    · rfl
    · next found isThere =>
      have isSilent := silent scene found isCurrent isThere
      simp [Actor.isInteractive, isSilent]

namespace Definition

variable {d : Definition} {w : World}

theorem keeps_aloofness (built : d.build = .ok w)
    (opensNoneUp : d.every fun _ instruction => instruction.opensNoneUp) (settings : Settings) :
    w.aloofness.Keeps (Stage.ofWorld w settings) where
  world := aloof_build built
  scripts h script found := by
    have each : w.Each fun script => ∀ owner, script.Placed w.aloofness.fits owner := by
      refine build_each (fun definition member owner => ?_) built
      apply Instruction.placed_toActions Instruction.throughout_inside
      exact fun instruction inBody => of_every_allVerbs opensNoneUp member inBody
    exact ⟨each.of_script? found h.owner, trivial⟩

/-- Let a definition have no instruction that makes an actor answer.  However the game is played, if
there is no actor of the player's id in two scenes of it then the player's actor does not answer:
interacting with it does nothing, and pointing at the scene does not find it. -/
theorem aloof_play (built : d.build = .ok w)
    (opensNoneUp : d.every fun _ instruction => instruction.opensNoneUp) (settings : Settings)
    (moves : List (Move × Nat)) {player : String}
    (isPlayer : ((Stage.ofWorld w settings).play moves).world.player = some player)
    (single : w.Single player) :
    let s := (Stage.ofWorld w settings).play moves
    (∀ a, s.world.playerActor? = some a → a.interaction = false) ∧
      (∀ id target depth, (s.interact player id target depth).1 = none) ∧
      ∀ place point a, s.world.current? = some place → place.actorAt? point = some a →
        a.id ≠ player := by
  intro s
  have aloof : w.Aloof s.world := ((keeps_aloofness built opensNoneUp settings).play moves).world
  have silent : ∀ scene a, s.world.actor? scene player = some a → a.interaction = false :=
    fun scene a => aloof.interaction_eq_false isPlayer single
  refine ⟨fun a found => ?_, fun id target depth => ?_, fun place point a isCurrent found => ?_⟩
  · rcases World.playerActor?_eq_some_iff.mp found with ⟨other, scene, isOther, _, inScene⟩
    cases isPlayer.symm.trans isOther
    exact silent scene a inScene
  · exact Stage.interact_of_silent (fun scene a _ => silent scene a) id target depth
  · rcases Scene.exists_of_actorAt? found with ⟨⟨id, isThere⟩, answers⟩
    rcases Option.bind_eq_some_iff.mp isCurrent with ⟨scene, _, present⟩
    have consistent : s.world.Consistent := Stage.consistent_play (consistent_build built) moves
    rintro rfl
    have sameId := (((consistent.scenes scene place present).2).filed id a isThere).1
    subst sameId
    have isSilent := silent scene a (Option.bind_eq_some_iff.mpr ⟨place, present, isThere⟩)
    simp [Actor.isInteractive, isSilent] at answers

/-- An id that stands in one scene of a definition at most is in one scene at most of the world. -/
theorem single_build (built : d.build = .ok w) {id : String}
    (single : ∀ scene ∈ d.scenes, ∀ other ∈ d.scenes, id ∈ scene.actors.map (·.id) →
      id ∈ other.actors.map (·.id) → scene.id = other.id) : w.Single id := by
  intro scene other inScene inOther
  rcases Option.isSome_iff_exists.mp inScene with ⟨a, found⟩
  rcases Option.isSome_iff_exists.mp inOther with ⟨b, found'⟩
  rcases exists_of_actor?_build built found with ⟨first, isFirst, rfl, actor, listed, rfl, _⟩
  rcases exists_of_actor?_build built found' with ⟨second, isSecond, rfl, actor', listed', same, _⟩
  exact single first isFirst second isSecond (List.mem_map_of_mem listed)
    (same ▸ List.mem_map_of_mem listed')

end Definition

/-! ## A small game -/

/-- A game in an inn with a hero in the taproom, who is the player, and somebody in the cellar. -/
def Definition.inn (below : String) : Definition :=
  let guest (id : String) : ActorDefinition := {
    id
    desc := ""
    layer := "main"
    pos := ⟨0, 0⟩
    corners := []
    zIndex := 0
    state := none
    visible := true
    interaction := true
    verbs := [⟨⟨"greet", none, none⟩, [.wait 1]⟩]
    dialogs := []
    sounds := []
    properties := ∅ }
  let room (id guestId : String) : SceneDefinition := {
    id
    state := none
    layers := [⟨"main", true, false⟩]
    actors := [guest guestId]
    verbs := []
    properties := ∅ }
  { game := ⟨"Inn", "inn", "1", "taproom", some "hero"⟩
    scenes := [room "taproom" "hero", room "cellar" below]
    verbs := []
    properties := ∅ }

/-- The world with which the game in the inn begins. -/
def World.inn (below : String) : World := (Definition.inn below).build.toOption.getD .empty

/-- The hero, who goes down to the cat and comes back up, cannot be greeted. -/
theorem World.inn_aloof :
    let s := (Stage.ofWorld (.inn "cat")).play
      [(.enterScene "cellar", 2), (.enterScene "taproom", 2)]
    (Definition.inn "cat").build = .ok (.inn "cat") ∧ s.world.player = some "hero" ∧
      (World.inn "cat").Single "hero" ∧
      (∃ a, s.world.playerActor? = some a ∧ a.interaction = false) ∧
      (s.interact "hero" "greet" none 2).1 = none := by
  intro s
  have built : (Definition.inn "cat").build = .ok (.inn "cat") := rfl
  have isPlayer : s.world.player = some "hero" := rfl
  have single : (World.inn "cat").Single "hero" := Definition.single_build built (by decide)
  have aloof := Definition.aloof_play built (by decide) .standard
    [(.enterScene "cellar", 2), (.enterScene "taproom", 2)] isPlayer single
  exact ⟨built, isPlayer, single, ⟨_, rfl, aloof.1 _ rfl⟩, aloof.2.1 "greet" none 2⟩

/-- Where there is a hero in the cellar too, the one who goes down there can be greeted. -/
theorem World.inn_answers :
    let s := (Stage.ofWorld (.inn "hero")).play [(.enterScene "cellar", 2)]
    (Definition.inn "hero").every (fun _ instruction => instruction.opensNoneUp) = true ∧
      (∃ a, s.world.playerActor? = some a ∧ a.interaction = true) ∧
      (s.interact "hero" "greet" none 2).1 = some .suspended :=
  ⟨by decide, ⟨_, rfl, rfl⟩, rfl⟩

end Stagecraft
