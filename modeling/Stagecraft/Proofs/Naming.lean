import Stagecraft.Proofs.Moves
import Stagecraft.Proofs.Resolving

/-!
# What a name finds

A verb is asked for by its id and the thing it is used on, and which verb of an owner answers
depends on the owner's state.  The keys that may be meant are tried from the most specific one on.
A verb that is being driven is out of its table, but it answers as if it were there, so that it is
not passed over for a verb that is meant to stand in when there is no other.
-/

namespace Stagecraft

/-! ## The verbs of an owner -/

/-- Changing the verbs of an owner changes the state of none. -/
theorem World.state?_modifyVerbs (w : World) (owner other : Owner)
    (change : VerbTable → VerbTable) :
    (w.modifyVerbs owner change).state? other = w.state? other := by
  cases owner with
  | world => cases other <;> rfl
  | scene scene =>
    cases other with
    | world => rfl
    | scene other =>
      simp only [modifyVerbs, state?, scene?_modifyScene]
      split
      · cases w.scene? other <;> rfl
      · rfl
    | actor otherScene other =>
      simp only [modifyVerbs, state?, actor?, scene?_modifyScene]
      split
      · cases w.scene? otherScene <;> rfl
      · rfl
  | actor scene id =>
    cases other with
    | world => rfl
    | scene other =>
      simp only [modifyVerbs, state?, modifyActor, scene?_modifyScene]
      split
      · cases w.scene? other <;> rfl
      · rfl
    | actor otherScene other =>
      simp only [modifyVerbs, state?, actor?_modifyActor]
      split
      · cases w.actor? otherScene other <;> rfl
      · rfl

namespace Stage

variable {s s' : Stage} {owner : Owner} {state : Option String}

/-- Whether there is a verb of a handle: it is in its table, or it is being driven. -/
def Has (s : Stage) (h : Handle) : Prop := (s.world.script? h).isSome ∨ h ∈ s.executing

instance (s : Stage) (h : Handle) : Decidable (s.Has h) := inferInstanceAs (Decidable (_ ∨ _))

/-- The keys of the verbs of an owner that are being driven. -/
def lentKeys (s : Stage) (owner : Owner) : List Key :=
  (s.executing.filter (·.owner = owner)).map (·.key)

theorem mem_lentKeys_iff (s : Stage) (owner : Owner) (key : Key) :
    key ∈ s.lentKeys owner ↔ ⟨owner, key⟩ ∈ s.executing := by
  simp only [lentKeys, List.mem_map, List.mem_filter, decide_eq_true_eq]
  constructor
  · rintro ⟨h, ⟨driven, rfl⟩, rfl⟩
    exact driven
  · intro driven
    exact ⟨⟨owner, key⟩, ⟨driven, rfl⟩, rfl⟩

theorem isSome_verbs?_of_state? {w : World} (here : w.state? owner = some state) :
    (w.verbs? owner).isSome := by
  have both := w.isNone_state? owner
  rw [here] at both
  simpa using both.symm

/-- A verb answers to the first of the keys that may be meant under which the owner has one. -/
theorem resolve?_eq (here : s.world.state? owner = some state) (id : String)
    (target : Option String) :
    s.resolve? owner id target =
      ((Key.candidates id state target).find? fun key => s.Has ⟨owner, key⟩).map (⟨owner, ·⟩) := by
  obtain ⟨verbs, present⟩ := Option.isSome_iff_exists.mp (isSome_verbs?_of_state? here)
  simp only [resolve?, here, present, VerbTable.resolve?]
  congr 2
  funext key
  have lent : ((s.executing.filter (·.owner = owner)).map (·.key)).contains key =
      decide (⟨owner, key⟩ ∈ s.executing) := by
    rw [List.contains_eq_mem]
    exact decide_eq_decide.mpr (s.mem_lentKeys_iff owner key)
  rw [lent]
  simp [Has, World.script?, present, Table.contains]

theorem resolve?_eq_some_iff (here : s.world.state? owner = some state) (id : String)
    (target : Option String) (h : Handle) :
    s.resolve? owner id target = some h ↔ h.owner = owner ∧
      FirstOf (fun key => s.Has ⟨owner, key⟩) (Key.candidates id state target) h.key := by
  rw [resolve?_eq here, Option.map_eq_some_iff]
  constructor
  · rintro ⟨key, found, rfl⟩
    exact ⟨rfl, (List.find?_eq_some_iff_firstOf _ _ key).mp found⟩
  · rintro ⟨rfl, first⟩
    exact ⟨h.key, (List.find?_eq_some_iff_firstOf _ _ h.key).mpr first, rfl⟩

theorem resolve?_eq_none_iff (here : s.world.state? owner = some state) (id : String)
    (target : Option String) :
    s.resolve? owner id target = none ↔
      ∀ key ∈ Key.candidates id state target, ¬ s.Has ⟨owner, key⟩ := by
  simp [resolve?_eq here]

/-- A name finds the same verb on two stages on which the owner has the same state and the same
verbs. -/
theorem resolve?_congr (sameState : s'.world.state? owner = s.world.state? owner)
    (sameVerbs : ∀ key, (s.world.state? owner).isSome →
      (s'.Has ⟨owner, key⟩ ↔ s.Has ⟨owner, key⟩)) (id : String) (target : Option String) :
    s'.resolve? owner id target = s.resolve? owner id target := by
  cases here : s.world.state? owner with
  | none => simp [resolve?, sameState, here]
  | some state =>
    have same : ∀ key, decide (s'.Has ⟨owner, key⟩) = decide (s.Has ⟨owner, key⟩) :=
      fun key => decide_eq_decide.mpr (sameVerbs key (by simp [here]))
    rw [resolve?_eq (sameState.trans here), resolve?_eq here]
    simp only [same]

/-! ## Verbs that are being driven -/

/-- A verb that is lent out of its table answers as before. -/
theorem resolve?_lend {h : Handle} (found : (s.world.script? h).isSome) (owner : Owner)
    (id : String) (target : Option String) :
    (s.lend h).resolve? owner id target = s.resolve? owner id target := by
  refine resolve?_congr (World.state?_modifyVerbs ..) (fun key _ => ?_) id target
  have lentScript : (s.lend h).world.script? ⟨owner, key⟩ =
      if (⟨owner, key⟩ : Handle) = h then none else s.world.script? ⟨owner, key⟩ :=
    script?_lend ..
  unfold Has
  rw [lentScript]
  by_cases same : (⟨owner, key⟩ : Handle) = h
  · subst same
    simp [lend, found]
  · simp [same, lend]

/-- The stage on which the verbs of an owner that are being driven are back in its table, with any
scripts, and are driven no more. -/
def gather (s : Stage) (owner : Owner) (scripts : Key → Script Action) : Stage :=
  { s with
    world := s.world.modifyVerbs owner fun verbs =>
      (s.lentKeys owner).foldl (fun verbs key => verbs.restore key (scripts key)) verbs
    executing := s.executing.filter (·.owner ≠ owner) }

theorem contains_foldl_restore (verbs : VerbTable) (scripts : Key → Script Action)
    (keys : List Key) (key : Key) :
    (keys.foldl (fun verbs key => verbs.restore key (scripts key)) verbs).contains key = true ↔
      verbs.contains key = true ∨ key ∈ keys := by
  induction keys generalizing verbs with
  | nil => simp
  | cons first rest ih =>
    rw [List.foldl_cons, ih, List.mem_cons, ← or_assoc]
    refine or_congr_left ?_
    unfold VerbTable.restore
    split
    · next taken =>
      refine ⟨Or.inl, fun either => either.elim id ?_⟩
      rintro rfl
      exact taken
    · simp only [Table.contains, Table.get?_insert]
      split <;> simp_all

/-- Verbs that are put back are the verbs that answered while they were being driven. -/
theorem resolve?_gather (s : Stage) (owner : Owner) (scripts : Key → Script Action) (id : String)
    (target : Option String) :
    (s.gather owner scripts).resolve? owner id target = s.resolve? owner id target := by
  refine resolve?_congr (World.state?_modifyVerbs ..) (fun key isThere => ?_) id target
  obtain ⟨state, here⟩ := Option.isSome_iff_exists.mp isThere
  obtain ⟨verbs, present⟩ := Option.isSome_iff_exists.mp (isSome_verbs?_of_state? here)
  have back : ((s.gather owner scripts).world.script? ⟨owner, key⟩).isSome = true ↔
      (s.world.script? ⟨owner, key⟩).isSome = true ∨ ⟨owner, key⟩ ∈ s.executing := by
    rw [gather, World.script?_modifyVerbs, if_pos rfl, World.script?, present, Option.bind_some,
      Option.bind_some, ← mem_lentKeys_iff]
    exact contains_foldl_restore verbs scripts (s.lentKeys owner) key
  have driven : (⟨owner, key⟩ : Handle) ∉ (s.gather owner scripts).executing := by
    simp [gather]
  unfold Has
  rw [back]
  simp [driven]

/-! ## Running a verb -/

/-- A verb that is run is driven, unless there is none or it is being driven already. -/
theorem runHandle_of_has {h : Handle} (has : s.Has h) (idle : h ∉ s.executing) (depth : Nat) :
    ∃ script script' state f', s.world.script? h = some script ∧
      Driving.run.drive (Action.perform depth) script (.enter h (s.lend h)) =
        .ok (script', state, f') ∧
      s.runHandle (Action.perform depth) h =
        (some state, (f'.stage.closing h script').apply f'.stage) := by
  obtain ⟨script, found⟩ := Option.isSome_iff_exists.mp (has.resolve_right idle)
  have driven := driven_driveVerb (Action.perform depth) .run s h (.inr (Action.perform_runs depth))
    fun _ _ _ => .inl rfl
  rw [runHandle_eq] at driven
  rcases ran : s.runHandle (Action.perform depth) h with ⟨answer, s'⟩
  rw [ran] at driven
  cases answer with
  | none =>
    cases driven with
    | busy text executing => exact absurd executing idle
    | missing _ absent =>
      rw [found] at absent
      cases absent
  | some state =>
    cases driven with
    | done _ found driven => exact ⟨_, _, _, _, found, driven, rfl⟩

/-- The player's doing finds the first verb on the actor, on the scene or on the world. -/
theorem interact_eq {scene actor : String} {found : Actor}
    (current : s.world.currentScene = some scene) (present : s.world.actor? scene actor = some found)
    (answers : found.isInteractive = true) (id : String) (target : Option String) (depth : Nat) :
    s.interact actor id target depth =
      match s.resolveInteraction? scene actor id target with
      | some h => (s.info s!"player: {id} {actor} -> {h.text}").runHandle (Action.perform depth) h
      | none => (none, s.info s!"player: {id} {actor}: nothing happens") := by
  unfold interact
  simp only [current, present]
  exact if_pos answers

/-- A name finds the verb under the most specific key that an owner has in its state, whether that
verb is in its table or being driven, so that it finds what it would find if nothing were driven.
What the player does to an actor runs the first verb that the name finds on the actor, on the scene
or on the world. -/
theorem resolve?_mostSpecific (s : Stage) (id : String) (target : Option String) :
    (∀ owner state, s.world.state? owner = some state →
      let keys : List Key :=
        [⟨id, state, target⟩, ⟨id, state, none⟩, ⟨id, none, target⟩, ⟨id, none, none⟩]
      (∀ h, s.resolve? owner id target = some h ↔
        h.owner = owner ∧ FirstOf (fun key => s.Has ⟨owner, key⟩) keys h.key) ∧
      (s.resolve? owner id target = none ↔ ∀ key ∈ keys, ¬ s.Has ⟨owner, key⟩) ∧
      (∀ h, s.resolve? owner id target = some h → h.key.id = id ∧
        (h.key.state = state ∨ h.key.state = none) ∧
        (h.key.target = target ∨ h.key.target = none)) ∧
      (∀ scripts, (s.gather owner scripts).resolve? owner id target =
        s.resolve? owner id target) ∧
      ∀ h, (s.world.script? h).isSome →
        (s.lend h).resolve? owner id target = s.resolve? owner id target) ∧
    ∀ scene actor found depth, s.world.currentScene = some scene →
      s.world.actor? scene actor = some found → found.isInteractive = true →
      (∀ owner h,
        FirstOf (fun owner => (s.resolve? owner id target).isSome)
          [.actor scene actor, .scene scene, .world] owner →
        s.resolve? owner id target = some h →
          let told := s.info s!"player: {id} {actor} -> {h.text}"
          s.interact actor id target depth = told.runHandle (Action.perform depth) h ∧
          (h ∉ s.executing → ∃ script script' state f', s.world.script? h = some script ∧
            Driving.run.drive (Action.perform depth) script (.enter h (told.lend h)) =
              .ok (script', state, f') ∧
            s.interact actor id target depth =
              (some state, (f'.stage.closing h script').apply f'.stage))) ∧
      ((∀ owner ∈ [.actor scene actor, .scene scene, .world],
          s.resolve? owner id target = none) →
        s.interact actor id target depth =
          (none, s.info s!"player: {id} {actor}: nothing happens")) := by
  constructor
  · intro owner state here keys
    refine ⟨resolve?_eq_some_iff here id target, resolve?_eq_none_iff here id target, ?_,
      fun scripts => s.resolve?_gather owner scripts id target,
      fun h found => resolve?_lend found owner id target⟩
    intro h finds
    have candidate := ((resolve?_eq_some_iff here id target h).mp finds).2.mem
    simp only [Key.candidates, List.mem_cons, List.not_mem_nil, or_false] at candidate
    rcases candidate with same | same | same | same <;> simp [same]
  · intro scene actor found depth current present answers
    have acts := interact_eq current present answers id target depth
    constructor
    · intro owner h first finds told
      have isFirst : s.resolveInteraction? scene actor id target = some h :=
        (List.findSome?_eq_some_iff_firstOf _ _ h).mpr ⟨owner, first, finds⟩
      rw [isFirst] at acts
      refine ⟨acts, fun idle => ?_⟩
      obtain ⟨state, here⟩ : ∃ state, s.world.state? owner = some state := by
        cases here : s.world.state? owner with
        | none => simp [resolve?, here] at finds
        | some state => exact ⟨state, rfl⟩
      obtain ⟨rfl, _, _, _, has, _⟩ := (resolve?_eq_some_iff here id target h).mp finds
      rw [acts]
      exact told.runHandle_of_has has idle depth
    · intro nowhere
      have isNone : s.resolveInteraction? scene actor id target = none :=
        List.findSome?_eq_none_iff.mpr nowhere
      rw [isNone] at acts
      exact acts

end Stage

/-! ## A small game -/

/-- A game at a booth with a teller who can be called.  There is a call for when the booth is open,
and another one for any other time. -/
def Definition.booth : Definition where
  game := ⟨"Booth", "booth", "1", "square", none⟩
  scenes := [{
    id := "square"
    state := none
    layers := [⟨"main", true, false⟩]
    actors := [{
      id := "teller"
      desc := ""
      layer := "main"
      pos := ⟨0, 0⟩
      corners := []
      zIndex := 0
      state := some "open"
      visible := true
      interaction := true
      verbs := [
        ⟨⟨"call", some "open", none⟩, [.runVerb .owner "call" none, .wait 1]⟩,
        ⟨⟨"call", none, none⟩, [.setState .scene (some "answered")]⟩]
      dialogs := []
      sounds := []
      properties := ∅ }]
    verbs := []
    properties := ∅ }]
  verbs := []
  properties := ∅

/-- The world with which the game at the booth begins. -/
def World.booth : World := Definition.booth.build.toOption.getD .empty

theorem World.booth_built : Definition.booth.build = .ok World.booth := rfl

/-- Who calls the teller of the open booth is heard there, and a second call from inside the first
means the same verb, not the one for any other time. -/
theorem World.booth_call :
    let teller := Owner.actor "square" "teller"
    let call : Handle := ⟨teller, "call", some "open", none⟩
    let begun := Stage.ofWorld .booth
    let told := begun.info s!"player: call teller -> {call.text}"
    Definition.booth.build = .ok .booth ∧
    (begun.lend call).resolve? teller "call" (some "bell") = some call ∧
    ∃ script script' state f', begun.world.script? call = some script ∧
      Driving.run.drive (Action.perform 2) script (.enter call (told.lend call)) =
        .ok (script', state, f') ∧
      begun.interact "teller" "call" (some "bell") 2 =
        (some state, (f'.stage.closing call script').apply f'.stage) := by
  intro teller call begun told
  obtain ⟨finds, acts⟩ := begun.resolve?_mostSpecific "call" (some "bell")
  obtain ⟨isFirst, _, _, _, lent⟩ := finds teller (some "open") rfl
  have meant : begun.resolve? teller "call" (some "bell") = some call :=
    (isFirst call).mpr ⟨rfl, [⟨"call", some "open", some "bell"⟩], _, rfl, by decide +kernel,
      by decide +kernel⟩
  obtain ⟨runs, _⟩ := acts "square" "teller" _ 2 rfl rfl rfl
  obtain ⟨_, drives⟩ := runs teller call ⟨[], _, rfl, by simp [meant], nofun⟩ meant
  have idle : call ∉ begun.executing := nofun
  exact ⟨World.booth_built, (lent call (by decide +kernel)).trans meant, drives idle⟩

end Stagecraft
