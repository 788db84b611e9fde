import Stagecraft.Proofs.Belongings
import Stagecraft.Proofs.Opening

/-!
# Coming and going

Whenever time passes the actors of the current scene compare the player's place with their regions,
and what an actor reports is by turns that the player has come and that it has gone.  An actor knows
from one report to the next which was the last one: nothing else that happens changes that.
-/

namespace Stagecraft

/-! ## Turns -/

namespace Crossing

/-- The crossing whose turn it is after some others. -/
def turn (count : Nat) : Crossing := if count % 2 = 0 then .enter else .exit

/-- Whether crossings take turns, beginning with that of coming. -/
def Alternate (list : List Crossing) : Prop := list = (List.range list.length).map turn

variable {list : List Crossing}

theorem alternate_nil : Alternate [] := rfl

/-- Crossings go on taking turns with the one whose turn it is. -/
theorem Alternate.append (alternate : Alternate list) : Alternate (list ++ [turn list.length]) := by
  unfold Alternate at alternate ⊢
  rw [List.length_append, List.length_singleton, List.range_succ, List.map_append, ← alternate]
  rfl

/-- Of crossings that take turns the last one is that of coming exactly if their number is odd. -/
theorem Alternate.getLast?_eq_enter_iff (alternate : Alternate list) :
    list.getLast? = some .enter ↔ list.length % 2 = 1 := by
  rw [alternate]
  cases list.length with
  | zero => simp
  | succ count =>
    simp only [List.range_succ, List.map_append, List.map_singleton, List.getLast?_concat,
      List.length_append, List.length_map, List.length_range, List.length_singleton, turn,
      Option.some.injEq]
    split
    · simp only [true_iff]
      omega
    · simp only [reduceCtorEq, false_iff]
      omega

end Crossing

/-! ## What an actor sees -/

namespace Stage

variable {s : Stage}

/-- An actor sees the player cross exactly if its scene is the current one, it is there and visible,
the player is another actor that is there, and the hit test of the player's place tells otherwise
than what the actor knows. -/
theorem sees?_eq_some_iff {scene actor : String} {crossing : Crossing} :
    s.sees? scene actor = some crossing ↔ s.world.currentScene = some scene ∧
      ∃ a player playerActor, s.world.actor? scene actor = some a ∧ a.visible = true ∧
        s.world.player = some player ∧ player ≠ actor ∧
        s.world.actor? scene player = some playerActor ∧
        a.region.contains playerActor.position ≠ a.playerInside ∧
        crossing = if a.playerInside then .exit else .enter := by
  constructor
  · intro sees
    rcases exists_of_sees? sees with ⟨isCurrent, noticed, notices⟩
    rcases Option.bind_eq_some_iff.mp notices with ⟨place, present, notices⟩
    rw [Scene.notice_eq] at notices
    rcases Option.bind_eq_some_iff.mp notices with ⟨a, isThere, notices⟩
    rcases Option.bind_eq_some_iff.mp notices with ⟨playerActor, noticeable, notices⟩
    rcases Option.map_eq_some_iff.mp notices with ⟨⟨_, a'⟩, crosses, same⟩
    cases same
    have seen : s.world.noticeable? scene actor = some playerActor := by
      simp only [World.noticeable?, present, Option.bind_some, noticeable]
    rcases World.noticeable?_eq_some_iff.mp seen with ⟨player, isPlayer, apart, playerThere⟩
    rcases Actor.notice_eq_some_iff.mp crosses with ⟨visible, differs, isCrossing, _⟩
    have found : s.world.actor? scene actor = some a :=
      Option.bind_eq_some_iff.mpr ⟨place, present, isThere⟩
    exact ⟨isCurrent, a, player, playerActor, found, visible, isPlayer, apart, playerThere, differs,
      isCrossing⟩
  · rintro ⟨isCurrent, a, player, playerActor, found, visible, isPlayer, apart, playerThere,
      differs, rfl⟩
    rcases Option.bind_eq_some_iff.mp found with ⟨place, present, isThere⟩
    have seen : s.world.noticeable? scene actor = some playerActor :=
      World.noticeable?_eq_some_iff.mpr ⟨player, isPlayer, apart, playerThere⟩
    have noticeable : place.noticeable? actor s.world.player = some playerActor := by
      simpa only [World.noticeable?, present, Option.bind_some] using seen
    have crosses := Actor.notice_eq_some_iff.mpr ⟨visible, differs, rfl, rfl⟩
    simp only [sees?, isCurrent, if_true, present, Option.bind_some, Scene.notice_eq, isThere,
      noticeable, crosses, Option.map_some]

/-- An actor that has noted what it saw knows it, and all others know what they knew. -/
theorem playerInside_crossed {scene actor : String} {crossing : Crossing}
    (sees : s.sees? scene actor = some crossing) {home id : String} {a' : Actor}
    (found : (s.crossed scene actor crossing).world.actor? home id = some a') :
    ∃ a, s.world.actor? home id = some a ∧
      a'.playerInside = if home = scene ∧ id = actor then !a.playerInside else a.playerInside := by
  have noted : ((Deed.notice scene actor).apply s).world.actor? home id = some a' := found
  rcases (Deed.actor?_apply_eq_some_iff _ s).mp noted with ⟨_, a, isThere, rfl⟩
  refine ⟨a, isThere, ?_⟩
  simp only [Deed.onActor, @eq_comm _ home, @eq_comm _ id]
  split
  · next here =>
    rcases here with ⟨rfl, rfl⟩
    rcases sees?_eq_some_iff.mp sees with
      ⟨_, _, player, playerActor, isActor, visible, isPlayer, apart, playerThere, differs, _⟩
    cases isThere.symm.trans isActor
    have seen : s.world.noticeable? scene actor = some playerActor :=
      World.noticeable?_eq_some_iff.mpr ⟨player, isPlayer, apart, playerThere⟩
    have crosses := Actor.notice_eq_some_iff.mpr ⟨visible, differs, rfl, rfl⟩
    simp [Actor.noticed, seen, crosses]
  · rfl

end Stage

/-! ## What changes nothing about it -/

/-- One who acts notices nothing. -/
theorem Stage.Course.isNotice_eq_false {driver : Option Handle} {s s' : Stage} {deeds : List Deed}
    {leaf : Leaf} (course : Course driver s deeds s' leaf) (acts : driver.isSome) :
    ∀ deed ∈ deeds, deed.isNotice = false := by
  induction course with
  | ended => simp
  | parked => simp
  | shown => simp [Deed.isNotice]
  | @deed driver s deed _ _ _ allowed _ ih =>
    rw [List.forall_mem_cons]
    refine ⟨?_, ih acts⟩
    cases deed with
    | notice =>
      rw [allowed.1] at acts
      cases acts
    | _ => rfl
  | @drive _ _ h _ _ _ script' _ f' _ _ _ _ _ _ _ _ _ _ ihInner ih =>
    have closing : (f'.stage.closing h script').isNotice = false := by
      unfold Stage.closing
      split
      · split <;> rfl
      · rfl
    simp only [List.forall_mem_cons, List.forall_mem_append]
    exact ⟨rfl, ihInner rfl, closing, ih acts⟩

/-- Actors go on knowing what they know while none notices the player. -/
theorem Deed.keepsOf_playerInside_applyAll {deeds : List Deed}
    (noNotice : ∀ deed ∈ deeds, deed.isNotice = false) (s : Stage) :
    s.world.KeepsOf Actor.playerInside (applyAll deeds s).world := by
  induction deeds generalizing s with
  | nil => exact .refl s.world
  | cons deed rest ih =>
    rw [List.forall_mem_cons] at noNotice
    exact (keepsOf_playerInside noNotice.1 s).trans (ih noNotice.2 (deed.apply s))

namespace Stage

variable {s s' : Stage} {depth : Nat}

/-- What is a course for anyone changes nothing about what actors know. -/
theorem keepsOf_of_courses (anyone : ∀ driver, ∃ deeds, Course driver s deeds s' none) :
    s.world.KeepsOf Actor.playerInside s'.world := by
  rcases anyone (some ⟨.world, default⟩) with ⟨deeds, course⟩
  rw [course.eq_applyAll]
  exact Deed.keepsOf_playerInside_applyAll (course.isNotice_eq_false rfl) s

/-- A choice changes nothing about what actors know. -/
theorem keepsOf_chooseOption (s : Stage) (index : Nat) :
    s.world.KeepsOf Actor.playerInside (s.chooseOption index depth).2.world := by
  cases isOpen : s.world.openDialog with
  | none =>
    simp only [chooseOption, isOpen]
    exact .refl s.world
  | some opened =>
    cases chooses : (s.world.actor? opened.scene opened.actor).bind
        (·.chooseOption? opened.dialog index) with
    | none =>
      simp only [chooseOption, isOpen, chooses]
      exact .refl s.world
    | some choice =>
      rcases choice with ⟨option, actor⟩
      rw [chooseOption_eq isOpen chooses]
      have chose : s.world.KeepsOf Actor.playerInside (s.chosen opened option actor).world := by
        rw [(world_chosen chooses).2]
        exact Deed.keepsOf_playerInside rfl s
      have ran := keepsOf_of_courses fun driver =>
        afterOption_course driver (s.chosen opened option actor) opened option depth
      have resumed := keepsOf_of_courses fun driver => resumeVerb_course driver depth
        ((s.chosen opened option actor).afterOption opened option depth) opened.handle
      exact (chose.trans ran).trans resumed

/-- No move but letting time pass changes what actors know. -/
theorem keepsOf_move (s : Stage) {m : Move} (noTime : ∀ delta, m ≠ .update delta) :
    s.world.KeepsOf Actor.playerInside (s.move m depth).world := by
  cases m with
  | update delta => exact absurd rfl (noTime delta)
  | chooseOption index => exact keepsOf_chooseOption s index
  | _ => exact keepsOf_of_courses fun driver => move_course_of_anyone driver s depth rfl

/-- Nor does the time that passes for the parked verbs. -/
theorem keepsOf_ticked (s : Stage) (delta : Single) :
    s.world.KeepsOf Actor.playerInside (s.ticked (Action.perform depth) delta).world := by
  have ticks : ∀ (handles : List Handle) (s : Stage), s.world.KeepsOf Actor.playerInside
      (handles.foldl (tickVerb (Action.perform depth) delta) s).world := by
    intro handles
    induction handles with
    | nil => exact fun s => .refl s.world
    | cons h rest ih =>
      intro s
      exact (keepsOf_of_courses fun driver => tickVerb_course driver depth delta s h).trans (ih _)
  have passes : s.world.KeepsOf Actor.playerInside ((Deed.pass delta).apply s).world :=
    Deed.keepsOf_playerInside rfl s
  exact passes.trans (ticks _ _)

end Stage

/-! ## Reports -/

/-- An actor's report of a crossing. -/
structure Sighting where
  scene : String
  actor : String
  crossing : Crossing
deriving DecidableEq

/-- The crossings that an actor has reported. -/
def Sighting.crossingsOf (scene actor : String) (sightings : List Sighting) : List Crossing :=
  (sightings.filter fun sighting =>
    sighting.scene = scene ∧ sighting.actor = actor).map (·.crossing)

namespace Stage

/-- The stage after onlookers have compared the player's place one after the other. -/
def sweep (depth : Nat) (s : Stage) (onlookers : List (String × String)) : Stage :=
  onlookers.foldl (fun s onlooker => s.noticePlayer (Action.perform depth) onlooker.1 onlooker.2) s

/-- What an onlooker reports on a stage. -/
def sighting (s : Stage) (scene actor : String) : List Sighting :=
  ((s.sees? scene actor).map (Sighting.mk scene actor)).toList

/-- What onlookers report one after the other. -/
def sightings (depth : Nat) : Stage → List (String × String) → List Sighting
  | _, [] => []
  | s, (scene, actor) :: rest =>
    s.sighting scene actor ++
      sightings depth (s.noticePlayer (Action.perform depth) scene actor) rest

/-- What is reported in a move. -/
def moveSightings (s : Stage) (m : Move) (depth : Nat) : List Sighting :=
  match m with
  | .update delta =>
    (s.ticked (Action.perform depth) delta).sightings depth
      (s.ticked (Action.perform depth) delta).onlookers
  | _ => []

/-- What is reported in a run of moves. -/
def history : Stage → List (Move × Nat) → List Sighting
  | _, [] => []
  | s, m :: rest => s.moveSightings m.1 m.2 ++ history (s.move m.1 m.2) rest

end Stage

/-- Whether actors have reported by turns that the player has come and gone, and those that are
there know the player to be inside if that was the last they have reported. -/
def World.Remembers (w : World) (sightings : List Sighting) : Prop :=
  ∀ scene id, Crossing.Alternate (Sighting.crossingsOf scene id sightings) ∧
    ∀ a, w.actor? scene id = some a →
      (a.playerInside = true ↔ (Sighting.crossingsOf scene id sightings).getLast? = some .enter)

namespace World.Remembers

variable {w w' : World} {s : Stage} {list : List Sighting} {depth : Nat}

/-- What actors know is remembered while it is kept. -/
theorem of_keepsOf (remembers : w.Remembers list) (keeps : w.KeepsOf Actor.playerInside w') :
    w'.Remembers list := by
  intro scene id
  refine ⟨(remembers scene id).1, fun a' found => ?_⟩
  rcases keeps scene id a' found with ⟨a, isThere, same⟩
  rw [same]
  exact (remembers scene id).2 a isThere

/-- An actor that notes what it sees remembers it. -/
theorem crossed (remembers : s.world.Remembers list) {scene actor : String} {crossing : Crossing}
    (sees : s.sees? scene actor = some crossing) :
    (s.crossed scene actor crossing).world.Remembers (list ++ [⟨scene, actor, crossing⟩]) := by
  intro home id
  rcases remembers home id with ⟨alternate, knows⟩
  by_cases here : scene = home ∧ actor = id
  · rcases here with ⟨rfl, rfl⟩
    have reported : Sighting.crossingsOf scene actor (list ++ [⟨scene, actor, crossing⟩]) =
        Sighting.crossingsOf scene actor list ++ [crossing] := by
      simp [Sighting.crossingsOf]
    rcases Stage.sees?_eq_some_iff.mp sees with
      ⟨_, a, _, _, isThere, _, _, _, _, _, isCrossing⟩
    have odd := (knows a isThere).trans alternate.getLast?_eq_enter_iff
    have itsTurn : crossing = Crossing.turn (Sighting.crossingsOf scene actor list).length := by
      rw [isCrossing]
      unfold Crossing.turn
      cases inside : a.playerInside with
      | false =>
        rw [inside] at odd
        have even : (Sighting.crossingsOf scene actor list).length % 2 = 0 := by
          simp only [Bool.false_eq_true, false_iff] at odd
          omega
        simp [even]
      | true =>
        rw [inside] at odd
        simp [odd.mp rfl]
    rw [reported]
    refine ⟨itsTurn ▸ alternate.append, fun a' found => ?_⟩
    rcases Stage.playerInside_crossed sees found with ⟨_, isActor, flips⟩
    cases isThere.symm.trans isActor
    simp only [and_self, if_true] at flips
    rw [flips, isCrossing, List.getLast?_concat]
    cases a.playerInside <;> simp
  · have reported : Sighting.crossingsOf home id (list ++ [⟨scene, actor, crossing⟩]) =
        Sighting.crossingsOf home id list := by
      simp [Sighting.crossingsOf, here]
    rw [reported]
    refine ⟨alternate, fun a' found => ?_⟩
    rcases Stage.playerInside_crossed sees found with ⟨a, isThere, same⟩
    have elsewhere : ¬ (home = scene ∧ id = actor) := fun ⟨sameScene, sameId⟩ =>
      here ⟨sameScene.symm, sameId.symm⟩
    rw [if_neg elsewhere] at same
    rw [same]
    exact knows a isThere

/-- An onlooker that compares the player's place remembers what it reports. -/
theorem noticePlayer (remembers : s.world.Remembers list) (scene actor : String) :
    (s.noticePlayer (Action.perform depth) scene actor).world.Remembers
      (list ++ s.sighting scene actor) := by
  unfold Stage.sighting
  cases sees : s.sees? scene actor with
  | none =>
    rw [Stage.noticePlayer_of_unseen sees, Option.map_none, Option.toList_none, List.append_nil]
    exact remembers
  | some crossing =>
    rw [Stage.noticePlayer_of_sees sees]
    apply (remembers.crossed sees).of_keepsOf
    exact Stage.keepsOf_of_courses fun driver =>
      (Stage.runNamed_course (Action.perform_runs depth) driver _ _ _ _).imp fun _ => And.left

/-- Onlookers remember what they report one after the other. -/
theorem sweep (remembers : s.world.Remembers list) (onlookers : List (String × String)) :
    (s.sweep depth onlookers).world.Remembers (list ++ s.sightings depth onlookers) := by
  induction onlookers generalizing s list with
  | nil => simpa [Stage.sightings, Stage.sweep] using remembers
  | cons onlooker rest ih =>
    simp only [Stage.sightings, ← List.append_assoc]
    exact ih (remembers.noticePlayer onlooker.1 onlooker.2)

/-- What is reported in a move is remembered. -/
theorem move (remembers : s.world.Remembers list) (m : Move) :
    (s.move m depth).world.Remembers (list ++ s.moveSightings m depth) := by
  by_cases time : ∃ delta, m = .update delta
  · rcases time with ⟨delta, rfl⟩
    have ticked : (s.ticked (Action.perform depth) delta).world.Remembers list :=
      remembers.of_keepsOf (s.keepsOf_ticked delta)
    have same : s.move (.update delta) depth = (s.ticked (Action.perform depth) delta).sweep depth
        (s.ticked (Action.perform depth) delta).onlookers := s.update_eq delta depth
    rw [same]
    exact ticked.sweep _
  · have noTime : ∀ delta, m ≠ .update delta := fun delta same => time ⟨delta, same⟩
    have nothing : s.moveSightings m depth = [] := by
      cases m with
      | update delta => exact absurd rfl (noTime delta)
      | _ => rfl
    rw [nothing, List.append_nil]
    exact remembers.of_keepsOf (s.keepsOf_move noTime)

/-- What is reported in a run of moves is remembered. -/
theorem play (remembers : s.world.Remembers list) (moves : List (Move × Nat)) :
    (s.play moves).world.Remembers (list ++ s.history moves) := by
  induction moves generalizing s list with
  | nil => simpa [Stage.history] using remembers
  | cons m rest ih =>
    simp only [Stage.history, ← List.append_assoc]
    exact ih (remembers.move m.1)

end World.Remembers

/-- In a built world nothing has been reported, and no actor knows the player to be inside. -/
theorem Definition.remembers_build {d : Definition} {w : World} (built : d.build = .ok w) :
    w.Remembers [] := by
  intro scene id
  refine ⟨Crossing.alternate_nil, fun a found => ?_⟩
  rcases exists_of_actor?_build built found with ⟨_, _, _, actor, _, _, interaction, rfl⟩
  simp [Sighting.crossingsOf, ActorDefinition.toActor]

/-! ## Updates -/

namespace Stage

variable {s : Stage}

/-- The actors of the current scene look on, in the order in which they came. -/
theorem onlookers_of_current {scene : String} {place : Scene}
    (isCurrent : s.world.currentScene = some scene) (present : s.world.scene? scene = some place) :
    s.onlookers = place.actors.names.map (scene, ·) := by
  simp only [onlookers, isCurrent, present]

/-- No actor looks on twice. -/
theorem nodup_onlookers (s : Stage) : s.onlookers.Nodup := by
  unfold onlookers
  split
  · exact .nil
  · split
    · exact .nil
    · next scene place _ =>
      have distinct : place.actors.names.Nodup := place.actors.distinct
      exact List.pairwise_map.mpr (distinct.imp fun apart same => apart (Prod.mk.inj same).2)

/-- A crossing that is seen has a verb looked for, once it is noted, and that is run if there is
one. -/
theorem noticePlayer_lookup {scene actor : String} {crossing : Crossing}
    (sees : s.sees? scene actor = some crossing) (perform : Performer) :
    ((s.crossed scene actor crossing).resolve? (.actor scene actor) crossing.verbId none = none ∧
      s.noticePlayer perform scene actor = s.crossed scene actor crossing) ∨
    ∃ h, (s.crossed scene actor crossing).resolve? (.actor scene actor) crossing.verbId none =
        some h ∧ h.owner = .actor scene actor ∧ h.key.id = crossing.verbId ∧
      s.noticePlayer perform scene actor =
        ((s.crossed scene actor crossing).runHandle perform h).2 := by
  rw [noticePlayer_of_sees sees, runNamed]
  cases found : (s.crossed scene actor crossing).resolve? (.actor scene actor) crossing.verbId
      none with
  | none => exact .inl ⟨rfl, rfl⟩
  | some h => exact .inr ⟨h, rfl, owner_of_resolve? found, id_of_resolve? found, rfl⟩

end Stage

/-! ## Games -/

/-- In a game that is played from a built world what each actor reports is by turns that the player
has come and that it has gone, and as long as the actor is there it knows the player to be inside
exactly if that was its last report.  That is so after every move, and in an update after each
onlooker that has had its turn; the onlookers are the actors of the current scene, each once, in the
order in which they came.  An onlooker reports exactly what it sees, and of what it has reported it
looks for the verb once and runs it at most once. -/
theorem Definition.alternates_play {d : Definition} {w : World} (built : d.build = .ok w)
    (settings : Settings) (moves : List (Move × Nat)) :
    let s := (Stage.ofWorld w settings).play moves
    let reported := (Stage.ofWorld w settings).history moves
    s.world.Remembers reported ∧
      (∀ delta depth,
        let ticked := s.ticked (Action.perform depth) delta
        s.move (.update delta) depth = ticked.sweep depth ticked.onlookers ∧
          ticked.onlookers.Nodup ∧
          (∀ scene place, ticked.world.currentScene = some scene →
            ticked.world.scene? scene = some place →
              ticked.onlookers = place.actors.names.map (scene, ·)) ∧
          ∀ checked, checked <+: ticked.onlookers →
            (ticked.sweep depth checked).world.Remembers
              (reported ++ ticked.sightings depth checked)) ∧
      ∀ (t : Stage) perform scene actor,
        (∀ crossing, t.sees? scene actor = some crossing ↔ t.world.currentScene = some scene ∧
          ∃ a player playerActor, t.world.actor? scene actor = some a ∧ a.visible = true ∧
            t.world.player = some player ∧ player ≠ actor ∧
            t.world.actor? scene player = some playerActor ∧
            a.region.contains playerActor.position ≠ a.playerInside ∧
            crossing = if a.playerInside then .exit else .enter) ∧
        (t.sees? scene actor = none → t.noticePlayer perform scene actor = t) ∧
        ∀ crossing, t.sees? scene actor = some crossing →
          let after := t.crossed scene actor crossing
          (after.resolve? (.actor scene actor) crossing.verbId none = none ∧
            t.noticePlayer perform scene actor = after) ∨
          ∃ h, after.resolve? (.actor scene actor) crossing.verbId none = some h ∧
            h.owner = .actor scene actor ∧ h.key.id = crossing.verbId ∧
            t.noticePlayer perform scene actor = (after.runHandle perform h).2 := by
  intro s reported
  have remembers : s.world.Remembers reported := by
    have begun : (Stage.ofWorld w settings).world.Remembers [] := remembers_build built
    exact begun.play moves
  refine ⟨remembers, fun delta depth => ?_, fun t perform scene actor => ?_⟩
  · intro ticked
    refine ⟨s.update_eq delta depth, ticked.nodup_onlookers, ?_, fun checked _ => ?_⟩
    · exact fun scene place => Stage.onlookers_of_current
    · exact (remembers.of_keepsOf (s.keepsOf_ticked delta)).sweep checked
  · refine ⟨fun crossing => Stage.sees?_eq_some_iff, ?_, ?_⟩
    · exact fun unseen => Stage.noticePlayer_of_unseen unseen perform
    · exact fun crossing sees => Stage.noticePlayer_lookup sees perform

/-! ## A small game -/

/-- A game in a yard with a gate, in which the hero stands and is put in front of it on coming. -/
def Definition.yard : Definition :=
  let someone (id : String) (pos : Point) (corners : List Point) (verbs : List VerbDefinition) :
      ActorDefinition := {
    id
    desc := ""
    layer := "main"
    pos
    corners
    zIndex := 0
    state := none
    visible := true
    interaction := true
    verbs
    dialogs := []
    sounds := []
    properties := ∅ }
  { game := ⟨"Yard", "yard", "1", "yard", some "hero"⟩
    scenes := [{
      id := "yard"
      state := none
      layers := [⟨"main", true, false⟩]
      actors := [
        someone "hero" ⟨1, 1⟩ [] [],
        someone "gate" ⟨0, 0⟩ [⟨0, 0⟩, ⟨2, 0⟩, ⟨2, 2⟩, ⟨0, 2⟩]
          [⟨⟨"enter", none, none⟩, [.position (some "hero") ⟨5, 0⟩]⟩]]
      verbs := []
      properties := ∅ }]
    verbs := []
    properties := ∅ }

/-- The world with which the game in the yard begins. -/
def World.yard : World := Definition.yard.build.toOption.getD .empty

/-- The gate reports that the hero has come, and when time has passed again that the hero, who has
been put outside, has gone. -/
theorem World.yard_alternates :
    let moves : List (Move × Nat) := [(.update 1, 2), (.update 1, 2)]
    Definition.yard.build = .ok .yard ∧
      (Stage.ofWorld .yard).history moves = [⟨"yard", "gate", .enter⟩, ⟨"yard", "gate", .exit⟩] ∧
      ((Stage.ofWorld .yard).play moves).world.Remembers
        [⟨"yard", "gate", .enter⟩, ⟨"yard", "gate", .exit⟩] := by
  intro moves
  have built : Definition.yard.build = .ok .yard := rfl
  have reported : (Stage.ofWorld .yard).history moves =
      [⟨"yard", "gate", .enter⟩, ⟨"yard", "gate", .exit⟩] := by decide +kernel
  have remembers := (Definition.alternates_play built .standard moves).1
  rw [reported] at remembers
  exact ⟨built, reported, remembers⟩

end Stagecraft
