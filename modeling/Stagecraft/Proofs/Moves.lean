import Stagecraft.Proofs.Acting

/-!
# Moves

A front end plays a world move by move.  Every move is a course, and so is every run of moves, in
which each may go down to its own depth.
-/

namespace Stagecraft

/-- A move of the front end. -/
inductive Move where
  | begin
  | enterScene (id : String)
  | setPlayer (actor : Option String)
  | update (delta : Single)
  | runVerb (owner : Owner) (id : String) (target : Option String)
  | interact (actor id : String) (target : Option String)
  | resumeVerb (h : Handle)
  | cancelVerb (h : Handle)
  | animationFinished (actor : String)
  | chooseOption (index : Nat)

/-- Whether a move is one that nobody but the front end makes: time passes, or an option is
chosen. -/
def Move.isFrontEnds : Move → Bool
  | .update _ | .chooseOption _ => true
  | _ => false

namespace Stage

/-- The stage after a move.  A move that fails leaves the stage as it was. -/
def move (s : Stage) (m : Move) (depth : Nat) : Stage :=
  match m with
  | .begin => (s.begin depth).toOption.getD s
  | .enterScene id => (s.enterScene id depth).toOption.getD s
  | .setPlayer actor => (s.setPlayer actor).toOption.getD s
  | .update delta => s.update delta depth
  | .runVerb owner id target => (s.runVerb owner id target depth).2
  | .interact actor id target => (s.interact actor id target depth).2
  | .resumeVerb h => (s.resumeVerb h depth).2
  | .cancelVerb h => (s.cancelVerb h).2
  | .animationFinished actor => (s.animationFinished actor depth).2
  | .chooseOption index => (s.chooseOption index depth).2

/-- The stage after a run of moves, each with the depth down to which it may go. -/
def play (s : Stage) (moves : List (Move × Nat)) : Stage :=
  moves.foldl (fun s m => s.move m.1 m.2) s

@[simp] theorem play_nil (s : Stage) : s.play [] = s := rfl

@[simp] theorem play_cons (s : Stage) (m : Move × Nat) (rest : List (Move × Nat)) :
    s.play (m :: rest) = (s.move m.1 m.2).play rest := rfl

/-! ## What operations do -/

/-- Operations that are courses one after the other are one course. -/
theorem foldl_course {α : Type} {driver : Option Handle} {step : Stage → α → Stage}
    (each : ∀ s a, ∃ deeds, Course driver s deeds (step s a) none) (list : List α) (s : Stage) :
    ∃ deeds, Course driver s deeds (list.foldl step s) none := by
  induction list generalizing s with
  | nil => exact ⟨[], .ended⟩
  | cons a rest ih =>
    obtain ⟨deeds, first⟩ := each s a
    obtain ⟨more, second⟩ := ih (step s a)
    exact ⟨deeds ++ more, first.append second⟩

/-- Time that passes for a verb is a course, in which other verbs are only run and cancelled.  For a
verb that waits for a choice nothing is done. -/
theorem tickVerb_exists_own (driver : Option Handle) (depth : Nat) (delta : Single) (s : Stage)
    (h : Handle) :
    ∃ own rest, own.Sublist [.take h (.tick delta)] ∧ Deed.AmongVerbs rest ∧
      Course driver s (own ++ rest) (s.tickVerb (Action.perform depth) delta h) none := by
  rw [tickVerb_eq]
  by_cases waits : ∃ script, s.world.script? h = some script ∧ script.WaitsForChoice
  · obtain ⟨script, found, waits⟩ := waits
    by_cases executing : h ∈ s.executing
    · refine ⟨[], [.note .warning s!"verb {h.text} is already executing"], List.nil_sublist _,
        by simp [Deed.AmongVerbs], ?_⟩
      simp only [driveVerb, withVerb, executing, if_true]
      exact .ofDeeds ⟨trivial, trivial⟩
    · refine ⟨[], [], List.nil_sublist _, .nil, ?_⟩
      have ticked := Script.tick_of_waitsForChoice (Action.perform depth) delta
        (Frame.enter h (s.lend h)) waits
      have unchanged : s.driveVerb (Action.perform depth) (.tick delta) h =
          (some (.ok .suspended), s) :=
        withVerb_of_unchanged executing found (by simp only [Driving.drive, ticked]; rfl)
      rw [unchanged]
      exact .ended
  · have driven := driven_driveVerb (Action.perform depth) (.tick delta) s h
      (.inr (Action.perform_runs depth)) fun script found scriptWaits =>
        absurd ⟨script, found, scriptWaits⟩ waits
    exact driven.exists_own driver

theorem tickVerb_course (driver : Option Handle) (depth : Nat) (delta : Single) (s : Stage)
    (h : Handle) :
    ∃ deeds, Course driver s deeds (s.tickVerb (Action.perform depth) delta h) none := by
  obtain ⟨own, rest, _, _, course⟩ := tickVerb_exists_own driver depth delta s h
  exact ⟨own ++ rest, course⟩

/-- Telling a verb that what it waits for has arrived is a course. -/
theorem resumeVerb_course (driver : Option Handle) (depth : Nat) (s : Stage) (h : Handle) :
    ∃ deeds, Course driver s deeds (s.resumeVerb h depth).2 none := by
  rw [resumeVerb_eq]
  exact (driven_driveVerb (Action.perform depth) .resume s h (.inr (Action.perform_runs depth))
    fun _ _ _ => .inr (.inl rfl)).course driver

/-- Taking a verb up again is a course. -/
theorem reenterVerb_course (driver : Option Handle) (depth : Nat) (s : Stage) (h : Handle) :
    ∃ deeds, Course driver s deeds (s.reenterVerb (Action.perform depth) h) none := by
  rw [reenterVerb_eq]
  cases found : s.world.script? h with
  | none => exact ⟨[], .ended⟩
  | some script =>
    simp only [Option.elim_some]
    split
    · next between =>
      have minds : ∀ again, s.world.script? h = some again → Driving.reenter.Minds again := by
        intro again foundAgain waits
        obtain rfl : script = again := Option.some.inj (found.symm.trans foundAgain)
        obtain ⟨_, _, _, notSuspended⟩ := between.exists_ip
        exact absurd waits (Script.not_waitsForChoice notSuspended)
      obtain ⟨deeds, course⟩ := (driven_driveVerb (Action.perform depth) .reenter
        (s.info s!"re-entering verb {h.text} after load") h (.inr (Action.perform_runs depth))
        minds).course driver
      have allowed : Deed.Allowed driver s
        (.note .info s!"re-entering verb {h.text} after load") := trivial
      exact ⟨_, .deed allowed course⟩
    · exact ⟨[], .ended⟩

/-- Going on with a stored game is a course. -/
theorem restore_course (driver : Option Handle) {s s' : Stage} {depth : Nat}
    (restored : s.restore depth = .ok s') : ∃ deeds, Course driver s deeds s' none := by
  unfold restore at restored
  split at restored
  · cases restored
  · cases restored
    exact foldl_course (reenterVerb_course driver depth) s.world.handles s

/-- The crossing that an actor of a scene would notice now, if that is the current one. -/
def sees? (s : Stage) (scene actor : String) : Option Crossing :=
  if s.world.currentScene = some scene then
    ((s.world.scene? scene).bind (·.notice actor s.world.player)).map (·.1)
  else none

/-- The stage on which an actor has noticed that the player has come or gone, before its verb for
that runs. -/
def crossed (s : Stage) (scene actor : String) (crossing : Crossing) : Stage :=
  ((Deed.notice scene actor).apply s).info
    s!"player crossed into/out of '{actor}': {crossing.name}"

/-- What an actor sees is what its scene makes of the player's place. -/
theorem exists_of_sees? {s : Stage} {scene actor : String} {crossing : Crossing}
    (sees : s.sees? scene actor = some crossing) : s.world.currentScene = some scene ∧
      ∃ noticed, (s.world.scene? scene).bind (·.notice actor s.world.player) =
        some (crossing, noticed) := by
  unfold sees? at sees
  split at sees
  · next isCurrent =>
    rcases Option.map_eq_some_iff.mp sees with ⟨⟨_, noticed⟩, notices, rfl⟩
    exact ⟨isCurrent, noticed, notices⟩
  · cases sees

/-- What its scene makes of the player's place is what an actor sees. -/
theorem sees?_of_notice {s : Stage} {scene actor : String} {crossing : Crossing} {noticed : Scene}
    (isCurrent : s.world.currentScene = some scene)
    (notices : (s.world.scene? scene).bind (·.notice actor s.world.player) =
      some (crossing, noticed)) : s.sees? scene actor = some crossing := by
  rw [sees?, if_pos isCurrent, notices]
  rfl

/-- An actor may note what it sees. -/
theorem allowed_notice {s : Stage} {scene actor : String} {crossing : Crossing}
    (sees : s.sees? scene actor = some crossing) : (Deed.notice scene actor).Allowed none s := by
  rcases exists_of_sees? sees with ⟨isCurrent, noticed, notices⟩
  exact ⟨rfl, isCurrent, by simp [notices]⟩

/-- An actor that sees nothing does nothing. -/
theorem noticePlayer_of_unseen {s : Stage} {scene actor : String}
    (unseen : s.sees? scene actor = none) (perform : Performer) :
    s.noticePlayer perform scene actor = s := by
  unfold noticePlayer
  unfold sees? at unseen
  split
  · next isCurrent =>
    rw [if_pos isCurrent, Option.map_eq_none_iff] at unseen
    rw [unseen]
  · rfl

/-- An actor notes what it sees, and then its verb for that runs. -/
theorem noticePlayer_of_sees {s : Stage} {scene actor : String} {crossing : Crossing}
    (sees : s.sees? scene actor = some crossing) (perform : Performer) :
    s.noticePlayer perform scene actor =
      ((s.crossed scene actor crossing).runNamed perform (.actor scene actor) crossing.verbId
        none).2 := by
  rcases exists_of_sees? sees with ⟨isCurrent, noticed, notices⟩
  have same : s.world.modifyScene scene (fun _ => noticed) =
      s.world.modifyScene scene (·.noticed actor s.world.player) := by
    refine World.modifyScene_congr fun place found => ?_
    simp only [found, Option.bind_some] at notices
    simp [Scene.noticed, notices]
  unfold noticePlayer
  rw [if_pos isCurrent, notices]
  simp only [mapWorld, same]
  rfl

/-- An actor's noticing the player, and the verb it runs for it, are a course. -/
theorem noticePlayer_course (depth : Nat) (scene : String) (s : Stage) (actor : String) :
    ∃ deeds, Course none s deeds (s.noticePlayer (Action.perform depth) scene actor) none ∧
      Deed.AmongVerbs deeds := by
  cases sees : s.sees? scene actor with
  | none =>
    rw [noticePlayer_of_unseen sees]
    exact ⟨[], .ended, .nil⟩
  | some crossing =>
    rw [noticePlayer_of_sees sees]
    have allowed : ∀ text, Deed.AllAllowed none s [.notice scene actor, .note .info text] :=
      fun _ => ⟨allowed_notice sees, trivial, trivial⟩
    have crosses : Course none s [.notice scene actor, .note .info _]
        (s.crossed scene actor crossing) none := .ofDeeds (allowed _)
    obtain ⟨deeds, run, amongVerbs⟩ := runNamed_course (Action.perform_runs depth) none
      (s.crossed scene actor crossing) (.actor scene actor) crossing.verbId none
    exact ⟨_, crosses.append run, (allowed _).amongVerbs.append amongVerbs⟩

/-- The stage on which time has passed for the parked verbs. -/
def ticked (perform : Performer) (delta : Single) (s : Stage) : Stage :=
  ((Deed.pass delta).apply s).world.parkedHandles.foldl (tickVerb perform delta)
    ((Deed.pass delta).apply s)

/-- The actors that may notice the player, each with the current scene. -/
def onlookers (s : Stage) : List (String × String) :=
  match s.world.currentScene with
  | none => []
  | some scene =>
    match s.world.scene? scene with
    | none => []
    | some place => place.actors.names.map (scene, ·)

/-- Time passes for the parked verbs first, and then the onlookers notice the player. -/
theorem update_eq (s : Stage) (delta : Single) (depth : Nat) :
    s.update delta depth = (s.ticked (Action.perform depth) delta).onlookers.foldl
      (fun s onlooker => s.noticePlayer (Action.perform depth) onlooker.1 onlooker.2)
      (s.ticked (Action.perform depth) delta) := by
  have passes : s.update delta depth =
      match (s.ticked (Action.perform depth) delta).world.currentScene with
      | none => s.ticked (Action.perform depth) delta
      | some scene =>
        match (s.ticked (Action.perform depth) delta).world.scene? scene with
        | none => s.ticked (Action.perform depth) delta
        | some place => place.actors.names.foldl (noticePlayer (Action.perform depth) scene)
            (s.ticked (Action.perform depth) delta) := rfl
  rw [passes]
  generalize s.ticked (Action.perform depth) delta = after
  unfold onlookers
  cases after.world.currentScene with
  | none => rfl
  | some scene =>
    cases present : after.world.scene? scene with
    | none => simp [present]
    | some place => simp [present, List.foldl_map]

/-- Letting time pass is a course. -/
theorem update_course (s : Stage) (delta : Single) (depth : Nat) :
    ∃ deeds, Course none s deeds (s.update delta depth) none := by
  have passed : Course none s [.pass delta] ((Deed.pass delta).apply s) none :=
    .ofDeeds ⟨rfl, trivial⟩
  obtain ⟨ticks, ticks_course⟩ := foldl_course (tickVerb_course none depth delta)
    ((Deed.pass delta).apply s).world.parkedHandles ((Deed.pass delta).apply s)
  obtain ⟨more, noticed⟩ := foldl_course
    (fun s (onlooker : String × String) =>
      (noticePlayer_course depth onlooker.1 s onlooker.2).imp fun _ => And.left)
    (s.ticked (Action.perform depth) delta).onlookers (s.ticked (Action.perform depth) delta)
  rw [update_eq]
  exact ⟨_, (passed.append ticks_course).append noticed⟩

/-- Entering a scene is a course. -/
theorem enterScene_course (driver : Option Handle) {s s' : Stage} {id : String} {depth : Nat}
    (entered : s.enterScene id depth = .ok s') : ∃ deeds, Course driver s deeds s' none :=
  (goToScene_course (Action.perform_runs depth) driver entered).imp fun _ => And.left

/-- Running a verb for the player is a course. -/
theorem interact_course (driver : Option Handle) (s : Stage) (actor id : String)
    (target : Option String) (depth : Nat) :
    ∃ deeds, Course driver s deeds (s.interact actor id target depth).2 none := by
  have noted : ∀ level text, ∃ deeds, Course driver s deeds (s.note level text) none :=
    fun level text => ⟨[.note level text], .ofDeeds ⟨trivial, trivial⟩⟩
  unfold interact
  split
  · exact ⟨[], .ended⟩
  · split
    · exact noted _ _
    · split
      · split
        · next h _ =>
          obtain ⟨deeds, first⟩ := noted .info s!"player: {id} {actor} -> {h.text}"
          obtain ⟨more, run, _⟩ := runHandle_course (Action.perform_runs depth) driver
            (s.info s!"player: {id} {actor} -> {h.text}") h
          exact ⟨_, first.append run⟩
        · exact noted _ _
      · exact noted _ _

/-- The verbs that wait for the end of an animation go on, and that is a course. -/
theorem animationFinished_course (driver : Option Handle) (s : Stage) (actor : String)
    (depth : Nat) : ∃ deeds, Course driver s deeds (s.animationFinished actor depth).2 none := by
  unfold animationFinished
  generalize s.animationWaiters actor = waiters
  generalize (0 : Nat) = count
  induction waiters generalizing s count with
  | nil => exact ⟨[], .ended⟩
  | cons h rest ih =>
    obtain ⟨deeds, first⟩ := resumeVerb_course driver depth s h
    rcases resumed : s.resumeVerb h depth with ⟨reason | state, s₁⟩
    · rw [resumed] at first
      simp only [List.foldl_cons, resumed]
      have failed : Course driver s₁
          [.note .error s!"animation finished on '{actor}': {reason.message}"]
          (s₁.error s!"animation finished on '{actor}': {reason.message}") none :=
        .ofDeeds ⟨trivial, trivial⟩
      obtain ⟨more, others⟩ := ih (s₁.error s!"animation finished on '{actor}': {reason.message}")
        count
      exact ⟨_, (first.append failed).append others⟩
    · rw [resumed] at first
      simp only [List.foldl_cons, resumed]
      obtain ⟨more, others⟩ := ih s₁ (count + 1)
      exact ⟨_, first.append others⟩

/-- The stage on which the player has chosen an option of the open dialog, which is now `actor`'s,
before the verb of the option runs. -/
def chosen (s : Stage) (opened : OpenDialog) (option : DialogOption) (actor : Actor) : Stage :=
  let s := ((s.mapWorld fun w =>
      { w with openDialog := none }.modifyActor opened.scene opened.actor fun _ => actor).info
    s!"dialog '{opened.dialog}': chose \"{option.text}\"").emit
      (.dialogClosed opened.actor opened.dialog)
  match s.world.player with
  | some player => s.emit (.speech player option.text)
  | none => s

/-- The stage on which the verb of a chosen option has run. -/
def afterOption (s : Stage) (opened : OpenDialog) (option : DialogOption) (depth : Nat) : Stage :=
  match option.verb with
  | some verb => (s.runVerb (.actor opened.scene opened.actor) verb none depth).2
  | none => s

/-- A choice closes the dialog, runs the verb of the option, and tells the verb that opened the
dialog. -/
theorem chooseOption_eq {s : Stage} {opened : OpenDialog} {index : Nat} {option : DialogOption}
    {actor : Actor} (isOpen : s.world.openDialog = some opened)
    (chooses : (s.world.actor? opened.scene opened.actor).bind
      (·.chooseOption? opened.dialog index) = some (option, actor)) (depth : Nat) :
    s.chooseOption index depth =
      let resumed := ((s.chosen opened option actor).afterOption opened option depth).resumeVerb
        opened.handle depth
      (resumed.1.mapError .verb, resumed.2) := by
  unfold chooseOption
  rw [isOpen]
  simp only [chooses]
  rfl

/-- What a choice does to the world is one deed. -/
theorem world_chosen {s : Stage} {opened : OpenDialog} {index : Nat} {option : DialogOption}
    {actor : Actor} (chooses : (s.world.actor? opened.scene opened.actor).bind
      (·.chooseOption? opened.dialog index) = some (option, actor)) :
    s.mapWorld (fun w =>
        { w with openDialog := none }.modifyActor opened.scene opened.actor fun _ => actor) =
      Deed.apply (.choose opened.scene opened.actor opened.dialog index) s ∧
    (s.chosen opened option actor).world =
      (Deed.apply (.choose opened.scene opened.actor opened.dialog index) s).world := by
  have same : { s.world with openDialog := none }.modifyActor opened.scene opened.actor
        (fun _ => actor) =
      { s.world with openDialog := none }.modifyActor opened.scene opened.actor
        (·.chosen opened.dialog index) := by
    refine World.modifyActor_congr fun a found => ?_
    have inWorld : s.world.actor? opened.scene opened.actor = some a := found
    simp only [inWorld, Option.bind_some] at chooses
    simp [Actor.chosen, chooses]
  refine ⟨congrArg (fun world => { s with world }) same, ?_⟩
  refine Eq.trans ?_ same
  unfold chosen
  simp only
  split <;> rfl

/-- Making a choice is a course. -/
theorem chosen_course {s : Stage} {opened : OpenDialog} {index : Nat} {option : DialogOption}
    {actor : Actor} (isOpen : s.world.openDialog = some opened)
    (chooses : (s.world.actor? opened.scene opened.actor).bind
      (·.chooseOption? opened.dialog index) = some (option, actor)) :
    ∃ more, Course none s
      (.choose opened.scene opened.actor opened.dialog index :: more)
      (s.chosen opened option actor) none := by
  have allowed : Deed.Allowed none s (.choose opened.scene opened.actor opened.dialog index) :=
    ⟨rfl, ⟨opened, isOpen, rfl, rfl, rfl⟩, by simp [chooses]⟩
  have told : ∀ s : Stage, Course none s
      [.note .info s!"dialog '{opened.dialog}': chose \"{option.text}\"",
        .emit (.dialogClosed opened.actor opened.dialog)]
      ((s.info s!"dialog '{opened.dialog}': chose \"{option.text}\"").emit
        (.dialogClosed opened.actor opened.dialog)) none :=
    fun s => .ofDeeds ⟨trivial, trivial, trivial⟩
  unfold chosen
  rw [(world_chosen chooses).1]
  simp only
  split
  · next player _ =>
    have spoken : ∀ s, Course none s [.emit (.speech player option.text)]
        (s.emit (.speech player option.text)) none := fun s => .ofDeeds ⟨trivial, trivial⟩
    exact ⟨_, .deed allowed ((told _).append (spoken _))⟩
  · exact ⟨_, .deed allowed (told _)⟩

/-- Running the verb of an option is a course. -/
theorem afterOption_course (driver : Option Handle) (s : Stage) (opened : OpenDialog)
    (option : DialogOption) (depth : Nat) :
    ∃ deeds, Course driver s deeds (s.afterOption opened option depth) none := by
  unfold afterOption
  split
  · exact (runNamed_course (Action.perform_runs depth) driver s _ _ none).imp fun _ => And.left
  · exact ⟨[], .ended⟩

/-- Choosing an option of the open dialog is a course. -/
theorem chooseOption_course (s : Stage) (index depth : Nat) :
    ∃ deeds, Course none s deeds (s.chooseOption index depth).2 none := by
  cases isOpen : s.world.openDialog with
  | none =>
    simp only [chooseOption, isOpen]
    exact ⟨[], .ended⟩
  | some opened =>
    cases chooses : (s.world.actor? opened.scene opened.actor).bind
        (·.chooseOption? opened.dialog index) with
    | none =>
      simp only [chooseOption, isOpen, chooses]
      exact ⟨[], .ended⟩
    | some choice =>
      obtain ⟨option, actor⟩ := choice
      rw [chooseOption_eq isOpen chooses]
      obtain ⟨first, chose⟩ := chosen_course isOpen chooses
      obtain ⟨second, ran⟩ := afterOption_course none (s.chosen opened option actor) opened
        option depth
      obtain ⟨third, resumed⟩ := resumeVerb_course none depth
        ((s.chosen opened option actor).afterOption opened option depth) opened.handle
      exact ⟨_, (chose.append ran).append resumed⟩

/-! ## Moves and runs of them -/

/-- A move that may fail is a course if it is one when it succeeds. -/
private theorem toOption_course {driver : Option Handle} {s : Stage} {effect : Except Fault Stage}
    (succeeds : ∀ s', effect = .ok s' → ∃ deeds, Course driver s deeds s' none) :
    ∃ deeds, Course driver s deeds (effect.toOption.getD s) none := by
  cases effect with
  | error reason => exact ⟨[], .ended⟩
  | ok s' => exact succeeds s' rfl

/-- Every move in which no time passes and nothing is chosen is a course for anyone. -/
theorem move_course_of_anyone (driver : Option Handle) (s : Stage) {m : Move} (depth : Nat)
    (anyone : m.isFrontEnds = false) : ∃ deeds, Course driver s deeds (s.move m depth) none := by
  cases m with
  | begin =>
    refine toOption_course fun s' begun => ?_
    unfold begin at begun
    split at begun
    · exact enterScene_course driver begun
    · cases begun
  | enterScene id => exact toOption_course fun s' entered => enterScene_course driver entered
  | setPlayer actor =>
    refine toOption_course fun s' set => ?_
    obtain ⟨present, text, rfl⟩ := Stage.setPlayer_eq_ok set
    exact ⟨_, .ofDeeds ⟨present, trivial, trivial⟩⟩
  | runVerb owner id target =>
    exact (runNamed_course (Action.perform_runs depth) driver s owner id target).imp
      fun _ => And.left
  | interact actor id target => exact interact_course driver s actor id target depth
  | resumeVerb h => exact resumeVerb_course driver depth s h
  | cancelVerb h => exact (cancelVerb_course driver s h).imp fun _ => And.left
  | animationFinished actor => exact animationFinished_course driver s actor depth
  | update | chooseOption => cases anyone

/-- Every move is a course. -/
theorem move_course (s : Stage) (m : Move) (depth : Nat) :
    ∃ deeds, Course none s deeds (s.move m depth) none := by
  cases m with
  | update delta => exact update_course s delta depth
  | chooseOption index => exact chooseOption_course s index depth
  | _ => exact move_course_of_anyone none s depth rfl

/-- Every run of moves is a course. -/
theorem play_course (s : Stage) (moves : List (Move × Nat)) :
    ∃ deeds, Course none s deeds (s.play moves) none :=
  foldl_course (fun s (m : Move × Nat) => move_course s m.1 m.2) moves s

end Stage

end Stagecraft
