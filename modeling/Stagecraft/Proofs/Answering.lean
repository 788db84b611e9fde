import Stagecraft.Proofs.Offering

/-!
# Who is answered

The verb that waits for a choice is the one whose dialog is open, so there is at most one.  A choice
closes the dialog before it tells the verb, and in between the verb of the option runs; so the verb
that is being answered is an exception on the way.
-/

namespace Stagecraft

variable {driver : Option Handle} {s s' : Stage} {deed : Deed} {deeds : List Deed} {leaf : Leaf}
  {g h : Handle} {except : Handle → Prop}

/-! ## Registered verbs -/

/-- Whether the open dialog is that of a verb. -/
def Stage.Registered (s : Stage) (h : Handle) : Prop :=
  ∃ opened, s.world.openDialog = some opened ∧ opened.handle = h

/-- Only the verb of the open dialog waits for a choice, and perhaps some exceptions.  A verb that
is driven does not wait. -/
structure Stage.Attended (s : Stage) (except : Handle → Prop) : Prop where
  registered : ∀ h, s.Waits h → except h ∨ s.Registered h
  driven : ∀ h ∈ s.executing, ¬ s.Waits h

/-- A verb whose innermost parked action waits for a choice waits. -/
theorem Stage.waits_of_leaf? (awaits : awaitsChoice (s.world.leaf? h) = true) : s.Waits h := by
  unfold World.leaf? at awaits
  cases found : s.world.script? h with
  | none =>
    rw [found] at awaits
    cases awaits
  | some script =>
    rw [found] at awaits
    exact ⟨script, found, awaits⟩

namespace Stage.Attended

theorem mono {others : Handle → Prop} (attended : s.Attended except)
    (weaker : ∀ h, except h → others h) : s.Attended others where
  registered h waits := (attended.registered h waits).imp_left (weaker h)
  driven := attended.driven

/-- A deed that does not open or close a dialog makes no verb wait. -/
theorem apply (attended : s.Attended except) (allowed : deed.Allowed driver s)
    (still : deed.movesDialog = false) : (deed.apply s).Attended except where
  registered h waits := by
    have waited := ((waits_apply allowed).mp waits).1
    rcases attended.registered h waited with excepted | ⟨opened, isOpen, own⟩
    · exact .inl excepted
    · right
      rw [← Deed.openDialog_apply still] at isOpen
      exact ⟨opened, isOpen, own⟩
  driven h executing waits := by
    rw [allowed.executing_eq] at executing
    exact attended.driven h executing ((waits_apply allowed).mp waits).1

/-- A verb that is driven closes its own dialog, on which it does not wait. -/
theorem closeDialog (attended : s.Attended except) (own : except g ∨ g ∈ s.executing)
    (allowed : Deed.closeDialog.Allowed (some g) s) :
    (Deed.closeDialog.apply s).Attended except where
  registered h waits := by
    have waited := ((waits_apply allowed).mp waits).1
    rcases allowed with ⟨_, opened, ⟨⟩, isOpen, rfl⟩
    rcases attended.registered h waited with excepted | ⟨other, isOther, rfl⟩
    · exact .inl excepted
    · obtain rfl : opened = other := Option.some.inj (isOpen.symm.trans isOther)
      rcases own with excepted | executing
      · exact .inl excepted
      · exact absurd waited (attended.driven _ executing)
  driven h executing waits := attended.driven h executing ((waits_apply allowed).mp waits).1

/-- A verb opens a dialog only where none but its own is open. -/
theorem openDialog (attended : s.Attended except) {opened : OpenDialog}
    (free : ∀ other, s.world.openDialog = some other → other.handle = opened.handle) :
    ((Deed.openDialog opened).apply s).Attended except where
  registered h waits := by
    rcases attended.registered h waits with excepted | ⟨other, isOpen, rfl⟩
    · exact .inl excepted
    · exact .inr ⟨opened, rfl, (free other isOpen).symm⟩
  driven := attended.driven

/-- A verb that is lent is no exception any more. -/
theorem lend (attended : s.Attended except) (g : Handle) :
    (s.lend g).Attended fun h => except h ∧ h ≠ g where
  registered h waits := by
    rw [waits_lend] at waits
    rcases waits with ⟨other, waits⟩
    rcases attended.registered h waits with excepted | ⟨opened, isOpen, own⟩
    · exact .inl ⟨excepted, other⟩
    · exact .inr ⟨opened, (openDialog_lend s g).trans isOpen, own⟩
  driven h executing waits := by
    rw [waits_lend] at waits
    rcases waits with ⟨other, waits⟩
    rcases List.mem_cons.mp executing with same | below
    · exact other same
    · exact attended.driven h below waits

/-- A verb that comes back may wait on the dialog that it has opened. -/
theorem closing (attended : s.Attended except) {others : List Handle}
    (executing : s.executing = g :: others) (idle : g ∉ others) {script : Script Action}
    (parked : awaitsChoice (script.leaf? g.owner) = true → s.Registered g) :
    ((s.closing g script).apply s).Attended except where
  registered h waits := by
    have stays : s.Registered h → ((s.closing g script).apply s).Registered h := by
      rintro ⟨opened, isOpen, own⟩
      exact ⟨opened, (openDialog_closing s g script).trans isOpen, own⟩
    by_cases same : h = g
    · subst same
      have notYet : ¬ s.Waits h := attended.driven h (by simp [executing])
      exact .inr (stays (parked ((waits_closing notYet script).mp waits).1))
    · rw [waits_closing_of_ne same] at waits
      exact (attended.registered h waits).imp_right stays
  driven h member waits := by
    rw [executing_closing, executing, List.tail_cons] at member
    have other : h ≠ g := by
      rintro rfl
      exact idle member
    rw [waits_closing_of_ne other] at waits
    exact attended.driven h (by simp [executing, member]) waits

end Stage.Attended

/-! ## Along courses -/

/-- What a verb does while it is driven leaves only the verb of the open dialog waiting, and a verb
parks on an action that waits for a choice as the one whose dialog is open. -/
theorem Stage.Course.attended (course : Course driver s deeds s' leaf) (acts : driver = some g)
    (own : except g ∨ g ∈ s.executing) (attended : s.Attended except) :
    s'.Attended except ∧ (awaitsChoice leaf = true → s'.Registered g) := by
  induction course generalizing g except with
  | ended => exact ⟨attended, nofun⟩
  | parked noChoice =>
    refine ⟨attended, fun awaits => ?_⟩
    rw [noChoice] at awaits
    cases awaits
  | @shown h s scene id actor dialog owner text event free =>
    cases acts
    have noted : (Deed.note .info text).Allowed none s := trivial
    have opens : (Deed.applyAll [.note .info text, .openDialog ⟨h, scene, id, dialog⟩] s).Attended
        except := (attended.apply noted rfl).openDialog free
    have emitted : (Deed.emit event).Allowed none
        (Deed.applyAll [.note .info text, .openDialog ⟨h, scene, id, dialog⟩] s) := trivial
    constructor
    · exact opens.apply emitted rfl
    · exact fun _ => ⟨⟨h, scene, id, dialog⟩, rfl, rfl⟩
  | @deed driver s deed more s' leaf allowed _ ih =>
    subst acts
    have ownAfter : except g ∨ g ∈ (deed.apply s).executing := by rwa [allowed.executing_eq]
    apply ih rfl ownAfter
    cases moves : deed.movesDialog with
    | false => exact attended.apply allowed moves
    | true =>
      cases deed with
      | openDialog => cases allowed
      | closeDialog => exact attended.closeDialog own allowed
      | choose => cases allowed.1
      | _ => cases moves
  | @drive driver s h script driving depth script' state f' deeds more s' leaf idle found driven
      inner closes rest ihInner ih =>
    have lent : (s.lend h).Attended except := (attended.lend h).mono fun _ both => both.1
    rcases ihInner rfl (.inr (List.mem_cons_self ..)) lent with ⟨within, parked⟩
    have executing : f'.stage.executing = h :: s.executing := inner.executing_eq
    apply ih acts
    · rwa [executing_closing, executing]
    · exact within.closing executing idle parked

/-! ## Moves -/

/-- No handle is the only one. -/
theorem Handle.exists_ne (h : Handle) : ∃ other, h ≠ other := by
  by_cases global : h.owner = .world
  · refine ⟨⟨.scene "", h.key⟩, fun same => ?_⟩
    rw [same] at global
    cases global
  · refine ⟨⟨.world, h.key⟩, fun same => ?_⟩
    rw [same] at global
    exact global rfl

namespace Stage.Attended

/-- What is a course for anyone leaves only the verb of the open dialog waiting.  One who acts may
close its own dialog, but whichever verb waits, another one might have acted. -/
theorem of_courses (attended : s.Attended except)
    (anyone : ∀ driver, ∃ deeds, Course driver s deeds s' none) : s'.Attended except := by
  have actsFor : ∀ g, s'.Attended fun h => except h ∨ h = g := by
    intro g
    obtain ⟨deeds, course⟩ := anyone (some g)
    have wider : s.Attended fun h => except h ∨ h = g := attended.mono fun _ => .inl
    exact (course.attended rfl (.inl (.inr rfl)) wider).1
  constructor
  · intro h waits
    obtain ⟨other, different⟩ := h.exists_ne
    rcases (actsFor other).registered h waits with (excepted | same) | registered
    · exact .inl excepted
    · exact absurd same different
    · exact .inr registered
  · exact fun h => (actsFor h).driven h

variable {depth : Nat}

/-- A verb that is told what it waits for does not go on waiting for it. -/
theorem resumeVerb (idle : s.executing = []) (attended : s.Attended (· = h)) :
    (s.resumeVerb h depth).2.Attended fun _ => False := by
  have settled : ¬ s.Waits h → s.Attended fun _ => False := by
    intro notWaiting
    constructor
    · intro other waits
      rcases attended.registered other waits with rfl | registered
      · exact absurd waits notWaiting
      · exact .inr registered
    · exact attended.driven
  have driven := driven_driveVerb (Action.perform depth) .resume s h
    (.inr (Action.perform_runs depth)) fun _ _ _ => .inr (.inl rfl)
  rw [resumeVerb_eq]
  generalize s.driveVerb (Action.perform depth) .resume h = result at driven
  cases driven with
  | busy text executing =>
    rw [idle] at executing
    cases executing
  | missing _ absent => exact settled (not_waits_of_none absent)
  | @refused script reason _ found refuses =>
    apply settled
    rintro ⟨again, foundAgain, awaits⟩
    obtain rfl := Option.some.inj (found.symm.trans foundAgain)
    rcases Script.resume_of_waitsForChoice (Action.perform depth) ⟨_, awaits⟩
      (.enter h (s.lend h)) with ⟨answer, resumes⟩
    simp only [Driving.drive, resumes] at refuses
    cases refuses
  | @done script script' state f' deeds notExecuting found taken leaves closes =>
    have lent : (s.lend h).Attended fun _ => False :=
      (attended.lend h).mono fun _ both => both.2 both.1
    rcases leaves.1.course.attended rfl (.inr (List.mem_cons_self ..)) lent with ⟨within, parked⟩
    exact within.closing leaves.1.course.executing_eq notExecuting parked

/-- A choice is told to the only verb that waits. -/
theorem chooseOption (idle : s.executing = []) (attended : s.Attended fun _ => False)
    (index : Nat) : (s.chooseOption index depth).2.Attended fun _ => False := by
  cases isOpen : s.world.openDialog with
  | none =>
    simp only [Stage.chooseOption, isOpen]
    exact attended
  | some opened =>
    cases chooses : (s.world.actor? opened.scene opened.actor).bind
        (·.chooseOption? opened.dialog index) with
    | none =>
      simp only [Stage.chooseOption, isOpen, chooses]
      exact attended
    | some choice =>
      obtain ⟨option, actor⟩ := choice
      rw [chooseOption_eq isOpen chooses]
      obtain ⟨_, chose⟩ := chosen_course isOpen chooses
      have calm : (s.chosen opened option actor).executing = [] := chose.executing_eq.trans idle
      have answered : (s.chosen opened option actor).Attended (· = opened.handle) := by
        constructor
        · intro h waits
          have sameVerbs : (s.chosen opened option actor).world.script? = s.world.script? := by
            rw [(world_chosen chooses).2]
            exact Deed.script?_apply rfl s
          rw [waits_congr (congrFun sameVerbs h)] at waits
          rcases attended.registered h waits with noException | ⟨other, isOther, rfl⟩
          · cases noException
          · rw [Option.some.inj (isOpen.symm.trans isOther)]
            exact .inl rfl
        · simp [calm]
      obtain ⟨_, ran⟩ := afterOption_course none (s.chosen opened option actor) opened option depth
      apply resumeVerb (ran.executing_eq.trans calm)
      exact answered.of_courses fun driver => afterOption_course driver _ opened option depth

/-- What an actor notices makes no verb wait but that of the open dialog. -/
theorem noticePlayer (attended : s.Attended except) (scene actor : String) :
    (s.noticePlayer (Action.perform depth) scene actor).Attended except := by
  cases sees : s.sees? scene actor with
  | none =>
    rw [noticePlayer_of_unseen sees]
    exact attended
  | some crossing =>
    rw [noticePlayer_of_sees sees]
    have notes : (Deed.note .info s!"player crossed into/out of '{actor}': {crossing.name}").Allowed
      none ((Deed.notice scene actor).apply s) := trivial
    have crossed : (s.crossed scene actor crossing).Attended except :=
      (attended.apply (allowed_notice sees) rfl).apply notes rfl
    apply crossed.of_courses
    exact fun driver =>
      (runNamed_course (Action.perform_runs depth) driver _ _ _ _).imp fun _ => And.left

/-- Time that passes makes no verb wait but that of the open dialog. -/
theorem update (attended : s.Attended except) (delta : Single) :
    (s.update delta depth).Attended except := by
  have eachTick : ∀ (handles : List Handle) (s : Stage), s.Attended except →
      (handles.foldl (tickVerb (Action.perform depth) delta) s).Attended except := by
    intro handles
    induction handles with
    | nil => exact fun s attended => attended
    | cons h rest ih =>
      intro s attended
      exact ih _ (attended.of_courses fun driver => tickVerb_course driver depth delta s h)
  have eachNotice : ∀ (onlookers : List (String × String)) (s : Stage), s.Attended except →
      (onlookers.foldl (fun s onlooker => s.noticePlayer (Action.perform depth) onlooker.1
        onlooker.2) s).Attended except := by
    intro onlookers
    induction onlookers with
    | nil => exact fun s attended => attended
    | cons onlooker rest ih => exact fun s attended => ih _ (attended.noticePlayer _ _)
  have passes : (Deed.pass delta).Allowed none s := rfl
  rw [update_eq]
  exact eachNotice _ _ (eachTick _ _ (attended.apply passes rfl))

/-- After every move only the verb of the open dialog waits. -/
theorem move (idle : s.executing = []) (attended : s.Attended fun _ => False) (m : Move)
    (depth : Nat) : (s.move m depth).Attended fun _ => False := by
  cases m with
  | update delta => exact attended.update delta
  | chooseOption index => exact attended.chooseOption idle index
  | _ => exact attended.of_courses fun driver => move_course_of_anyone driver s depth rfl

/-- After every run of moves only the verb of the open dialog waits. -/
theorem play (idle : s.executing = []) (attended : s.Attended fun _ => False)
    (moves : List (Move × Nat)) : (s.play moves).Attended fun _ => False := by
  induction moves generalizing s with
  | nil => exact attended
  | cons m rest ih =>
    obtain ⟨_, course⟩ := s.move_course m.1 m.2
    apply ih (course.executing_eq.trans idle)
    exact attended.move idle m.1 m.2

end Stage.Attended

/-! ## Every run of moves -/

/-- On the stage of a world in which no verb has been started none waits. -/
theorem World.Fresh.attended {w : World} (fresh : w.Fresh) (settings : Settings) :
    (Stage.ofWorld w settings).Attended fun _ => False where
  registered h := by
    rintro ⟨script, found, awaits⟩
    rcases fresh.of_script? found with ⟨actions, rfl⟩
    cases awaits
  driven h executing := by cases executing

/-- What can be done for a verb that waits on the open dialog.  If its actor is there it offers an
option, and whichever is chosen, that is told to the verb; otherwise every choice is refused and
changes nothing.  In any case the dialog is closed when the verb is cancelled. -/
structure Stage.Answerable (s : Stage) (opened : OpenDialog) (depth : Nat) : Prop where
  offers : (s.world.actor? opened.scene opened.actor).isSome →
    ((s.world.actor? opened.scene opened.actor).bind
      (·.chooseOption? opened.dialog 0)).isSome
  tells : ∀ index option actor,
    (s.world.actor? opened.scene opened.actor).bind
      (·.chooseOption? opened.dialog index) = some (option, actor) →
    s.chooseOption index depth =
      let resumed := ((s.chosen opened option actor).afterOption opened option depth).resumeVerb
        opened.handle depth
      (resumed.1.mapError .verb, resumed.2)
  refuses : s.world.actor? opened.scene opened.actor = none → ∀ index,
    s.chooseOption index depth = (.error (.noOption opened.dialog (index + 1)), s)
  closes : (s.cancelVerb opened.handle).1 = true ∧
    (s.cancelVerb opened.handle).2.world.openDialog = none

/-- The verb of a dialog that offers something can be answered if it waits. -/
theorem Stage.answerable {opened : OpenDialog} (idle : opened.handle ∉ s.executing)
    (offers : s.world.Offers) (isOpen : s.world.openDialog = some opened)
    (waits : s.Waits opened.handle) (depth : Nat) : s.Answerable opened depth where
  offers present := by
    rcases Option.isSome_iff_exists.mp present with ⟨actor, found⟩
    rw [found]
    exact offers opened isOpen actor found
  tells index option actor chooses := chooseOption_eq isOpen chooses depth
  refuses absent index := by
    simp only [chooseOption, isOpen, absent, Option.bind_none]
  closes := openDialog_cancelVerb idle isOpen waits

/-- Between the moves of a game that began with a built world, each verb that waits for a choice is
the one whose dialog is open, so no two verbs wait, and it can be answered while the actor whose
dialog it is has not been removed. -/
theorem Definition.answerable_play {d : Definition} {w : World} (built : d.build = .ok w)
    (settings : Settings) (moves : List (Move × Nat)) :
    (∀ h, ((Stage.ofWorld w settings).play moves).Waits h →
      ∃ opened, ((Stage.ofWorld w settings).play moves).world.openDialog = some opened ∧
        opened.handle = h ∧
        ∀ depth, ((Stage.ofWorld w settings).play moves).Answerable opened depth) ∧
    ∀ g h, ((Stage.ofWorld w settings).play moves).Waits g →
      ((Stage.ofWorld w settings).play moves).Waits h → g = h := by
  have fresh := Definition.build_fresh built
  have upheld : Upkeep.offering.Upheld (Stage.ofWorld w settings).world := by
    constructor
    · intro opened isOpen
      rw [show (Stage.ofWorld w settings).world.openDialog = none from
        Definition.openDialog_build built] at isOpen
      cases isOpen
    · exact (Upkeep.upheld_nothing w).scripts
  have attended := fresh.attended settings
  have idle : (Stage.ofWorld w settings).executing = [] := rfl
  generalize Stage.ofWorld w settings = s at upheld attended idle ⊢
  obtain ⟨_, course⟩ := s.play_course moves
  have idleAfter : (s.play moves).executing = [] := course.executing_eq.trans idle
  have offersAfter : (s.play moves).world.Offers := (upheld.play moves).world
  have attendedAfter := attended.play idle moves
  generalize s.play moves = reached at idleAfter offersAfter attendedAfter ⊢
  have registered : ∀ h, reached.Waits h → reached.Registered h :=
    fun h waits => (attendedAfter.registered h waits).resolve_left id
  constructor
  · intro h waits
    rcases registered h waits with ⟨opened, isOpen, rfl⟩
    refine ⟨opened, isOpen, rfl, ?_⟩
    exact Stage.answerable (by simp [idleAfter]) offersAfter isOpen waits
  · intro g h waitsG waitsH
    rcases registered g waitsG with ⟨opened, isOpen, rfl⟩
    rcases registered h waitsH with ⟨other, isOther, rfl⟩
    rw [Option.some.inj (isOpen.symm.trans isOther)]

/-- In the hall the verb that rings for the clerk waits in its conversation, and can be answered. -/
theorem World.hall_answerable :
    Definition.hall.build = .ok World.hall ∧
    ∃ opened, ((Stage.ofWorld .hall).play
        [(.runVerb (.scene "hall") "ring" none, 2)]).world.openDialog = some opened ∧
      opened.handle = ⟨.scene "hall", "ring", none, none⟩ ∧
      ((Stage.ofWorld .hall).play
        [(.runVerb (.scene "hall") "ring" none, 2)]).Answerable opened 2 := by
  have waits : ((Stage.ofWorld .hall).play
      [(.runVerb (.scene "hall") "ring" none, 2)]).Waits ⟨.scene "hall", "ring", none, none⟩ := by
    apply Stage.waits_of_leaf?
    decide +kernel
  rcases (Definition.answerable_play World.hall_built .standard
    [(.runVerb (.scene "hall") "ring" none, 2)]).1 _ waits with ⟨opened, isOpen, own, answerable⟩
  exact ⟨World.hall_built, opened, isOpen, own, answerable 2⟩

/-- A game in an office with a clerk, in which a verb of the office opens the clerk's dialog and
another one removes the clerk. -/
def Definition.office : Definition where
  game := ⟨"Office", "office", "1", "office", none⟩
  scenes := [{
    id := "office"
    state := none
    layers := [⟨"main", true, false⟩]
    actors := [{
      id := "clerk"
      desc := ""
      layer := "main"
      pos := ⟨0, 0⟩
      corners := []
      zIndex := 0
      state := none
      visible := true
      interaction := true
      verbs := []
      dialogs := [⟨"offer", [⟨"Agree", none, false⟩]⟩]
      sounds := []
      properties := ∅ }]
    verbs := [⟨⟨"ask", none, none⟩, [.showDialog (some "clerk") "offer"]⟩,
      ⟨⟨"dismiss", none, none⟩, [.removeActor "clerk"]⟩]
    properties := ∅ }]
  verbs := []
  properties := ∅

/-- The world with which the game in the office begins. -/
def World.office : World := Definition.office.build.toOption.getD .empty

/-- When the clerk of the office is dismissed during the conversation, the verb that asks waits on a
dialog in which nobody can choose an option. -/
theorem World.office_unanswerable :
    Definition.office.build = .ok World.office ∧
    ((Stage.ofWorld .office).play [(.runVerb (.scene "office") "ask" none, 1),
      (.runVerb (.scene "office") "dismiss" none, 1)]).Waits
        ⟨.scene "office", "ask", none, none⟩ ∧
    ∀ index depth, ((Stage.ofWorld .office).play [(.runVerb (.scene "office") "ask" none, 1),
      (.runVerb (.scene "office") "dismiss" none, 1)]).chooseOption index depth =
        (.error (.noOption "offer" (index + 1)),
          (Stage.ofWorld .office).play [(.runVerb (.scene "office") "ask" none, 1),
            (.runVerb (.scene "office") "dismiss" none, 1)]) := by
  refine ⟨rfl, Stage.waits_of_leaf? (by decide +kernel), fun index depth => ?_⟩
  have isOpen : ((Stage.ofWorld .office).play [(.runVerb (.scene "office") "ask" none, 1),
      (.runVerb (.scene "office") "dismiss" none, 1)]).world.openDialog =
        some ⟨⟨.scene "office", "ask", none, none⟩, "office", "clerk", "offer"⟩ := by
    decide +kernel
  have gone : ((Stage.ofWorld .office).play [(.runVerb (.scene "office") "ask" none, 1),
      (.runVerb (.scene "office") "dismiss" none, 1)]).world.actor? "office" "clerk" = none := by
    rw [← Option.isNone_iff_eq_none]
    decide +kernel
  generalize (Stage.ofWorld .office).play _ = s at isOpen gone ⊢
  simp only [Stage.chooseOption, isOpen, gone, Option.bind_none]

end Stagecraft
