import Stagecraft.Proofs.Listing
import Stagecraft.Proofs.Reaching
import Stagecraft.Proofs.Resuming

/-!
# What an arrival completes

The player's choice and the end of an animation are told to verbs that waited for them at the
beginning of the move, but on the way to a verb other verbs run.  As long as none of them drives
the verb otherwise than to cancel it, the verb is told on the very action on which it waited, or it
is not parked at all any more and is refused.  A verb that is driven anew on the way may have come
to wait for something else, and that is completed then.
-/

namespace Stagecraft

variable {driver : Option Handle} {s s' t : Stage} {deeds : List Deed} {leaf : Leaf} {h : Handle}
  {kind : Script Action → Prop}

/-! ## Verbs that are not driven anew -/

/-- Whether a verb is of a kind, if it is in its table. -/
def Stage.Only (s : Stage) (h : Handle) (kind : Script Action → Prop) : Prop :=
  ∀ script, s.world.script? h = some script → kind script

/-- Whether a verb is driven in the course of some deeds only to be cancelled. -/
def Deed.Leaves (deeds : List Deed) (h : Handle) : Prop :=
  ∀ driving, .take h driving ∈ deeds → driving = .cancel

namespace Stage.Only

theorem congr (same : s'.world.script? h = s.world.script? h) (only : s.Only h kind) :
    s'.Only h kind := by
  intro script found
  rw [same] at found
  exact only script found

/-- A single deed brings no verbs but those that have not been started. -/
theorem apply {deed : Deed} (fresh : ∀ written : Script Action, kind written.reset)
    (allowed : deed.Allowed driver s) (only : s.Only h kind) : (deed.apply s).Only h kind := by
  intro script found
  rcases allowed.script?_apply found with before | ⟨_, written, rfl⟩
  · exact only script before
  · exact fresh written

/-- Nothing is said of a verb that is lent. -/
theorem lend_self (s : Stage) (h : Handle) : (s.lend h).Only h kind := by
  intro script found
  rw [Stage.script?_lend, if_pos rfl] at found
  cases found

theorem lend (only : s.Only h kind) (g : Handle) : (s.lend g).Only h kind := by
  by_cases same : h = g
  · subst same
    exact lend_self s h
  · exact only.congr (by rw [Stage.script?_lend, if_neg same])

/-- A verb may come back, if it is another one or of the kind. -/
theorem closing {g : Handle} {script : Script Action} (only : s.Only h kind)
    (isKind : h = g → kind script) : ((s.closing g script).apply s).Only h kind := by
  intro again found
  by_cases same : h = g
  · subst same
    rw [Stage.script?_closing, if_pos rfl] at found
    obtain ⟨verbs, present, comesBack⟩ := Option.bind_eq_some_iff.mp found
    rcases Option.or_eq_some_iff.mp comesBack with defined | ⟨_, isBack⟩
    · exact only again ((World.script?_eq_some_iff _ h again).mpr ⟨verbs, present, defined⟩)
    · cases isBack
      exact isKind rfl
  · rw [Stage.script?_closing, if_neg same] at found
    exact only again found

end Stage.Only

/-- A verb stays of a kind in a course if verbs that have not been started are of that kind, and if
each way in which the verb is driven keeps it so. -/
theorem Stage.Course.only (course : Course driver s deeds s' leaf) (ways : Driving → Prop)
    (fresh : ∀ written : Script Action, kind written.reset)
    (keeps : ∀ {driving depth script script' state f f'}, ways driving → kind script →
      driving.drive (Action.perform depth) script f = .ok (script', state, f') → kind script')
    (takes : ∀ driving, .take h driving ∈ deeds → ways driving) (only : s.Only h kind) :
    s'.Only h kind := by
  induction course with
  | ended => exact only
  | parked => exact only
  | shown => exact only
  | deed allowed _ ih =>
    exact ih (fun driving member => takes driving (List.mem_cons_of_mem _ member))
      (only.apply fresh allowed)
  | @drive driver s g script driving depth script' state f' inner more s' leaf idle found driven
      course closes rest ihInner ih =>
    have takesInner : ∀ driving, .take h driving ∈ inner → ways driving := fun driving member =>
      takes driving (List.mem_cons_of_mem _ (List.mem_append_left _ member))
    have takesRest : ∀ driving, .take h driving ∈ more → ways driving := fun driving member =>
      takes driving (List.mem_cons_of_mem _ (List.mem_append_right _ (List.mem_cons_of_mem _ member)))
    refine ih takesRest ((ihInner takesInner (only.lend g)).closing ?_)
    rintro rfl
    exact keeps (takes driving (List.mem_cons_self ..)) (only script found) driven

/-- A verb that is cancelled is not suspended. -/
theorem Driving.not_suspended_of_cancel {perform : Performer} {script script' : Script Action}
    {f f' : Frame} {state : RunState}
    (driven : Driving.cancel.drive perform script f = .ok (script', state, f')) :
    script'.suspended = false := by
  cases driven
  exact (Script.cancel_reports rfl).2

/-- A verb that is driven on the way only to be cancelled is parked only as it was. -/
theorem Stage.Course.parkedOnly (course : Course driver s deeds s' leaf)
    (leaves : Deed.Leaves deeds h)
    (only : s.Only h fun script => (script.leaf? h.owner).isSome → kind script) :
    s'.Only h fun script => (script.leaf? h.owner).isSome → kind script := by
  refine course.only (· = .cancel) ?_ ?_ leaves only
  · intro written parked
    rw [written.leaf?_reset] at parked
    cases parked
  · rintro driving depth script script' state f f' rfl _ driven parked
    rw [Script.leaf?_of_not_suspended (Driving.not_suspended_of_cancel driven)] at parked
    cases parked

/-! ## Telling a verb -/

/-- What telling a verb comes to that waited on an earlier stage: the verb is as it was, so that
what is completed is the action on which it waited, or it is parked on nothing, and then nothing is
done. -/
inductive Stage.Completes (s t : Stage) (h : Handle) : Except VerbError RunState × Stage → Prop
  | completed {leaf state t'} (same : t.world.script? h = s.world.script? h)
      (waited : s.world.leaf? h = some leaf) (parked : t.world.leaf? h = some leaf) :
      Completes s t h (.ok state, t')
  | refused {reason} (still : t.world.leaf? h = none) : Completes s t h (.error reason, t)

/-- What matters of the earlier stage is the verb. -/
theorem Stage.Completes.congr {answer : Except VerbError RunState × Stage}
    (same : s'.world.script? h = s.world.script? h) (completes : s.Completes t h answer) :
    s'.Completes t h answer := by
  cases completes with
  | completed sameScript waited parked =>
    have sameLeaf : s'.world.leaf? h = s.world.leaf? h := by
      unfold World.leaf?
      rw [same]
    exact .completed (sameScript.trans same.symm) (sameLeaf.trans waited) parked
  | refused still => exact .refused still

/-- Exactly a verb that is parked down to an innermost action accepts that it is told. -/
theorem Stage.accepts_iff {t : Stage} (idle : h ∉ t.executing) (depth : Nat) :
    (∃ state, (t.resumeVerb h depth).1 = .ok state) ↔ (t.world.leaf? h).isSome := by
  unfold World.leaf?
  cases found : t.world.script? h with
  | none => simp [Stage.resumeVerb_of_missing idle found]
  | some script =>
    cases parked : script.leaf? h.owner with
    | none =>
      obtain ⟨ip, refuses⟩ := Stage.resumeVerb_of_leaf?_eq_none idle found parked depth
      simp [refuses, parked]
    | some leaf =>
      have resumes := Stage.resumeVerb_of_leaf? idle found (by simp [parked]) depth
      simp [resumes, parked]

/-- A verb that is parked on nothing is refused, and nothing is done. -/
theorem Stage.refuses_of_still {t : Stage} (idle : h ∉ t.executing)
    (still : t.world.leaf? h = none) (depth : Nat) :
    ∃ reason, t.resumeVerb h depth = (.error reason, t) := by
  unfold World.leaf? at still
  cases found : t.world.script? h with
  | none => exact ⟨_, Stage.resumeVerb_of_missing idle found depth⟩
  | some script =>
    rw [found] at still
    obtain ⟨ip, refuses⟩ := Stage.resumeVerb_of_leaf?_eq_none idle found still depth
    exact ⟨_, refuses⟩

/-- A verb that has not been driven anew is told on the action on which it waited, or refused. -/
theorem Stage.Course.completes (course : Course none s deeds t none) (idle : s.executing = [])
    (leaves : Deed.Leaves deeds h) (depth : Nat) : s.Completes t h (t.resumeVerb h depth) := by
  have notDriven : h ∉ t.executing := by simp [course.executing_eq, idle]
  have only : t.Only h fun script =>
      (script.leaf? h.owner).isSome → s.world.script? h = some script :=
    course.parkedOnly leaves fun script found _ => found
  cases parked : t.world.leaf? h with
  | none =>
    obtain ⟨reason, refuses⟩ := Stage.refuses_of_still notDriven parked depth
    rw [refuses]
    exact .refused parked
  | some leaf =>
    obtain ⟨script, found, isLeaf⟩ := Option.bind_eq_some_iff.mp parked
    have same := only script found (by simp [isLeaf])
    obtain ⟨state, resumes⟩ := (Stage.accepts_iff notDriven depth).mpr (by simp [parked])
    rcases answer : t.resumeVerb h depth with ⟨_, t'⟩
    rw [answer] at resumes
    cases resumes
    exact .completed (found.trans same.symm) (Option.bind_eq_some_iff.mpr ⟨script, same, isLeaf⟩)
      parked

/-! ## A small game -/

/-- A game at a gate whose keeper asks for the toll, or bows. -/
def Definition.tollgate : Definition where
  game := ⟨"Tollgate", "tollgate", "1", "gate", none⟩
  scenes := [{
    id := "gate"
    state := none
    layers := [⟨"main", true, false⟩]
    actors := [{
      id := "keeper"
      desc := ""
      layer := "main"
      pos := ⟨0, 0⟩
      corners := []
      zIndex := 0
      state := none
      visible := true
      interaction := true
      verbs := [
        ⟨⟨"ask", none, none⟩, [.showDialog none "toll", .setState .owner (some "paid")]⟩,
        ⟨⟨"greet", none, none⟩, [.playAnimation none "bow" 0 true]⟩]
      dialogs := [⟨"toll", [⟨"Pay", none, false⟩]⟩]
      sounds := []
      properties := ∅ }]
    verbs := []
    properties := ∅ }]
  verbs := []
  properties := ∅

/-- The world with which the game at the gate begins. -/
def World.tollgate : World := Definition.tollgate.build.toOption.getD .empty

theorem World.tollgate_built : Definition.tollgate.build = .ok World.tollgate := rfl

/-! ## Choices -/

/-- A choice tells the verb of the open dialog after the verb of the option has run, and it is
accepted exactly if that verb is parked then.  Unless the verb has been driven anew in between, what
is completed is the action on which it waited when the choice was made, or it is not parked any
more, and the choice is refused. -/
theorem Stage.Opening.completes_choice (opening : s.Opening) (moves : List (Move × Nat))
    {opened : OpenDialog} {index : Nat} {option : DialogOption} {actor : Actor}
    (isOpen : (s.play moves).world.openDialog = some opened)
    (chooses : ((s.play moves).world.actor? opened.scene opened.actor).bind
      (·.chooseOption? opened.dialog index) = some (option, actor)) (depth : Nat) :
    let begun := (s.play moves).chosen opened option actor
    let told := begun.afterOption opened option depth
    let answer := told.resumeVerb opened.handle depth
    (s.play moves).chooseOption index depth = (answer.1.mapError .verb, answer.2) ∧
    ((∃ state, answer.1 = .ok state) ↔ (told.world.leaf? opened.handle).isSome) ∧
    (∃ deeds, Stage.Course none begun deeds told none) ∧
    ∀ deeds, Stage.Course none begun deeds told none → Deed.Leaves deeds opened.handle →
      (s.play moves).Completes told opened.handle answer := by
  intro begun told answer
  obtain ⟨_, played⟩ := s.play_course moves
  obtain ⟨_, chose⟩ := Stage.chosen_course isOpen chooses
  have idle : begun.executing = [] :=
    chose.executing_eq.trans (played.executing_eq.trans opening.soundBut.1)
  have sameVerbs : begun.world.script? = (s.play moves).world.script? := by
    rw [(Stage.world_chosen chooses).2]
    exact Deed.script?_apply rfl _
  obtain ⟨made, ran⟩ := Stage.afterOption_course none begun opened option depth
  refine ⟨Stage.chooseOption_eq isOpen chooses depth, ?_, ⟨made, ran⟩, ?_⟩
  · exact Stage.accepts_iff (by simp [told, ran.executing_eq, idle]) depth
  · intro deeds course leaves
    exact (course.completes idle leaves depth).congr (congrFun sameVerbs opened.handle).symm

/-- Who pays the toll is told on the very dialog in which it was asked for. -/
theorem World.tollgate_choice :
    let asked := (Stage.ofWorld .tollgate).play [(.interact "keeper" "ask" none, 2)]
    Definition.tollgate.build = .ok .tollgate ∧ ∃ opened option actor,
      asked.world.openDialog = some opened ∧
      (asked.world.actor? opened.scene opened.actor).bind (·.chooseOption? opened.dialog 0) =
        some (option, actor) ∧
      asked.Completes ((asked.chosen opened option actor).afterOption opened option 2) opened.handle
        (((asked.chosen opened option actor).afterOption opened option 2).resumeVerb opened.handle
          2) := by
  intro asked
  have isOpen : asked.world.openDialog = some ⟨⟨.actor "gate" "keeper", "ask", none, none⟩, "gate",
    "keeper", "toll"⟩ := rfl
  have chooses : (asked.world.actor? "gate" "keeper").bind (·.chooseOption? "toll" 0) =
    some (⟨"Pay", none, false, true⟩, _) := rfl
  have opening := Stage.Opening.built .standard World.tollgate_built
  obtain ⟨_, _, _, completes⟩ :=
    opening.completes_choice [(.interact "keeper" "ask" none, 2)] isOpen chooses 2
  exact ⟨World.tollgate_built, _, _, _, isOpen, chooses, completes [] .ended nofun⟩

/-! ## Animations -/

namespace Stage

/-- The verbs that are told one after the other that an animation of an actor is over, each with the
stage on which it is told. -/
def tellings (actor : String) (depth : Nat) : List Handle → Stage → List (Stage × Handle)
  | [], _ => []
  | h :: rest, s => (s, h) :: tellings actor depth rest (s.tellFinished actor depth h)

/-- Whether a verb goes on when it is told on a stage that what it waits for has arrived. -/
def accepts (depth : Nat) (told : Stage × Handle) : Bool :=
  (told.1.resumeVerb told.2 depth).1.toBool

/-- The end of an animation is told to the verbs that wait for it at the beginning, and those that
go on are counted. -/
theorem animationFinished_fst (s : Stage) (actor : String) (depth : Nat) :
    (s.animationFinished actor depth).1 =
      (tellings actor depth (s.animationWaiters actor) s).countP (accepts depth) := by
  unfold animationFinished
  rw [← Nat.zero_add (List.countP _ _)]
  generalize s.animationWaiters actor = waiters
  generalize (0 : Nat) = count
  induction waiters generalizing s count with
  | nil => rfl
  | cons h rest ih =>
    rcases answer : s.resumeVerb h depth with ⟨reason | state, after⟩
    · simp [answer, ih, tellings, tellFinished, accepts, Except.toBool]
    · simp [answer, ih, tellings, tellFinished, accepts, Except.toBool]
      omega

theorem map_snd_tellings (actor : String) (depth : Nat) (waiters : List Handle) (s : Stage) :
    (tellings actor depth waiters s).map (·.2) = waiters := by
  induction waiters generalizing s with
  | nil => rfl
  | cons h rest ih => rw [tellings, List.map_cons, ih]

/-- Telling a verb is a course. -/
theorem tellFinished_course (s : Stage) (actor : String) (depth : Nat) (h : Handle) :
    ∃ deeds, Course none s deeds (s.tellFinished actor depth h) none := by
  obtain ⟨deeds, resumed⟩ := resumeVerb_course none depth s h
  unfold tellFinished
  rcases answer : s.resumeVerb h depth with ⟨reason | state, after⟩
  · rw [answer] at resumed
    have noted : Course none after
        [.note .error s!"animation finished on '{actor}': {reason.message}"]
        (after.error s!"animation finished on '{actor}': {reason.message}") none :=
      .ofDeeds ⟨trivial, trivial⟩
    exact ⟨_, resumed.append noted⟩
  · rw [answer] at resumed
    exact ⟨deeds, resumed⟩

/-- What happens before a verb is told is a course. -/
theorem course_of_mem_tellings {actor : String} {depth : Nat} {waiters : List Handle}
    (member : (t, h) ∈ tellings actor depth waiters s) : ∃ deeds, Course none s deeds t none := by
  induction waiters generalizing s with
  | nil => cases member
  | cons first rest ih =>
    rcases List.mem_cons.mp member with same | later
    · cases same
      exact ⟨[], .ended⟩
    · obtain ⟨deeds, told⟩ := s.tellFinished_course actor depth first
      obtain ⟨more, others⟩ := ih later
      exact ⟨deeds ++ more, told.append others⟩

end Stage

/-- The end of an animation is told once to each verb that waits for it at the beginning, and told
is how many of them go on.  A verb goes on exactly if it is parked when it is told.  Unless it has
been driven anew while the others before it were told, what is completed then is its wait for that
animation, or it is not parked any more, and it is refused and nothing is done. -/
theorem Stage.Opening.completes_animation (opening : s.Opening) (moves : List (Move × Nat))
    (actor : String) (depth : Nat) :
    let begun := s.play moves
    let tellings := Stage.tellings actor depth (begun.animationWaiters actor) begun
    (begun.animationFinished actor depth).1 = tellings.countP (Stage.accepts depth) ∧
    (tellings.map (·.2)).Nodup ∧
    ∀ told h, (told, h) ∈ tellings →
      (∃ leaf, begun.world.leaf? h = some leaf ∧ Stage.awaitsAnimation actor leaf = true) ∧
      ((∃ state, (told.resumeVerb h depth).1 = .ok state) ↔ (told.world.leaf? h).isSome) ∧
      (∃ deeds, Stage.Course none begun deeds told none) ∧
      ∀ deeds, Stage.Course none begun deeds told none → Deed.Leaves deeds h →
        begun.Completes told h (told.resumeVerb h depth) := by
  intro begun tellings
  obtain ⟨_, played⟩ := s.play_course moves
  have idle : begun.executing = [] := played.executing_eq.trans opening.soundBut.1
  refine ⟨begun.animationFinished_fst actor depth, ?_, ?_⟩
  · rw [Stage.map_snd_tellings]
    exact List.Pairwise.filter _ (opening.filed_play moves).nodup_parkedHandles
  · intro told h member
    obtain ⟨made, ran⟩ := Stage.course_of_mem_tellings member
    refine ⟨?_, ?_, ⟨made, ran⟩, fun deeds course leaves => course.completes idle leaves depth⟩
    · have waits : h ∈ begun.animationWaiters actor := by
        rw [← Stage.map_snd_tellings actor depth (begun.animationWaiters actor) begun]
        exact List.mem_map_of_mem member
      have awaits := (List.mem_filter.mp waits).2
      cases isLeaf : begun.world.leaf? h with
      | none =>
        rw [isLeaf] at awaits
        cases awaits
      | some leaf =>
        rw [isLeaf] at awaits
        exact ⟨leaf, rfl, awaits⟩
    · exact Stage.accepts_iff (by simp [ran.executing_eq, idle]) depth

/-- The keeper who bows is told when the bow is over. -/
theorem World.tollgate_animation :
    let bowing := (Stage.ofWorld .tollgate).play [(.interact "keeper" "greet" none, 2)]
    let greet : Handle := ⟨.actor "gate" "keeper", "greet", none, none⟩
    Definition.tollgate.build = .ok .tollgate ∧
      (bowing.animationFinished "keeper" 2).1 = 1 ∧
      bowing.Completes bowing greet (bowing.resumeVerb greet 2) := by
  intro bowing greet
  have opening := Stage.Opening.built .standard World.tollgate_built
  obtain ⟨counted, _, each⟩ :=
    opening.completes_animation [(.interact "keeper" "greet" none, 2)] "keeper" 2
  have waiters : bowing.animationWaiters "keeper" = [greet] := by decide +kernel
  have goesOn : (Stage.tellings "keeper" 2 [greet] bowing).countP (Stage.accepts 2) = 1 := by
    decide +kernel
  have told : (bowing, greet) ∈
      Stage.tellings "keeper" 2 (bowing.animationWaiters "keeper") bowing := by
    rw [waiters]
    exact List.mem_cons_self ..
  obtain ⟨_, _, _, completes⟩ := each bowing greet told
  refine ⟨World.tollgate_built, counted.trans ?_, completes [] .ended nofun⟩
  have sameWaiters := congrArg
    (fun waiters => (Stage.tellings "keeper" 2 waiters bowing).countP (Stage.accepts 2)) waiters
  exact sameWaiters.trans goesOn

end Stagecraft
