import Stagecraft.Proofs.Arrivals
import Stagecraft.Proofs.Ending

/-!
# Verbs that nothing wakes

A verb that has not been started, or that is at its end, does nothing until it is run: it is refused
when it is resumed, time passes it by, and it is not taken up when a stored world is.  It stays so
whatever the other verbs do, as long as none of them runs it.
-/

namespace Stagecraft

variable {perform : Performer} {driving : Driving} {script script' : Script Action} {f f' g : Frame}
  {state : RunState} {h : Handle}

/-! ## Dormant scripts -/

/-- Whether a script has no action at its cursor and is not suspended. -/
def Script.Dormant (s : Script Action) : Prop := s.isRunning = false ∧ s.suspended = false

namespace Script

/-- A script at its end is dormant. -/
theorem IsIn.dormant {s : Script Action} (atEnd : s.IsIn .finished) : s.Dormant :=
  ⟨by simp [isRunning, atEnd.1], atEnd.2⟩

/-- A script that has not been started is dormant. -/
theorem dormant_reset (s : Script Action) : s.reset.Dormant := by
  rw [reset_eq]
  exact ⟨rfl, rfl⟩

theorem Dormant.not_isBetween {s : Script Action} (dormant : s.Dormant) : ¬ s.IsBetween := by
  rintro ⟨running, _⟩
  rw [dormant.1] at running
  cases running

theorem Dormant.still {s : Script Action} (dormant : s.Dormant) : s.Still := by
  rcases s.parked_or_still with ⟨actions, ip, action, rfl, _⟩ | still
  · cases dormant.2
  · exact still

/-- A script that goes on is parked. -/
theorem Dormant.not_goesOn {s : Script Action} (dormant : s.Dormant) {ip : Nat}
    {actions : List Action} : ¬ s.GoesOn perform driving f ip actions g := by
  intro goesOn
  cases goesOn <;> cases dormant.2

end Script

/-- What has settled is dormant if it was. -/
theorem Frame.dormant_settle (dormant : script.Dormant)
    (settled : f.settle script state = (script', state', f')) : script'.Dormant := by
  unfold Frame.settle at settled
  split at settled
  · rcases cancelled : { f with cancelRequested := false }.cancelVerb script with ⟨s₁, f₁⟩
    have atEnd : s₁.IsIn .finished := Script.cancel_reports cancelled
    rw [cancelled] at settled
    cases settled
    exact atEnd.dormant
  · cases state <;> (cases settled; exact dormant)

/-- A dormant script stays so unless it is run. -/
theorem Driving.dormant_drive (notRun : driving ≠ .run) (dormant : script.Dormant)
    (driven : driving.drive perform script f = .ok (script', state, f')) : script'.Dormant := by
  cases driving with
  | run => exact absurd rfl notRun
  | resume =>
    simp only [Driving.drive, dormant.still.resume] at driven
    cases driven
  | tick delta =>
    simp only [Driving.drive, dormant.still.tick, Except.ok.injEq] at driven
    exact Frame.dormant_settle dormant driven
  | reenter =>
    simp only [Driving.drive, Script.reenter_of_not_isBetween perform f dormant.not_isBetween,
      Except.ok.injEq] at driven
    exact Frame.dormant_settle dormant driven
  | cancel =>
    simp only [Driving.drive, Except.ok.injEq] at driven
    rcases cancelled : f.cancelVerb script with ⟨s₁, f₁⟩
    have atEnd : s₁.IsIn .finished := Script.cancel_reports cancelled
    rw [cancelled] at driven
    cases driven
    exact atEnd.dormant

/-- A dormant verb stays dormant in every course in which it is not run. -/
theorem Stage.Course.dormant {driver : Option Handle} {s s' : Stage} {deeds : List Deed}
    {leaf : Leaf} (course : Course driver s deeds s' leaf) (notRun : .take h .run ∉ deeds)
    (dormant : s.Only h Script.Dormant) : s'.Only h Script.Dormant := by
  refine course.only (· ≠ .run) Script.dormant_reset ?_ ?_ dormant
  · intro _ _ _ _ _ _ _ notRun dormant driven
    exact Driving.dormant_drive notRun dormant driven
  · rintro _ member rfl
    exact notRun member

/-! ## Whose actions are performed -/

theorem Frame.handle_past (f : Frame) (ip : Nat) (action : Action) (outcome : Outcome) :
    (f.past ip action outcome).handle = f.handle := by
  cases outcome <;> rfl

theorem Script.handle_release (s : Script Action) (f : Frame) :
    (s.release f).handle = f.handle := by
  obtain ⟨_, released, _⟩ := s.release_givesUp f
  exact released.handle_eq

/-- A sweep comes to actions of the verb whose actions it sweeps. -/
theorem Action.Comes.handle_eq {ip k : Nat} {actions : List Action} {action : Action}
    (runs : perform.Runs) (comes : Action.Comes perform ip actions f k action g) :
    g.handle = f.handle := by
  induction comes with
  | here => rfl
  | @past ip action rest f done outcome f' _ _ _ calm performed _ _ ih =>
    obtain ⟨_, performs⟩ := runs action f done outcome f' calm performed
    exact ih.trans ((f'.handle_past ip done outcome).trans performs.handle_eq)

/-- An action that is over leaves the frame to the same verb. -/
theorem Action.handle_passes? {ip : Nat} {action action' : Action} (runs : perform.Runs)
    (steady : f.cancelRequested = false)
    (passes : action.passes? perform ip f driving = some (action', f')) :
    f'.handle = f.handle := by
  cases driving with
  | resume =>
    simp only [Action.passes?] at passes
    split at passes
    · next resumed =>
      cases passes
      obtain ⟨_, attends⟩ := Action.resumeRuns runs action f _ _ _ steady resumed
      exact attends.handle_eq
    · cases passes
  | tick delta =>
    have notWaiting : ¬ action.WaitsForChoice := by
      intro waits
      simp only [Action.passes?, Action.tick_of_waitsForChoice perform delta action f waits] at passes
      cases passes
    have attends := fun action' done f' =>
      Action.tickRuns runs delta action f action' done f' notWaiting steady
    simp only [Action.passes?] at passes
    split at passes
    · next ticked =>
      cases passes
      obtain ⟨_, attended⟩ := attends _ _ _ ticked
      exact attended.handle_eq
    · next ticked =>
      cases passes
      obtain ⟨_, attended⟩ := attends _ _ _ ticked
      exact attended.handle_eq
    · cases passes
  | run | reenter | cancel => cases passes

theorem Script.GoesOn.handle_eq {s : Script Action} {ip : Nat} {actions : List Action}
    (runs : perform.Runs) (goesOn : s.GoesOn perform driving f ip actions g)
    (steady : f.cancelRequested = false) : g.handle = f.handle := by
  induction goesOn with
  | inside _ _ _ ih => exact ih steady
  | past _ passes => exact Action.handle_passes? runs steady passes

/-- What is swept when a verb is driven are actions of that verb. -/
theorem Driving.handle_of_sweeps {s : Script Action} {ip : Nat} {actions : List Action}
    (runs : perform.Runs) (sweeps : driving.Sweeps perform s f ip actions g)
    (steady : f.cancelRequested = false) : g.handle = f.handle := by
  cases driving with
  | run =>
    obtain ⟨_, _, rfl⟩ := sweeps
    exact s.handle_release _
  | reenter =>
    obtain ⟨_, _, _, rfl⟩ := sweeps
    rfl
  | resume => exact Script.GoesOn.handle_eq runs sweeps steady
  | tick delta => exact Script.GoesOn.handle_eq runs sweeps steady
  | cancel => cases sweeps

/-- Whether an action is performed in a frame as part of a run of a verb, which begins on a stage. -/
def Action.PartOfRun (h : Handle) (script : Script Action) (s : Stage) (action : Action)
    (g : Frame) : Prop :=
  ∃ depth k next g', Action.Comes (Action.perform depth) 0 script.reset.actions
    (script.release (.begin h s)) k next g' ∧ next.Reaches depth g' action g

/-- What performing an action comes to is done by the same verb, or by the verb `init` of a scene that
has become the current one. -/
theorem Action.Reaches.handle {depth : Nat} {action reached : Action}
    (reaches : action.Reaches depth f reached g) :
    g.handle = f.handle ∨ ∃ scene r script s, action.Reaches depth f (.changeScene scene) r ∧
      Action.Starts (.changeScene scene) r script (.begin g.handle s) ∧
        reached.PartOfRun g.handle script s g := by
  induction reaches with
  | itself => exact .inl rfl
  | @inside depth action f script f₁ k next f₂ reached g starts comes reaches ih =>
    rcases ih with same | ⟨scene, r, script, s, comesTo, begins, part⟩
    · have started : g.handle = f₁.handle :=
        same.trans ((comes.handle_eq (Action.perform_runs depth)).trans (script.handle_release f₁))
      cases starts with
      | conditional => exact .inl started
      | runVerb found =>
        obtain ⟨text, rfl⟩ := Frame.inlineVerb_eq_ok found
        exact .inl started
      | @changeScene scene f s h script present arrives finds idle found =>
        obtain rfl : g.handle = h := started
        exact .inr ⟨scene, f, script, s, .itself, .changeScene present arrives finds idle found,
          depth, k, next, f₂, comes, reaches⟩
    · exact .inr ⟨scene, r, script, s, .inside starts comes comesTo, begins, part⟩

/-- What is attempted when a verb is driven is attempted by that verb, or it is part of a run of the
verb `init` of a scene that has become the current one. -/
theorem Driving.Attempts.handle {depth : Nat} {attempt : Attempt}
    (attempts : driving.Attempts depth script f attempt g) (steady : f.cancelRequested = false) :
    g.handle = f.handle ∨ ∃ scene r begun s,
      driving.Attempts depth script f (.perform (.changeScene scene)) r ∧
        Action.Starts (.changeScene scene) r begun (.begin g.handle s) ∧
          attempt.action.PartOfRun g.handle begun s g := by
  cases attempts with
  | perform sweeps comes reaches =>
    have runs := Action.perform_runs depth
    rcases reaches.handle with same | ⟨scene, r, begun, s, comesTo, begins, part⟩
    · exact .inl (same.trans ((comes.handle_eq runs).trans (Driving.handle_of_sweeps runs sweeps
        steady)))
    · exact .inr ⟨scene, r, begun, s, .perform sweeps comes comesTo, begins, part⟩
  | tick => exact .inl rfl

/-- Nothing is attempted by a dormant verb that is not run. -/
theorem Driving.Attempts.not_dormant {depth : Nat} {attempt : Attempt}
    (attempts : driving.Attempts depth script f attempt g) (notRun : driving ≠ .run) :
    ¬ script.Dormant := by
  intro dormant
  cases attempts with
  | perform sweeps _ _ =>
    cases driving with
    | run => exact notRun rfl
    | reenter => exact dormant.not_isBetween sweeps.1
    | resume => exact dormant.not_goesOn sweeps
    | tick delta => exact dormant.not_goesOn sweeps
    | cancel => cases sweeps
  | tick leaf =>
    rw [dormant.still.leaf] at leaf
    cases leaf

/-! ## On the way to a verb -/

namespace Stage

variable {s t : Stage} {m : Move} {depth : Nat}

theorem arrive_course (driver : Option Handle) {id : String}
    (present : s.world.scenes.contains id = true) :
    ∃ deeds, Course driver s deeds (s.arrive id) none :=
  ⟨[.goTo id, .note .info _, .emit (.sceneChanged id)],
    .ofDeeds ⟨present, trivial, trivial, trivial⟩⟩

/-- What a move does before it drives a verb is a course. -/
theorem Drives.course (drives : s.Drives depth m driving h t) :
    ∃ deeds, Course none s deeds t none := by
  have passed : ∀ delta, Course none s [.pass delta] ((Deed.pass delta).apply s) none :=
    fun delta => .ofDeeds ⟨rfl, trivial⟩
  cases drives with
  | begin current present finds => exact arrive_course none present
  | enterScene present finds => exact arrive_course none present
  | @tick delta before h after parked =>
    obtain ⟨_, ticks⟩ := foldl_course (tickVerb_course none depth delta) before
      ((Deed.pass delta).apply s)
    exact ⟨_, (passed delta).append ticks⟩
  | @notice delta before scene actor after t crossing noticed h looks reached current notices
      finds =>
    obtain ⟨_, ticks⟩ := foldl_course (tickVerb_course none depth delta)
      ((Deed.pass delta).apply s).world.parkedHandles ((Deed.pass delta).apply s)
    obtain ⟨_, sweeps⟩ := foldl_course
      (fun s (onlooker : String × String) =>
        (noticePlayer_course depth onlooker.1 s onlooker.2).imp fun _ => And.left) before
      (s.ticked (Action.perform depth) delta)
    rw [reached] at sweeps
    have crosses : Course none t [.notice scene actor, .note .info _]
        (t.crossed scene actor crossing) none :=
      .ofDeeds ⟨⟨rfl, current, by simp [notices]⟩, trivial, trivial⟩
    exact ⟨_, (((passed delta).append ticks).append sweeps).append crosses⟩
  | runVerb finds => exact ⟨[], .ended⟩
  | interact current present answers finds =>
    exact ⟨[.note .info _], .ofDeeds ⟨trivial, trivial⟩⟩
  | resumeVerb => exact ⟨[], .ended⟩
  | cancelVerb => exact ⟨[], .ended⟩
  | @animationFinished actor before h after waits =>
    exact foldl_course (fun s h => s.tellFinished_course actor depth h) before s
  | option isOpen chooses named finds =>
    obtain ⟨_, chose⟩ := chosen_course isOpen chooses
    exact ⟨_, chose⟩
  | @answer index opened option actor isOpen chooses =>
    obtain ⟨_, chose⟩ := chosen_course isOpen chooses
    obtain ⟨_, ran⟩ := afterOption_course none (s.chosen opened option actor) opened option depth
    exact ⟨_, chose.append ran⟩

end Stage

/-! ## Verbs that have been cancelled -/

namespace Stage

variable {s t : Stage}

/-- A dormant verb is refused when it is resumed. -/
theorem refuses_of_dormant (idle : h ∉ t.executing) (dormant : t.Only h Script.Dormant)
    (depth : Nat) : ∃ reason, t.resumeVerb h depth = (.error reason, t) := by
  refine refuses_of_still idle ?_ depth
  unfold World.leaf?
  cases found : t.world.script? h with
  | none => rfl
  | some script => exact (dormant script found).still.leaf h.owner

/-- A verb that has been cancelled is dormant. -/
theorem dormant_cancelVerb (idle : h ∉ s.executing) :
    (s.cancelVerb h).2.Only h Script.Dormant := by
  intro script' foundAfter
  cases found : s.world.script? h with
  | none =>
    rw [cancelVerb_of_missing idle found, found] at foundAfter
    cases foundAfter
  | some script =>
    obtain ⟨ended, foundEnded, atEnd, _⟩ := cancelVerb_like idle found
    rw [foundEnded] at foundAfter
    cases foundAfter
    exact atEnd.dormant

/-- To cancel a verb again changes nothing. -/
theorem cancelVerb_again (idle : h ∉ s.executing) :
    ((s.cancelVerb h).2.cancelVerb h).1 = (s.cancelVerb h).1 ∧
      (s.cancelVerb h).2.Like ((s.cancelVerb h).2.cancelVerb h).2 := by
  cases found : s.world.script? h with
  | none =>
    rw [cancelVerb_of_missing idle found]
    simp only [cancelVerb_of_missing idle found]
    exact ⟨trivial, s.journal, rfl⟩
  | some script =>
    obtain ⟨_, _, _, _, _, cancels⟩ := cancelVerb_of_found idle found
    obtain ⟨ended, foundEnded, atEnd, _⟩ := cancelVerb_like idle found
    obtain ⟨_, cancelled, _⟩ := cancelVerb_course none s h
    have stillIdle : h ∉ (s.cancelVerb h).2.executing := by rwa [cancelled.executing_eq]
    rw [cancelVerb_of_finished stillIdle foundEnded atEnd, cancels]
    exact ⟨rfl, _, rfl⟩

/-- What is attempted by a verb that was dormant is part of a run of it: the one in which it is
attempted, or one before. -/
theorem attempts_of_dormant {u : Stage} {moves : List (Move × Nat)} {m : Move} {depth : Nat}
    {k : Handle} {attempt : Attempt} (dormant : t.Only h Script.Dormant)
    (drives : (t.play moves).Drives depth m driving k u) (found : u.world.script? k = some script)
    (attempts : driving.Attempts depth script (.enter k (u.lend k)) attempt g)
    (own : g.handle = h) :
    (k = h ∧ driving = .run) ∨
    (∃ scene r begun v,
      driving.Attempts depth script (.enter k (u.lend k)) (.perform (.changeScene scene)) r ∧
      Action.Starts (.changeScene scene) r begun (.begin h v) ∧
      attempt.action.PartOfRun h begun v g) ∨
    ((∃ deeds, Course none t deeds u none) ∧
      ∀ deeds, Course none t deeds u none → .take h .run ∈ deeds) := by
  rcases attempts.handle rfl with same | part
  · obtain rfl : k = h := same.symm.trans own
    by_cases isRun : driving = .run
    · exact .inl ⟨rfl, isRun⟩
    · refine .inr (.inr ⟨?_, fun deeds course => ?_⟩)
      · obtain ⟨played, plays⟩ := t.play_course moves
        obtain ⟨_, reached⟩ := drives.course
        exact ⟨_, plays.append reached⟩
      · by_contra notRun
        exact attempts.not_dormant isRun (course.dormant notRun dormant script found)
  · rw [own] at part
    exact .inr (.inl part)

/-- To cancel a verb is to end it, and but for that nothing is changed than that its dialog may be
closed.  To cancel it again changes nothing.  From then on it is refused when it is resumed, and none
of its actions is performed or given time, until it is run. -/
theorem cancelVerb_final (idle : s.executing = []) (h : Handle) :
    let answer := (s.cancelVerb h).1
    let t := (s.cancelVerb h).2
    (answer = true ↔ (s.world.script? h).isSome) ∧
    (s.world.script? h = none → t = s) ∧
    (∀ script, s.world.script? h = some script →
      ∃ script', t.world.script? h = some script' ∧ script'.IsIn .finished ∧
        script'.reset = script.reset ∧
        ((Deed.applyAll [.install h script'] s).Like t ∨
          ∃ opened, s.world.openDialog = some opened ∧ opened.handle = h ∧
            (Deed.applyAll [.closeDialog, .emit (.dialogClosed opened.actor opened.dialog),
              .install h script'] s).Like t)) ∧
    (s.Waits h → ∀ opened, s.world.openDialog = some opened → opened.handle = h →
      t.world.openDialog = none) ∧
    ((t.cancelVerb h).1 = answer ∧ t.Like (t.cancelVerb h).2) ∧
    (∀ deeds t', Course none t deeds t' none → .take h .run ∉ deeds →
      ∀ depth, ∃ reason, t'.resumeVerb h depth = (.error reason, t')) ∧
    ∀ moves m depth driving g u script attempt f, (t.play moves).Drives depth m driving g u →
      u.world.script? g = some script →
      driving.Attempts depth script (.enter g (u.lend g)) attempt f → f.handle = h →
        (g = h ∧ driving = .run) ∨
        (∃ scene r begun v,
          driving.Attempts depth script (.enter g (u.lend g)) (.perform (.changeScene scene)) r ∧
          Action.Starts (.changeScene scene) r begun (.begin h v) ∧
          attempt.action.PartOfRun h begun v f) ∨
        ((∃ deeds, Course none t deeds u none) ∧
          ∀ deeds, Course none t deeds u none → .take h .run ∈ deeds) := by
  intro answer t
  have notDriven : h ∉ s.executing := by simp [idle]
  have dormant : t.Only h Script.Dormant := dormant_cancelVerb notDriven
  have tIdle : t.executing = [] := by
    obtain ⟨_, cancelled, _⟩ := cancelVerb_course none s h
    exact cancelled.executing_eq.trans idle
  refine ⟨?_, ?_, fun script found => cancelVerb_like notDriven found, ?_,
    cancelVerb_again notDriven, ?_, ?_⟩
  · cases found : s.world.script? h with
    | none => simp [answer, cancelVerb_of_missing notDriven found]
    | some script =>
      obtain ⟨_, _, _, _, _, cancels⟩ := cancelVerb_of_found notDriven found
      simp [answer, cancels]
  · intro missing
    exact congrArg Prod.snd (cancelVerb_of_missing notDriven missing)
  · rintro waits opened isOpen rfl
    exact (openDialog_cancelVerb notDriven isOpen waits).2
  · intro deeds t' course notRun depth
    have idleThere : h ∉ t'.executing := by simp [course.executing_eq, tIdle]
    exact refuses_of_dormant idleThere (course.dormant notRun dormant) depth
  · intro moves m depth driving g u script attempt f drives found attempts own
    exact attempts_of_dormant dormant drives found attempts own

end Stage

/-- When talking to the clerk is cancelled, the dialog is closed and the verb is at its end, where it
can neither be resumed nor be cancelled any further. -/
theorem World.hall_cancelled :
    let talking := (Stage.ofWorld .hall).play [(.interact "clerk" "talk" none, 2)]
    let talk : Handle := ⟨.actor "hall" "clerk", "talk", none, none⟩
    let silent := (talking.cancelVerb talk).2
    talking.executing = [] ∧ (talking.cancelVerb talk).1 = true ∧ silent.world.openDialog = none ∧
    (∃ script, silent.world.script? talk = some script ∧ script.IsIn .finished) ∧
    (∃ reason, silent.resumeVerb talk 2 = (.error reason, silent)) ∧
    silent.Like (silent.cancelVerb talk).2 := by
  intro talking talk silent
  have found : talking.world.script? ⟨.actor "hall" "clerk", "talk", none, none⟩ = some
      ⟨[.showDialog none "offer", .setState .owner (some "met")], some 0, true⟩ := rfl
  obtain ⟨answers, _, ends, closes, ⟨_, unchanged⟩, refuses, _⟩ :=
    Stage.cancelVerb_final (s := talking) rfl talk
  obtain ⟨ended, foundEnded, atEnd, _⟩ := ends _ found
  exact ⟨rfl, answers.mpr (by rw [found]; rfl), closes ⟨_, found, rfl⟩ _ rfl rfl,
    ⟨ended, foundEnded, atEnd⟩, refuses [] silent .ended nofun 2, unchanged⟩

end Stagecraft
