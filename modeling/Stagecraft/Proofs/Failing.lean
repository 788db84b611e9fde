import Stagecraft.Proofs.InPlace
import Stagecraft.Proofs.Omission
import Stagecraft.Proofs.Rerunning

/-!
# Actions that fail

An action that fails has done nothing, except that this is noted in the journal.  A script in which
an action fails goes on with the next one, and comes to the same as without that action.
-/

namespace Stagecraft

/-! ## Failing -/

namespace Outcome

variable {outcome : Outcome} (reason : Fault)

theorem ne_fault_of_proceed (proceeds : outcome = .proceed) : outcome ≠ .fault reason := by
  simp [proceeds]

theorem ne_fault_of_parkIf {waits : Bool} (parks : outcome = .parkIf waits) :
    outcome ≠ .fault reason := by
  subst parks
  cases waits <;> simp [Outcome.parkIf]

theorem ofRunState_ne_fault (state : RunState) : ofRunState state ≠ .fault reason := by
  cases state <;> simp [Outcome.ofRunState]

end Outcome

/-- An action that has failed has done nothing but note it. -/
theorem Action.like_of_performWith_fault {inner : Option Performer} {action : Action} {f : Frame}
    {reason : Fault} (faulted : (Action.performWith inner action f).2.1 = .fault reason) :
    f.Like (Action.performWith inner action f).2.2 := by
  have noted : ∀ text : String, f.Like (f.info text) := fun _ => ⟨_, rfl⟩
  -- An effect that has failed has left its frame alone, as none succeeds with a failure.
  have tried : ∀ {f₀ : Frame} {effect : Except Fault (Outcome × Frame)}, f.Like f₀ →
      (f₀.attempt effect).1 = .fault reason →
      (∀ outcome f', effect = .ok (outcome, f') → outcome ≠ .fault reason) →
        f.Like (f₀.attempt effect).2 := by
    intro f₀ effect like failed succeeds
    cases effect with
    | error reason => exact like
    | ok result => exact absurd failed (succeeds result.1 result.2 rfl)
  cases action with
  | setState target state =>
    apply tried (.refl f) faulted
    exact fun outcome f' done => Outcome.ne_fault_of_proceed reason (Frame.setState_eq_ok done).1
  | setProperty target name value =>
    apply tried (.refl f) faulted
    exact fun outcome f' done => Outcome.ne_fault_of_proceed reason (Frame.setProperty_eq_ok done).1
  | setActorAttr actor visible interaction layer =>
    apply tried (.refl f) faulted
    intro outcome f' done
    exact Outcome.ne_fault_of_proceed reason (Frame.setActorAttr_eq_ok done).1
  | position actor pos =>
    apply tried (.refl f) faulted
    exact fun outcome f' done => Outcome.ne_fault_of_proceed reason (Frame.putActor_eq_ok done).1
  | goto actor pos speed origin =>
    simp only [Action.performWith] at faulted ⊢
    split at faulted
    · cases faulted
    · cases faulted
    · exact .refl f
  | playAnimation actor animation duration waits elapsed =>
    apply tried (.refl f) faulted
    intro outcome f' done
    exact Outcome.ne_fault_of_parkIf reason (Frame.playAnimation_eq_ok done).1
  | playSound actor sound =>
    apply tried (.refl f) faulted
    exact fun outcome f' done => Outcome.ne_fault_of_proceed reason (Frame.playSound_eq_ok done).1
  | say actor text duration waits elapsed =>
    apply tried (.refl f) faulted
    exact fun outcome f' done => Outcome.ne_fault_of_parkIf reason (Frame.say_eq_ok done).1
  | wait seconds elapsed => exact absurd faulted (Outcome.ne_fault_of_parkIf reason rfl)
  | showDialog actor dialog =>
    apply tried (.refl f) faulted
    intro outcome f' done
    rcases Frame.showDialog_eq_ok done with ⟨rfl, _⟩ | ⟨rfl, _⟩ <;> simp
  | conditional condition script =>
    simp only [Action.performWith] at faulted ⊢
    split at faulted
    · exact .refl f
    · cases faulted
    · cases inner with
      | none => exact .refl f
      | some perform => exact absurd faulted (Outcome.ofRunState_ne_fault reason _)
  | runVerb whose verb target bound script =>
    simp only [Action.performWith] at faulted ⊢
    split at faulted
    · exact .refl f
    · cases faulted
    · next owner actions f' found =>
      cases inner with
      | none =>
        rcases Frame.inlineVerb_eq_ok found with ⟨text, rfl⟩
        exact noted text
      | some perform => exact absurd faulted (Outcome.ofRunState_ne_fault reason _)
  | cancelVerb whose verb target =>
    apply tried (.refl f) faulted
    exact fun outcome f' done => Outcome.ne_fault_of_proceed reason (Frame.cancelNamed_eq_ok done).1
  | addVerb whose key script =>
    apply tried (.refl f) faulted
    exact fun outcome f' done => Outcome.ne_fault_of_proceed reason (Frame.addVerb_eq_ok done).1
  | changeScene scene =>
    cases inner with
    | none => exact noted _
    | some perform =>
      apply tried (noted _) faulted
      exact fun outcome f' done => Outcome.ne_fault_of_proceed reason (Frame.onStage_eq_ok done).1
  | setPlayer actor =>
    apply tried (noted _) faulted
    exact fun outcome f' done => Outcome.ne_fault_of_proceed reason (Frame.onStage_eq_ok done).1
  | removeActor actor =>
    apply tried (noted _) faulted
    exact fun outcome f' done => Outcome.ne_fault_of_proceed reason (Frame.removeActor_eq_ok done).1

/-- An action that has failed has done nothing but note it, at whatever depth it is performed. -/
theorem Action.like_of_fault {depth : Nat} {action : Action} {f : Frame} {reason : Fault}
    (faulted : (Action.perform depth action f).2.1 = .fault reason) :
    f.Like (Action.perform depth action f).2.2 := by
  cases depth with
  | zero => exact like_of_performWith_fault faulted
  | succ depth => exact like_of_performWith_fault faulted

/-! ## Coming past an action -/

namespace Action.Comes

variable {perform : Performer} {ip k j : Nat} {actions passed later tail : List Action}
  {f g h : Frame} {action other : Action}

/-- A sweep that has been asked to end comes to nothing more. -/
theorem calm (comes : Comes perform ip actions f k action g) : g.cancelRequested = false := by
  induction comes with
  | here calm => exact calm
  | past _ _ _ _ ih => exact ih

/-- A sweep that comes to an action goes on from there, whatever is to come. -/
theorem exists_passed (comes : Comes perform ip actions f k action g) :
    ∃ passed done later, actions = passed ++ action :: later ∧ k = ip + passed.length ∧
      done.length = passed.length ∧
      (∀ tail, Action.sweep perform ip (passed ++ tail) f =
        (done ++ (Action.sweep perform k tail g).1, (Action.sweep perform k tail g).2)) ∧
      ∀ tail j other h, k ≤ j → (Comes perform ip (passed ++ tail) f j other h ↔
        Comes perform k tail g j other h) := by
  induction comes with
  | @here ip action rest f calm =>
    exact ⟨[], [], rest, rfl, rfl, rfl, fun _ => rfl, fun _ _ _ _ _ => Iff.rfl⟩
  | @past ip action rest f done outcome f' k next g calm performed goesOn comes ih =>
    rcases ih with ⟨passed, swept, later, rfl, rfl, sameLength, sweeps, comesTo⟩
    refine ⟨action :: passed, done :: swept, later, rfl, ?_, ?_, ?_, ?_⟩
    · simp only [List.length_cons]
      omega
    · simp only [List.length_cons, sameLength]
    · intro tail
      rw [List.cons_append, Action.sweep_past calm performed goesOn, sweeps tail]
      rfl
    · intro tail j other h below
      rw [List.cons_append, ← comesTo tail j other h below]
      constructor
      · intro comes
        cases comes with
        | here calm => omega
        | past _ again _ comes =>
          cases performed.symm.trans again
          exact comes
      · exact .past calm performed goesOn

/-- A sweep comes from an action that has failed to the next one. -/
theorem next {done : Action} {reason : Fault} {journal : List Note}
    (comes : Comes perform ip (actions.drop ip) f k action g)
    (faulted : perform action g = (done, .fault reason, g.under journal))
    (here : actions[k + 1]? = some other) :
    ∃ g', g.Like g' ∧ Comes perform ip (actions.drop ip) f (k + 1) other g' := by
  rcases comes.exists_passed with ⟨passed, _, later, split, rfl, _, _, comesTo⟩
  have isNext : later.head? = some other := by
    rw [← here, Nat.add_assoc, ← List.getElem?_drop, split,
      List.getElem?_append_right (by omega), Nat.add_sub_cancel_left, List.head?_eq_getElem?]
    rfl
  rcases List.head?_eq_some_iff.mp isNext with ⟨rest, rfl⟩
  refine ⟨(g.under journal).past (ip + passed.length) done (.fault reason), ⟨_, rfl⟩, ?_⟩
  rw [split, comesTo (action :: other :: rest) _ _ _ (by omega)]
  exact .past comes.calm faulted nofun (.here comes.calm)

/-- What a sweep comes to depends neither on the journal nor on where the sweep begins. -/
theorem under (deaf : perform.Deaf) (comes : Comes perform ip actions f k action g) (ip' : Nat)
    (journal : List Note) :
    ∃ k' g', k' + ip = k + ip' ∧ g.Like g' ∧
      Comes perform ip' actions (f.under journal) k' action g' := by
  induction comes generalizing ip' journal with
  | @here ip action rest f calm => exact ⟨ip', _, by omega, ⟨journal, rfl⟩, .here calm⟩
  | @past ip action rest f done outcome f₁ k next g calm performed goesOn comes ih =>
    rcases deaf action f journal with ⟨journal', same⟩
    rw [performed] at same
    rcases Frame.past_under f₁ ip ip' done outcome journal' with ⟨journal'', noted⟩
    rcases ih (ip' + 1) journal'' with ⟨k', g', moved, like, comes⟩
    rw [← noted] at comes
    exact ⟨k', g', by omega, like, .past calm same goesOn comes⟩

end Action.Comes

/-! ## Going on after a failure -/

/-- Deleting the action between two parts of a list. -/
private theorem eraseIdx_between {α : Type} (before passed later : List α) (a : α) :
    (before ++ (passed ++ a :: later)).eraseIdx (before.length + passed.length) =
      before ++ (passed ++ later) := by
  rw [List.eraseIdx_append_of_length_le (by omega), Nat.add_sub_cancel_left,
    List.eraseIdx_append_of_length_le (Nat.le_refl _), Nat.sub_self]
  rfl

/-- Whether sweeping a script from a position comes to the same without the action at another one.
Each action that is come to after the missing one is also come to in the whole script, in a frame
that is the same but for the journal. -/
structure Script.Skips (perform : Performer) (ip k : Nat) (actions : List Action) (f : Frame) :
    Prop where
  alike : Script.LeftAlike k (.ok (Script.stepFrom perform ip actions f))
    (.ok (Script.stepFrom perform ip (actions.eraseIdx k) f))
  goesOn : ∀ j action g, k ≤ j →
    Action.Comes perform ip ((actions.eraseIdx k).drop ip) f j action g →
      ∃ g', g.Like g' ∧ Action.Comes perform ip (actions.drop ip) f (j + 1) action g'

/-- A script goes on after an action that has done nothing as if it were not there. -/
theorem Performer.Deaf.skips {perform : Performer} (deaf : perform.Deaf) {ip k : Nat}
    {actions : List Action} {f g : Frame} {action done : Action} {reason : Fault}
    {journal : List Note} (comes : Action.Comes perform ip (actions.drop ip) f k action g)
    (faulted : perform action g = (done, .fault reason, g.under journal)) :
    Script.Skips perform ip k actions f := by
  have calm := comes.calm
  rcases comes.exists_passed with ⟨passed, swept, later, split, rfl, sameLength, sweeps, comesTo⟩
  obtain ⟨before, rfl, whole⟩ : ∃ before : List Action, before.length = ip ∧
      actions = before ++ (passed ++ action :: later) := by
    refine ⟨actions.take ip, ?_, by rw [← split, List.take_append_drop]⟩
    have nonempty : (actions.drop ip).length ≠ 0 := by simp [split]
    rw [List.length_drop] at nonempty
    rw [List.length_take]
    omega
  subst whole
  -- The frame in which the next action is performed is the one before the failure, with more noted.
  obtain ⟨noted, isNoted⟩ : ∃ noted, (g.under journal).past (before.length + passed.length) done
      (.fault reason) = g.under noted := ⟨_, rfl⟩
  have wholly := sweeps (action :: later)
  rw [Action.sweep_past calm faulted nofun, isNoted] at wholly
  have partly := sweeps later
  rcases deaf.sweep later (before.length + passed.length) (before.length + passed.length + 1) g
    noted with ⟨after, steps, state, f', journal', first, second⟩
  rw [second] at wholly
  rw [first] at partly
  constructor
  · simp only [eraseIdx_between, Script.stepFrom, List.drop_left, List.take_left, wholly, partly]
    constructor
    · refine ⟨before ++ (swept ++ done :: after), before.length + passed.length + steps,
        state == .suspended, by omega, ?_, ?_, ?_⟩
      · simp only [List.length_append, List.length_cons, sameLength]
        omega
      · rw [Nat.add_right_comm]
      · rw [← sameLength, eraseIdx_between]
    · exact ⟨f'.stage.journal, rfl⟩
  · intro j other h below comes
    rw [eraseIdx_between, List.drop_left, comesTo later j other h below] at comes
    rcases comes.under deaf (before.length + passed.length + 1) noted with
      ⟨j', h', moved, like, comes⟩
    have next : j' = j + 1 := by omega
    rw [next] at comes
    refine ⟨h', like, ?_⟩
    rw [List.drop_left, comesTo (action :: later) (j + 1) other h' (by omega)]
    rw [← isNoted] at comes
    exact .past calm faulted nofun comes

/-! ## Verbs -/

/-- A verb that is put back and taken away is taken away. -/
theorem VerbTable.erase_restore (t : VerbTable) (key : Key) (script : Script Action) :
    (t.restore key script).erase key = t.erase key := by
  unfold restore
  split
  · rfl
  · exact Table.erase_insert_self t key script

/-- A script without the action at a position, which has not been started. -/
def Script.without (s : Script Action) (k : Nat) : Script Action :=
  .ofActions (s.actions.eraseIdx k)

theorem Script.reset_without (s : Script Action) (k : Nat) :
    (s.without k).reset.actions = s.reset.actions.eraseIdx k := by
  simp only [Script.without, Script.reset_eq, Script.ofActions, Action.resetAll_eq_map,
    List.eraseIdx_eq_take_drop_succ, List.map_append, List.map_take, List.map_drop]

namespace Stage

variable {s t : Stage} {h : Handle}

/-- A stage with another script under a handle. -/
def refile (s : Stage) (h : Handle) (script : Script Action) : Stage :=
  s.mapWorld (·.modifyVerbs h.owner (·.insert h.key script))

/-- Whether a stage is the same as another one but for the script of a verb and the journal.  The
verb is in its table on both or on neither. -/
structure SameBut (h : Handle) (s t : Stage) : Prop where
  rest : (s.lend h).Like (t.lend h)
  present : (t.world.script? h).isSome = (s.world.script? h).isSome

/-- Another script under a handle makes no difference while the verb is driven. -/
theorem lend_refile (s : Stage) (h : Handle) (script : Script Action) :
    (s.refile h script).lend h = s.lend h := by
  have sameWorld : (s.refile h script).world.modifyVerbs h.owner (·.erase h.key) =
      s.world.modifyVerbs h.owner (·.erase h.key) := by
    simp only [refile, mapWorld, World.modifyVerbs_modifyVerbs]
    apply World.modifyVerbs_congr
    exact fun verbs _ => Table.erase_insert_self verbs h.key script
  unfold lend
  rw [sameWorld]
  rfl

/-- The script with which a verb comes back is all that depends on it. -/
theorem lend_restore (s : Stage) (h : Handle) (script : Script Action) :
    (s.mapWorld (·.modifyVerbs h.owner (·.restore h.key script))).lend h = s.lend h := by
  have sameWorld : (s.world.modifyVerbs h.owner (·.restore h.key script)).modifyVerbs h.owner
      (·.erase h.key) = s.world.modifyVerbs h.owner (·.erase h.key) := by
    rw [World.modifyVerbs_modifyVerbs]
    apply World.modifyVerbs_congr
    exact fun verbs _ => VerbTable.erase_restore verbs h.key script
  unfold lend mapWorld
  simp only [sameWorld]

/-- Driving a verb in one way and a verb under the same handle in another gives the same answer and
the same stage but for that verb, if that is so for what is done with their scripts. -/
theorem withVerb_sameBut {α : Type} {script again : Script Action}
    {first second : Script Action → Stage → Script Action × α × Stage}
    (idle : h ∉ s.executing) (sameExecuting : t.executing = s.executing)
    (found : s.world.script? h = some script) (foundAgain : t.world.script? h = some again)
    (answers : (second again (t.lend h)).2.1 = (first script (s.lend h)).2.1)
    (stages : (first script (s.lend h)).2.2.Like (second again (t.lend h)).2.2) :
    (t.withVerb h second).1 = (s.withVerb h first).1 ∧
      SameBut h (s.withVerb h first).2 (t.withVerb h second).2 := by
  have idleAgain : h ∉ t.executing := by rwa [sameExecuting]
  rw [withVerb_of_found idle found, withVerb_of_found idleAgain foundAgain, sameExecuting]
  revert answers stages
  rcases first script (s.lend h) with ⟨kept, answer, after⟩
  rcases second again (t.lend h) with ⟨keptAgain, answerAgain, afterAgain⟩
  rintro sameAnswer ⟨journal, sameStage⟩
  simp only at sameAnswer sameStage ⊢
  subst sameAnswer sameStage
  have sameWorld : (after.under journal).world = after.world := rfl
  rw [sameWorld]
  cases present : after.world.verbs? h.owner with
  | none => exact ⟨rfl, ⟨_, rfl⟩, rfl⟩
  | some verbs =>
    refine ⟨rfl, ?_, ?_⟩
    · rw [lend_restore, lend_restore]
      exact ⟨journal, rfl⟩
    · simp [mapWorld, World.script?_restore, present]

end Stage

/-- A verb that is run and goes past an action leaves the stage as it would without that, as soon as
it has let go of what it held before. -/
theorem Stage.runHandle_skips {perform : Performer} (deaf : perform.Deaf) {s : Stage} {h : Handle}
    {script : Script Action} {k : Nat} (idle : h ∉ s.executing)
    (found : s.world.script? h = some script)
    (skips : Script.Skips perform 0 k script.reset.actions (script.release (.begin h s))) :
    (((s.letGo h).refile h (script.without k)).runHandle perform h).1 =
        (s.runHandle perform h).1 ∧
      SameBut h (s.runHandle perform h).2
        (((s.letGo h).refile h (script.without k)).runHandle perform h).2 := by
  rcases lend_letGo idle found with ⟨foundReset, sameExecuting, lent⟩
  have present := World.isSome_verbs?_of_script? (Option.isSome_of_eq_some foundReset)
  have foundPart : ((s.letGo h).refile h (script.without k)).world.script? h =
      some (script.without k) := by
    rw [refile, mapWorld, World.script?_insert present, if_pos rfl]
  -- The verb without the action is started where the whole one is, but for the journal.
  obtain ⟨journal, begins⟩ : (script.release (.begin h s)).Like
      (.begin h ((s.letGo h).refile h (script.without k))) := by
    rcases script.release_under (.enter h (s.lend h))
      (s.journal ++ [⟨.info, s!">>> running verb {h.key.text}"⟩]) with ⟨noted, same⟩
    have noted : script.release (.begin h s) =
      (script.release (.enter h (s.lend h))).under noted := same
    rw [noted, Frame.begin, lend_refile, lent, script.release_enter]
    exact ⟨_, rfl⟩
  rcases deaf.stepFrom 0 (script.reset.actions.eraseIdx k) (script.release (.begin h s)) journal
    with ⟨journal', same⟩
  have started : (script.without k).start perform (.begin h ((s.letGo h).refile h
      (script.without k))) = Script.stepFrom perform 0 (script.reset.actions.eraseIdx k)
        ((script.release (.begin h s)).under journal) := by
    rw [Script.start, script.reset_without, begins]
    rfl
  have ran : Script.LeftAlike k (.ok ((Frame.enter h (s.lend h)).run perform script))
      (.ok ((Frame.enter h (((s.letGo h).refile h (script.without k)).lend h)).run perform
        (script.without k))) := by
    have partly := skips.alike.under journal'
    rw [← same, ← started] at partly
    exact partly.settle
  exact withVerb_sameBut idle sameExecuting found foundPart ran.of_ok.1 ran.of_ok.2

/-! ## Failures -/

/-- An action that fails has done nothing, neither when it is performed nor while time passes, and
never stops its script.  The next action is performed where the failed one was, and the script comes
to the same as without that action, for as long as it is driven.  A verb that is run leaves
everything else as it would without the action.  All that is so although actions are performed in
place, with no way back for what has been changed before a failure. -/
theorem Action.failing_skipped (depth : Nat) :
    (∀ action f reason, (Action.perform depth action f).2.1 = .fault reason →
      f.Like (Action.perform depth action f).2.2) ∧
    (∀ action delta f reason,
      (Action.tick (Action.perform depth) delta action f).2.1 = .error reason →
        Action.tick (Action.perform depth) delta action f = (action, .error reason, f)) ∧
    (∀ ip actions f k action g reason,
      Action.Comes (Action.perform depth) ip (actions.drop ip) f k action g →
      (Action.perform depth action g).2.1 = .fault reason →
        (∀ next, actions[k + 1]? = some next → ∃ g', g.Like g' ∧
          Action.Comes (Action.perform depth) ip (actions.drop ip) f (k + 1) next g') ∧
        Script.Skips (Action.perform depth) ip k actions f) ∧
    (∀ (driving : Driving) (k : Nat) (whole part : Script Action) (f f' : Frame),
      driving ≠ .run → whole.Omits k part → f.Like f' →
        Script.LeftAlike k (driving.drive (Action.perform depth) whole f)
          (driving.drive (Action.perform depth) part f')) ∧
    (∀ (s : Stage) h script k action g reason, h ∉ s.executing → s.world.script? h = some script →
      Action.Comes (Action.perform depth) 0 script.reset.actions (script.release (.begin h s))
        k action g →
      (Action.perform depth action g).2.1 = .fault reason →
        (((s.letGo h).refile h (script.without k)).runHandle (Action.perform depth) h).1 =
            (s.runHandle (Action.perform depth) h).1 ∧
          Stage.SameBut h (s.runHandle (Action.perform depth) h).2
            (((s.letGo h).refile h (script.without k)).runHandle (Action.perform depth) h).2) ∧
    Action.performInPlace depth = Action.perform depth ∧
    ∀ delta actor pos speed origin f,
      Action.tick (Action.perform depth) delta (.goto actor pos speed origin) f =
        (.goto actor pos speed origin, InPlace.walkOn actor pos speed delta f) := by
  have deaf := Action.deaf_perform depth
  have noted : ∀ action f reason, (Action.perform depth action f).2.1 = .fault reason →
      ∃ done journal, Action.perform depth action f = (done, .fault reason, f.under journal) := by
    intro action f reason faulted
    rcases Action.like_of_fault faulted with ⟨journal, like⟩
    exact ⟨_, journal, Prod.ext rfl (Prod.ext faulted like)⟩
  constructor
  · exact fun action f reason => Action.like_of_fault
  constructor
  · intro action delta f reason failed
    rcases Action.exists_goto_of_tick_error failed with ⟨_, _, _, _, _, _, same⟩
    exact same
  constructor
  · intro ip actions f k action g reason comes faulted
    rcases noted action g reason faulted with ⟨done, journal, faulted⟩
    exact ⟨fun next here => comes.next faulted here, deaf.skips comes faulted⟩
  constructor
  · exact fun driving k whole part f f' goesOn => deaf.drive_omits driving goesOn
  constructor
  · intro s h script k action g reason idle found comes faulted
    rcases noted action g reason faulted with ⟨done, journal, faulted⟩
    exact Stage.runHandle_skips deaf idle found (deaf.skips comes faulted)
  · exact ⟨performInPlace_eq depth, tick_goto _⟩

/-- The hall, where the clerk's verb turns to somebody who is not there. -/
def Stage.astray : Stage :=
  (Stage.ofWorld .hall).refile ⟨.actor "hall" "clerk", "talk", none, none⟩
    (.ofActions [.setState .owner (some "called"), .setState (.actor "ghost") none,
      .setState .owner (some "met")])

/-- Nobody is met on the way, but the verb goes on to its end. -/
theorem Stage.astray_skips :
    (∃ g, Action.Comes (Action.perform 0) 0
        [.setState .owner (some "called"), .setState (.actor "ghost") none,
          .setState .owner (some "met")]
        (.begin ⟨.actor "hall" "clerk", "talk", none, none⟩ .astray) 1
        (.setState (.actor "ghost") none) g ∧
      (Action.perform 0 (.setState (.actor "ghost") none) g).2.1 =
        .fault (.noOwner (.actor "hall" "ghost")) ∧
      g.Like (Action.perform 0 (.setState (.actor "ghost") none) g).2.2) ∧
    Stage.SameBut ⟨.actor "hall" "clerk", "talk", none, none⟩
      (Stage.astray.runHandle (Action.perform 0) ⟨.actor "hall" "clerk", "talk", none, none⟩).2
      (((Stage.astray.letGo ⟨.actor "hall" "clerk", "talk", none, none⟩).refile
        ⟨.actor "hall" "clerk", "talk", none, none⟩
        (.ofActions [.setState .owner (some "called"), .setState .owner (some "met")])).runHandle
          (Action.perform 0) ⟨.actor "hall" "clerk", "talk", none, none⟩).2 := by
  rcases Action.failing_skipped 0 with ⟨leaves, _, _, _, skips, _⟩
  have comes : Action.Comes (Action.perform 0) 0
      [.setState .owner (some "called"), .setState (.actor "ghost") none,
        .setState .owner (some "met")]
      (.begin ⟨.actor "hall" "clerk", "talk", none, none⟩ .astray) 1
      (.setState (.actor "ghost") none) _ := .past rfl rfl nofun (.here rfl)
  refine ⟨⟨_, comes, rfl, leaves _ _ _ rfl⟩, ?_⟩
  exact (skips .astray ⟨.actor "hall" "clerk", "talk", none, none⟩ (.ofActions
    [.setState .owner (some "called"), .setState (.actor "ghost") none,
      .setState .owner (some "met")]) 1 _ _ _ List.not_mem_nil rfl comes rfl).2

end Stagecraft
