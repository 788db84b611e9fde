import Stagecraft.Proofs.Persistence
import Stagecraft.Proofs.Placement

/-!
# Playing keeps what is placed

What performing keeps is kept when time passes for a verb, when what it waits for arrives, and by
every move of the front end.  So whatever is attempted while a world is played is attempted where it
may be, in a world that is kept.
-/

namespace Stagecraft

namespace Placement

variable {p : Placement} {perform : Performer} {s : Stage}

/-! ## Going on -/

/-- Going on past an action that has made progress keeps the stage. -/
private theorem KeptBy.advance (kept : p.KeptBy perform) {actions : List Action}
    {action action' : Action} {ip : Nat} {f f₁ : Frame} (after : p.After f f₁)
    (placed : ∀ action ∈ actions, action.Placed p.fits f.scope) (here : actions[ip]? = some action)
    (progress : p.Progress f.scope action action') :
    p.After f (Script.advance perform ip (actions.set ip action') f₁).2.2 ∧
      p.ProgressAll f.scope actions
        (Script.advance perform ip (actions.set ip action') f₁).1.actions := by
  have changed := ProgressAll.set placed here progress
  rcases kept.stepFrom (ip + 1) after.keeps (after.placed changed.placed) with ⟨swept, others⟩
  exact ⟨after.trans swept, changed.trans (after.progress others)⟩

/-- Whether time that passes for an action keeps the stage. -/
private def TickKeeps (p : Placement) (perform : Performer) (delta : Single) (action : Action) :
    Prop :=
  ∀ f : Frame, p.Keeps f.stage → action.Placed p.fits f.scope →
    p.After f (action.tick perform delta f).2.2 ∧
      p.Progress f.scope action (action.tick perform delta f).1

private theorem tick_keeps_of (kept : p.KeptBy perform) {delta : Single} {s : Script Action}
    (below : ∀ action ∈ s.actions, p.TickKeeps perform delta action) {f : Frame}
    (keeps : p.Keeps f.stage) (placed : s.Placed p.fits f.scope) :
    p.After f (s.tick perform delta f).2.2 ∧
      p.ProgressAll f.scope s.actions (s.tick perform delta f).1.actions := by
  rcases s.parked_or_still with ⟨actions, ip, action, rfl, here⟩ | still
  · have member := List.mem_of_getElem? here
    rw [Script.tick_parked perform delta f here]
    rcases below action member f keeps (placed action member) with ⟨afterAction, progress⟩
    rcases ticked : action.tick perform delta f with ⟨action', (reason | (_ | _)), f₁⟩ <;>
      rw [ticked] at afterAction progress
    · have noted : p.After f (f₁.error
          s!"{f₁.handle.key.text} step {ip} failed while in progress: {reason.message}") :=
        ⟨afterAction.keeps, afterAction.hosts⟩
      exact kept.advance noted placed here progress
    · exact ⟨afterAction, .set placed here progress⟩
    · exact kept.advance afterAction placed here progress
  · rw [still.tick]
    exact ⟨.refl keeps, .refl placed⟩

private theorem tickKeeps (kept : p.KeptBy perform) (delta : Single) (action : Action) :
    p.TickKeeps perform delta action := by
  induction action using Action.nestedInduction with
  | leaf action noInner =>
    intro f keeps placed
    cases action with
    | goto actor pos speed origin =>
      simp only [Action.tick]
      split
      · next arrived walked done =>
        rcases Frame.walkOn_eq_ok done with ⟨scene, id, place, _, present, rfl⟩
        have proper : p.Proper (.place scene id place) := trivial
        constructor
        · exact .of_scope_eq (keeps.applyAll none ⟨present, trivial⟩ (by simp [proper])) rfl
        · exact .refl placed
      · exact ⟨.refl keeps, .refl placed⟩
    | playAnimation actor animation duration waits elapsed =>
      simp only [Action.tick]
      split
      · exact ⟨.refl keeps, .refl placed⟩
      · exact ⟨.refl keeps, .of_leaf placed rfl rfl⟩
    | say actor text duration waits elapsed => exact ⟨.refl keeps, .of_leaf placed rfl rfl⟩
    | wait seconds elapsed => exact ⟨.refl keeps, .of_leaf placed rfl rfl⟩
    | conditional condition script => cases noInner
    | runVerb whose verb target bound script => cases noInner
    | _ => exact ⟨.refl keeps, .refl placed⟩
  | conditional condition script ih =>
    intro f keeps placed
    rcases tick_keeps_of kept ih keeps (placed.inside rfl) with ⟨after, inner⟩
    exact ⟨after, .conditional placed inner⟩
  | runVerb whose verb target bound script ih =>
    intro f keeps placed
    rcases tick_keeps_of kept ih (f := f.enterScope bound) keeps (placed.inside rfl) with
      ⟨after, inner⟩
    exact ⟨.of_scope_eq after.keeps rfl, .runVerb placed inner.placed⟩

/-- Time that passes for an action keeps the stage, and the action was written the same. -/
theorem KeptBy.tickAction (kept : p.KeptBy perform) (delta : Single) {action : Action} {f : Frame}
    (keeps : p.Keeps f.stage) (placed : action.Placed p.fits f.scope) :
    p.After f (action.tick perform delta f).2.2 ∧
      p.Progress f.scope action (action.tick perform delta f).1 :=
  tickKeeps kept delta action f keeps placed

/-- Time that passes for a script keeps the stage. -/
theorem KeptBy.tick (kept : p.KeptBy perform) (delta : Single) {s : Script Action} {f : Frame}
    (keeps : p.Keeps f.stage) (placed : s.Placed p.fits f.scope) :
    p.After f (s.tick perform delta f).2.2 ∧
      p.ProgressAll f.scope s.actions (s.tick perform delta f).1.actions :=
  tick_keeps_of kept (fun action _ => tickKeeps kept delta action) keeps placed

/-- Whether the arrival of what an action waits for keeps the stage. -/
private def ResumeKeeps (p : Placement) (perform : Performer) (action : Action) : Prop :=
  ∀ f action' state f', p.Keeps f.stage → action.Placed p.fits f.scope →
    action.resume perform f = .ok (action', state, f') →
      p.After f f' ∧ p.Progress f.scope action action'

private theorem resume_keeps_of (kept : p.KeptBy perform) {s s' : Script Action} {f f' : Frame}
    {state : RunState} (below : ∀ action ∈ s.actions, p.ResumeKeeps perform action)
    (keeps : p.Keeps f.stage) (placed : s.Placed p.fits f.scope)
    (resumed : s.resume perform f = .ok (s', state, f')) :
    p.After f f' ∧ p.ProgressAll f.scope s.actions s'.actions := by
  rcases Script.exists_of_resume_eq_ok resumed with ⟨ip, action, same, here⟩
  have member := List.mem_of_getElem? here
  rw [same, Script.resume_parked perform f here] at resumed
  rcases done : action.resume perform f with reason | ⟨action', (_ | _), f₁⟩
  · rw [done] at resumed
    cases resumed
  · rcases below action member f _ _ _ keeps (placed action member) done with ⟨after, progress⟩
    rw [done] at resumed
    cases resumed
    exact ⟨after, .set placed here progress⟩
  · rcases below action member f _ _ _ keeps (placed action member) done with
      ⟨afterAction, progress⟩
    rw [done] at resumed
    have advanced := kept.advance afterAction placed here progress
    rw [Except.ok.inj resumed] at advanced
    exact advanced

private theorem resumeKeeps (kept : p.KeptBy perform) (action : Action) :
    p.ResumeKeeps perform action := by
  induction action using Action.nestedInduction with
  | leaf action noInner =>
    intro f action' state f' keeps placed resumed
    rw [Action.resume_of_inner?_eq_none noInner] at resumed
    cases resumed
    exact ⟨.refl keeps, .refl placed⟩
  | conditional condition script ih =>
    intro f action' state f' keeps placed resumed
    simp only [Action.resume] at resumed
    cases done : script.resume perform f with
    | error reason =>
      rw [done] at resumed
      cases resumed
    | ok answer =>
      rw [done] at resumed
      cases resumed
      rcases resume_keeps_of kept ih keeps (placed.inside rfl) done with ⟨after, inner⟩
      exact ⟨after, .conditional placed inner⟩
  | runVerb whose verb target bound script ih =>
    intro f action' state f' keeps placed resumed
    simp only [Action.resume] at resumed
    cases done : script.resume perform (f.enterScope bound) with
    | error reason =>
      rw [done] at resumed
      cases resumed
    | ok answer =>
      rw [done] at resumed
      cases resumed
      rcases resume_keeps_of kept ih (f := f.enterScope bound) keeps (placed.inside rfl) done with
        ⟨after, inner⟩
      exact ⟨.of_scope_eq after.keeps rfl, .runVerb placed inner.placed⟩

/-- The arrival of what an action waits for keeps the stage, and the action was written the same. -/
theorem KeptBy.resumeAction (kept : p.KeptBy perform) {action action' : Action} {f f' : Frame}
    {state : RunState} (keeps : p.Keeps f.stage) (placed : action.Placed p.fits f.scope)
    (resumed : action.resume perform f = .ok (action', state, f')) :
    p.After f f' ∧ p.Progress f.scope action action' :=
  resumeKeeps kept action f action' state f' keeps placed resumed

/-- The arrival of what a script waits for keeps the stage. -/
theorem KeptBy.resume (kept : p.KeptBy perform) {s s' : Script Action} {f f' : Frame}
    {state : RunState} (keeps : p.Keeps f.stage) (placed : s.Placed p.fits f.scope)
    (resumed : s.resume perform f = .ok (s', state, f')) :
    p.After f f' ∧ p.ProgressAll f.scope s.actions s'.actions :=
  resume_keeps_of kept (fun action _ => resumeKeeps kept action) keeps placed resumed

/-- Taking up a script again keeps the stage. -/
theorem KeptBy.reenter (kept : p.KeptBy perform) {s : Script Action} {f : Frame}
    (keeps : p.Keeps f.stage) (placed : s.Placed p.fits f.scope) :
    p.After f (s.reenter perform f).2.2 ∧
      p.ProgressAll f.scope s.actions (s.reenter perform f).1.actions := by
  unfold Script.reenter
  split
  · split
    · exact kept.stepFrom _ keeps placed
    · exact ⟨.refl keeps, .refl placed⟩
  · exact ⟨.refl keeps, .refl placed⟩

/-- However a script is driven, that keeps the stage, and its actions were written the same. -/
theorem KeptBy.drive (kept : p.KeptBy perform) {driving : Driving} {s s' : Script Action}
    {f f' : Frame} {state : RunState} (keeps : p.Keeps f.stage)
    (placed : s.Placed p.fits f.scope)
    (driven : driving.drive perform s f = .ok (s', state, f')) :
    p.After f f' ∧ p.ProgressAll f.scope s.actions s'.actions := by
  cases driving with
  | run =>
    have ran := kept.run keeps placed
    rw [Except.ok.inj driven] at ran
    exact ran
  | resume =>
    simp only [Driving.drive] at driven
    cases done : s.resume perform f with
    | error reason =>
      rw [done] at driven
      cases driven
    | ok answer =>
      rw [done] at driven
      exact settle_after (kept.resume keeps placed done) (Except.ok.inj driven)
  | tick delta => exact settle_after (kept.tick delta keeps placed) (Except.ok.inj driven)
  | reenter => exact settle_after (kept.reenter keeps placed) (Except.ok.inj driven)
  | cancel =>
    rcases cancel_keeps (s := s) (f := f.info s!">>> cancelling verb {f.handle.key.text}") keeps
      placed with ⟨after, progress⟩
    cases driven
    exact ⟨⟨after.keeps, after.hosts⟩, progress⟩

/-- Driving a verb of the world keeps the stage. -/
theorem KeptBy.driveVerb (kept : p.KeptBy perform) (driving : Driving) (keeps : p.Keeps s)
    (h : Handle) : p.Keeps (s.driveVerb perform driving h).2 := by
  unfold Stage.driveVerb
  apply keeps.withVerb
  intro script found
  have placed := (keeps.scripts h script found).1
  cases driven : driving.drive perform script (.enter h (s.lend h)) with
  | error reason => exact ⟨keeps.lend h, .refl placed⟩
  | ok answer =>
    rcases kept.drive (f := .enter h (s.lend h)) (keeps.lend h) placed driven with
      ⟨after, progress⟩
    exact ⟨after.keeps, progress⟩

/-! ## The operations -/

variable {depth : Nat}

/-- Steps that keep the stage keep it one after the other. -/
private theorem Keeps.foldl {α : Type} {step : Stage → α → Stage}
    (each : ∀ s a, p.Keeps s → p.Keeps (step s a)) (list : List α) (keeps : p.Keeps s) :
    p.Keeps (list.foldl step s) := by
  induction list generalizing s with
  | nil => exact keeps
  | cons a rest ih => exact ih (each s a keeps)

theorem Keeps.tickVerb (keeps : p.Keeps s) (delta : Single) (h : Handle) :
    p.Keeps (s.tickVerb (Action.perform depth) delta h) := by
  rw [Stage.tickVerb_eq]
  exact (keptBy_perform depth).driveVerb _ keeps h

theorem Keeps.resumeVerb (keeps : p.Keeps s) (h : Handle) : p.Keeps (s.resumeVerb h depth).2 := by
  rw [Stage.resumeVerb_eq]
  exact (keptBy_perform depth).driveVerb _ keeps h

theorem Keeps.reenterVerb (keeps : p.Keeps s) (h : Handle) :
    p.Keeps (s.reenterVerb (Action.perform depth) h) := by
  rw [Stage.reenterVerb_eq]
  cases s.world.script? h with
  | none => exact keeps
  | some script =>
    simp only [Option.elim_some]
    split
    · exact (keptBy_perform depth).driveVerb _
        (s := s.info s!"re-entering verb {h.text} after load") keeps h
    · exact keeps

/-- Taking a stored game up again keeps the stage. -/
theorem Keeps.restore (keeps : p.Keeps s) {s' : Stage} (restored : s.restore depth = .ok s') :
    p.Keeps s' := by
  unfold Stage.restore at restored
  split at restored
  · cases restored
  · cases restored
    exact keeps.foldl (fun _ h keeps => keeps.reenterVerb h) s.world.handles

/-- What a move does by itself does not matter to what is kept. -/
theorem outlastsDeeds (p : Placement) : Stage.OutlastsDeeds p.Keeps := by
  intro s deed allowed frontEnds keeps
  cases deed with
  | emit event =>
    rcases frontEnds with calm | ⟨closed, actor, dialog, rfl⟩
    · exact keeps.apply allowed calm
    · exact ⟨p.closes closed keeps.world, keeps.scripts⟩
  | note | goTo | setPlayer | pass | notice | choose => exact keeps.apply allowed trivial
  | _ => cases frontEnds

/-- What is kept endures every move. -/
theorem Keeps.endures (keeps : p.Keeps s) (m : Move) (depth : Nat) :
    s.Endures p.Keeps m depth where
  holds := keeps
  outlasts := p.outlastsDeeds
  drives driving h _ _ keeps := (keptBy_perform depth).driveVerb driving keeps h

theorem Keeps.noticePlayer (keeps : p.Keeps s) (scene actor : String) :
    p.Keeps (s.noticePlayer (Action.perform depth) scene actor) := by
  cases sees : s.sees? scene actor with
  | none =>
    rw [Stage.noticePlayer_of_unseen sees]
    exact keeps
  | some crossing =>
    rw [Stage.noticePlayer_of_sees sees]
    exact (keptBy_perform depth).runNamed (p.outlastsDeeds.crossed sees keeps) _ _ _

theorem Keeps.ticked (keeps : p.Keeps s) (delta : Single) :
    p.Keeps (s.ticked (Action.perform depth) delta) :=
  (keeps.endures (.update delta) depth).ticks (List.append_nil _).symm

theorem Keeps.afterOption (keeps : p.Keeps s) (opened : OpenDialog) (option : DialogOption) :
    p.Keeps (s.afterOption opened option depth) := by
  unfold Stage.afterOption
  split
  · exact (keptBy_perform depth).runNamed keeps _ _ none
  · exact keeps

/-- Every move keeps the stage. -/
theorem Keeps.move (keeps : p.Keeps s) (m : Move) (depth : Nat) : p.Keeps (s.move m depth) :=
  (keeps.endures m depth).move

/-- Every run of moves keeps the stage. -/
theorem Keeps.play (keeps : p.Keeps s) (moves : List (Move × Nat)) : p.Keeps (s.play moves) :=
  keeps.foldl (fun _ m keeps => keeps.move m.1 m.2) moves

/-! ## What is attempted -/

/-- Whether an action is performed where it may be. -/
structure Hosts (p : Placement) (f : Frame) (action : Action) : Prop where
  keeps : p.Keeps f.stage
  placed : action.Placed p.fits f.scope

/-- A sweep comes to actions where they may be performed. -/
theorem KeptBy.hosts_of_comes (kept : p.KeptBy perform) {ip k : Nat} {actions : List Action}
    {f g : Frame} {action : Action} (comes : Action.Comes perform ip actions f k action g)
    (keeps : p.Keeps f.stage) (placed : ∀ action ∈ actions, action.Placed p.fits f.scope) :
    p.Hosts g action := by
  induction comes with
  | here calm => exact ⟨keeps, placed _ (List.mem_cons_self ..)⟩
  | @past ip action rest f done outcome f' _ _ _ calm performed goesOn _ ih =>
    rw [List.forall_mem_cons] at placed
    rcases kept action f keeps placed.1 with ⟨after, _⟩
    rw [performed] at after
    have past : p.After f (f'.past ip done outcome) := by
      cases outcome with
      | fault reason => exact ⟨after.keeps, after.hosts⟩
      | _ => exact after
    exact ih past.keeps (past.placed placed.2)

/-- The scripts that are started are started where their actions may be performed. -/
theorem Hosts.starts {action : Action} {f g : Frame} {script : Script Action}
    (hosts : p.Hosts f action) (starts : action.Starts f script g) :
    p.Keeps g.stage ∧ script.Placed p.fits g.scope := by
  cases starts with
  | conditional holds => exact ⟨hosts.keeps, hosts.placed.inside rfl⟩
  | runVerb found =>
    rcases Frame.inlineVerb_eq_ok found with ⟨text, rfl⟩
    rcases Frame.inlineVerb_eq_some found with ⟨h, definition, _, named, _, isThere, rfl⟩
    constructor
    · exact hosts.keeps
    · have written := (hosts.keeps.scripts h definition isThere).1.reset
      rw [Stage.owner_of_resolve? named] at written
      exact written
  | @changeScene scene _ s h _ present arrives finds idle found =>
    subst arrives
    have arrived := Keeps.arrive (s := (f.info s!"└─ action: ChangeScene({scene})").stage)
      hosts.keeps present
    exact ⟨arrived.lend h, (arrived.scripts h script found).1⟩

/-- Whatever performing an action comes to is performed where it may be. -/
theorem Hosts.reaches {depth : Nat} {action reached : Action} {f g : Frame}
    (hosts : p.Hosts f action) (reaches : action.Reaches depth f reached g) :
    p.Hosts g reached := by
  induction reaches with
  | itself => exact hosts
  | @inside depth _ _ _ _ _ _ _ _ _ starts comes _ ih =>
    rcases hosts.starts starts with ⟨keeps, placed⟩
    have released := After.release keeps placed
    exact ih ((keptBy_perform depth).hosts_of_comes comes released.keeps
      (released.placed placed.reset))

/-- A script that goes on does so where its actions may be performed. -/
theorem KeptBy.hosts_of_goesOn (kept : p.KeptBy perform) {driving : Driving} {s : Script Action}
    {f g : Frame} {ip : Nat} {actions : List Action}
    (goesOn : s.GoesOn perform driving f ip actions g) (keeps : p.Keeps f.stage)
    (placed : s.Placed p.fits f.scope) :
    p.Keeps g.stage ∧ ∀ action ∈ actions, action.Placed p.fits g.scope := by
  induction goesOn with
  | inside here inner _ ih =>
    exact ih keeps ((placed _ (List.mem_of_getElem? here)).inside inner)
  | @past actions ip action f action' f' here passes =>
    have member := List.mem_of_getElem? here
    have after : p.After f f' := by
      cases driving with
      | resume =>
        simp only [Action.passes?] at passes
        split at passes
        · next resumed =>
          cases passes
          exact (kept.resumeAction keeps (placed action member) resumed).1
        · cases passes
      | tick delta =>
        have ticked := (kept.tickAction delta keeps (placed action member)).1
        simp only [Action.passes?] at passes
        split at passes
        · next done =>
          cases passes
          rw [done] at ticked
          exact ticked
        · next done =>
          cases passes
          rw [done] at ticked
          exact ⟨ticked.keeps, ticked.hosts⟩
        · cases passes
      | _ => cases passes
    exact ⟨after.keeps, after.placed fun action member =>
      placed action (List.mem_of_mem_drop member)⟩

/-- Whatever is swept while a script is driven is swept where it may be performed. -/
theorem KeptBy.hosts_of_sweeps (kept : p.KeptBy perform) {driving : Driving} {s : Script Action}
    {f g : Frame} {ip : Nat} {actions : List Action}
    (sweeps : driving.Sweeps perform s f ip actions g) (keeps : p.Keeps f.stage)
    (placed : s.Placed p.fits f.scope) :
    p.Keeps g.stage ∧ ∀ action ∈ actions, action.Placed p.fits g.scope := by
  cases driving with
  | run =>
    rcases sweeps with ⟨rfl, rfl, rfl⟩
    have released := After.release (s := s) (f := f.info s!">>> running verb {f.handle.key.text}")
      keeps placed
    exact ⟨released.keeps, released.placed placed.reset⟩
  | reenter =>
    rcases sweeps with ⟨_, _, rfl, rfl⟩
    exact ⟨keeps, fun action member => placed action (List.mem_of_mem_drop member)⟩
  | resume => exact kept.hosts_of_goesOn sweeps keeps placed
  | tick delta => exact kept.hosts_of_goesOn sweeps keeps placed
  | cancel => cases sweeps

private theorem placed_leaf_of {s : Script Action} {leaf : Action} {owner other : Owner}
    (below : ∀ action ∈ s.actions, action.leaf? owner = some (leaf, other) →
      leaf.Placed p.fits other) (isLeaf : s.leaf? owner = some (leaf, other)) :
    leaf.Placed p.fits other := by
  rcases s.parked_or_still with ⟨actions, ip, action, rfl, here⟩ | still
  · simp only [Script.leaf?, Action.leafAt?_eq, here, Option.bind_some] at isLeaf
    exact below action (List.mem_of_getElem? here) isLeaf
  · rw [still.leaf] at isLeaf
    cases isLeaf

private theorem placed_leafOf {action leaf : Action} {owner other : Owner}
    (placed : action.Placed p.fits owner) (isLeaf : action.leaf? owner = some (leaf, other)) :
    leaf.Placed p.fits other := by
  induction action using Action.nestedInduction generalizing owner with
  | leaf action noInner =>
    cases action with
    | conditional condition script => cases noInner
    | runVerb whose verb target bound script => cases noInner
    | _ =>
      cases isLeaf
      exact placed
  | conditional condition script ih =>
    exact placed_leaf_of (fun action member => ih action member
      (placed.inside rfl action member)) isLeaf
  | runVerb whose verb target bound script ih =>
    exact placed_leaf_of (fun action member => ih action member
      (placed.inside rfl action member)) isLeaf

/-- The innermost action on which a script is parked may run for the owner for whom it does. -/
theorem placed_leaf {s : Script Action} {leaf : Action} {owner other : Owner}
    (placed : s.Placed p.fits owner) (isLeaf : s.leaf? owner = some (leaf, other)) :
    leaf.Placed p.fits other :=
  placed_leaf_of (fun action member => placed_leafOf (placed action member)) isLeaf

/-- Whatever is attempted while a script is driven is attempted where it may be. -/
theorem hosts_of_attempts {depth : Nat} {driving : Driving} {s : Script Action} {f g : Frame}
    {attempt : Attempt} (attempts : driving.Attempts depth s f attempt g) (keeps : p.Keeps f.stage)
    (placed : s.Placed p.fits f.scope) : p.Hosts g attempt.action := by
  cases attempts with
  | perform sweeps comes reaches =>
    have kept := p.keptBy_perform depth
    rcases kept.hosts_of_sweeps sweeps keeps placed with ⟨keeps, placed⟩
    exact (kept.hosts_of_comes comes keeps placed).reaches reaches
  | tick leaf => exact ⟨keeps, placed_leaf placed leaf⟩

/-- Whatever is attempted in a move is attempted where it may be. -/
theorem Keeps.attempts {m : Move} {attempt : Attempt} {g : Frame} (keeps : p.Keeps s)
    (attempts : s.Attempts m depth attempt g) : p.Hosts g attempt.action := by
  rcases attempts with ⟨driving, h, t, script, drives, _, found, attempts⟩
  have onStage := (keeps.endures m depth).of_drives drives
  exact hosts_of_attempts attempts (onStage.lend h) (onStage.scripts h script found).1

end Placement

end Stagecraft
