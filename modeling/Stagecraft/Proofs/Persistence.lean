import Stagecraft.Proofs.Reaching
import Stagecraft.Proofs.Resuming

/-!
# What lasts while a world is played

Whatever a verb does is done by its actions, one at a time.  So what is true of a stage stays true
while a verb is driven if it stays true with each action that is performed, or given time, on the
way; and it stays true in a move if it stays true with each verb that the move drives.
-/

namespace Stagecraft

variable {motive : Stage → Prop} {perform : Performer}

/-- What is true of stages is true of them whatever is noted in the journal, whatever the front end
is told, and whichever dialog is open. -/
structure Stage.Lasting (motive : Stage → Prop) : Prop where
  note : ∀ s level text, motive s → motive (s.note level text)
  emit : ∀ s event, motive s → motive (s.emit event)
  dialog : ∀ s openDialog, motive s → motive (s.mapWorld fun w => { w with openDialog })

namespace Stage.Lasting

/-- What lasts is true when a verb has closed the dialog that it has opened. -/
theorem release (lasting : Lasting motive) (f : Frame) (holds : motive f.stage) :
    motive f.releaseDialog.stage := by
  unfold Frame.releaseDialog
  split
  · split
    · exact lasting.emit _ _ (lasting.note _ _ _ (lasting.dialog _ none holds))
    · exact holds
  · exact holds

/-- What lasts is true when a script has been cancelled. -/
theorem cancel (lasting : Lasting motive) (s : Script Action) {f : Frame} (holds : motive f.stage) :
    motive (s.cancel f).2.stage :=
  Script.cancel_of_releases lasting.release s f holds

end Stage.Lasting

/-- Whether something stays true with each action to which a sweep comes. -/
def Action.SweepLasts (motive : Stage → Prop) (perform : Performer) (ip : Nat)
    (actions : List Action) (f : Frame) : Prop :=
  ∀ k action g, Action.Comes perform ip actions f k action g → motive g.stage →
    motive (perform action g).2.2.stage

/-! ## Sweeps -/

/-- What lasts with each action of a sweep lasts in the sweep. -/
theorem Action.SweepLasts.sweep (lasting : Stage.Lasting motive) {ip : Nat} {actions : List Action}
    {f : Frame} (each : SweepLasts motive perform ip actions f) (holds : motive f.stage) :
    motive (Action.sweep perform ip actions f).2.2.2.stage := by
  induction actions generalizing ip f with
  | nil => exact holds
  | cons action rest ih =>
    cases calm : f.cancelRequested with
    | true =>
      rw [Action.sweep_cancelled calm]
      exact lasting.cancel ⟨action :: rest, some 0, true⟩ holds
    | false =>
      have first := each ip action f (.here calm) holds
      rcases performed : perform action f with ⟨done, outcome, f₁⟩
      rw [performed] at first
      by_cases parks : outcome = .park
      · subst parks
        rw [Action.sweep_parks calm performed]
        exact first
      · have past : motive (f₁.past ip done outcome).stage := by
          cases outcome with
          | fault reason => exact lasting.note _ _ _ first
          | _ => exact first
        rw [Action.sweep_past calm performed parks]
        exact ih (fun k next g comes => each k next g (.past calm performed parks comes)) past

namespace Stage.Lasting

variable (lasting : Lasting motive)
include lasting

/-- What lasts in the sweep of a whole script lasts when the script is started. -/
theorem start {s : Script Action} {f : Frame}
    (each : Action.SweepLasts motive perform 0 s.reset.actions (s.release f))
    (holds : motive f.stage) : motive (s.start perform f).2.2.stage :=
  each.sweep lasting (Script.release_of_releases lasting.release s f holds)

/-- How a run of a verb ends matters to nothing that lasts. -/
theorem settle (s : Script Action) (state : RunState) {f : Frame} (holds : motive f.stage) :
    motive (f.settle s state).2.2.stage := by
  unfold Frame.settle
  split
  · exact lasting.cancel s (lasting.note _ _ _ holds)
  · cases state with
    | finished => exact lasting.note _ _ _ holds
    | suspended => exact holds

end Stage.Lasting

/-- A sweep stays in the scope in which it begins. -/
theorem Action.Comes.scope_eq {ip k : Nat} {actions : List Action} {f g : Frame} {action : Action}
    (runs : perform.Runs) (comes : Action.Comes perform ip actions f k action g) :
    g.scope = f.scope := by
  induction comes with
  | here => rfl
  | @past ip action rest f done outcome f' _ _ _ calm performed _ _ ih =>
    rcases runs action f done outcome f' calm performed with ⟨_, course⟩
    have past : (f'.past ip done outcome).scope = f'.scope := by cases outcome <;> rfl
    exact ih.trans (past.trans course.scope_eq)

/-- A script lets go of what it holds in the scope in which it is. -/
theorem Script.scope_release (s : Script Action) (f : Frame) : (s.release f).scope = f.scope := by
  rcases s.release_givesUp f with ⟨_, runs, _⟩
  exact runs.scope_eq

/-! ## Performing -/

/-- What is true of a stage is true after an attempt, if it is when the attempt succeeds. -/
theorem Frame.attempt_lasts {f : Frame} {effect : Except Fault (Outcome × Frame)}
    (holds : motive f.stage)
    (succeeds : ∀ outcome f', effect = .ok (outcome, f') → motive f'.stage) :
    motive (f.attempt effect).2.stage := by
  cases effect with
  | error reason => exact holds
  | ok done => exact succeeds done.1 done.2 rfl

/-- What lasts with each script that an action starts, and with what the action does to other verbs
and to the scenes, lasts when the action is performed. -/
theorem Stage.Lasting.performWith (lasting : Lasting motive) {inner : Option Performer}
    {action : Action} {f : Frame} (holds : motive f.stage)
    (direct : action.isDirect → motive (Action.performWith inner action f).2.2.stage)
    (cancels : ∀ whose h, f.target whose = .ok h.owner → ∀ s, motive s → motive (s.cancelVerb h).2)
    (installs : ∀ whose key script owner, action = .addVerb whose key script →
      f.target whose = .ok owner → (Deed.install ⟨owner, key⟩ script.reset).Allowed (some f.handle)
        f.stage → (∃ done, f.addVerb whose key script = .ok done) →
          motive ((Deed.install ⟨owner, key⟩ script.reset).apply f.stage))
    (changes : ∀ scene, action = .changeScene scene →
      motive (Action.performWith inner action f).2.2.stage)
    (below : ∀ perform ∈ inner, ∀ script g, action.Starts f script g → motive g.stage →
      motive (script.start perform g).2.2.stage) :
    motive (Action.performWith inner action f).2.2.stage := by
  have noted : ∀ level text, motive (f.stage.note level text) :=
    fun level text => lasting.note _ level text holds
  cases action with
  | showDialog actor dialog =>
    apply Frame.attempt_lasts holds
    intro outcome f' done
    rcases Frame.showDialog_eq_ok done with ⟨_, text, rfl⟩ | ⟨_, _, _, _, _, _, _, _, rfl⟩
    · exact noted _ _
    · exact lasting.emit _ _ (lasting.dialog _ _ (noted _ _))
  | conditional condition script =>
    simp only [Action.performWith]
    split
    · exact holds
    · exact noted _ _
    · next isTrue =>
      cases inner with
      | none => exact holds
      | some perform => exact below perform rfl script _ (.conditional isTrue) (noted _ _)
  | runVerb whose verb target bound script =>
    simp only [Action.performWith]
    split
    · exact holds
    · next f₁ found =>
      rcases Frame.inlineVerb_eq_ok found with ⟨text, rfl⟩
      exact noted _ _
    · next owner actions f₁ found =>
      rcases Frame.inlineVerb_eq_ok found with ⟨text, rfl⟩
      cases inner with
      | none => exact noted _ _
      | some perform => exact below perform rfl (.ofActions actions) _ (.runVerb found) (noted _ _)
  | cancelVerb whose verb target =>
    apply Frame.attempt_lasts holds
    intro outcome f' done
    rcases Frame.cancelNamed_eq_ok done with
      ⟨_, text, ⟨requested, rfl⟩ | ⟨h, meant, _, stage, rfl, rfl | ⟨warning, rfl⟩⟩⟩
    · exact noted _ _
    · exact cancels whose h meant _ (noted _ _)
    · exact lasting.note _ _ _ (cancels whose h meant _ (noted _ _))
  | addVerb whose key script =>
    apply Frame.attempt_lasts holds
    intro outcome f' done
    rcases Frame.addVerb_eq_ok done with ⟨_, owner, text, meant, notOwn, present, rfl⟩
    have installed := installs whose key script owner rfl meant
      ⟨⟨f.handle, rfl, notOwn⟩, present, script, rfl⟩ ⟨_, done⟩
    exact lasting.note _ _ _ installed
  | changeScene scene => exact changes scene rfl
  | _ => exact direct rfl

/-! ## Going on -/

/-- Whether something stays true with the sweeps with which a parked script goes on. -/
def Script.GoesOnLasting (motive : Stage → Prop) (perform : Performer) (driving : Driving)
    (s : Script Action) (f : Frame) : Prop :=
  ∀ ip actions g, s.GoesOn perform driving f ip actions g →
    Action.SweepLasts motive perform ip actions g

namespace Script.GoesOnLasting

variable {driving : Driving} {actions : List Action} {ip : Nat} {action action' : Action}
  {script : Script Action} {bound : Option Owner} {f f' : Frame}

/-- The script inside the action on which a script is parked goes on with the same sweeps. -/
theorem inside (sweeps : GoesOnLasting motive perform driving ⟨actions, some ip, true⟩ f)
    (here : actions[ip]? = some action) (inner : action.inner? = some (script, bound)) :
    script.GoesOnLasting motive perform driving (f.enterScope bound) :=
  fun ip actions g goesOn => sweeps ip actions g (.inside here inner goesOn)

/-- A script that goes on past its action goes on with one of these sweeps. -/
theorem advance (sweeps : GoesOnLasting motive perform driving ⟨actions, some ip, true⟩ f)
    (lasting : Stage.Lasting motive) (here : actions[ip]? = some action)
    (passes : action.passes? perform ip f driving = some (action', f')) (holds : motive f'.stage) :
    motive (Script.advance perform ip (actions.set ip action') f').2.2.stage := by
  have each := sweeps (ip + 1) _ f' (.past here passes)
  have later : (actions.set ip action').drop (ip + 1) = actions.drop (ip + 1) :=
    List.drop_set_of_lt (Nat.lt_succ_self ip)
  rw [← later] at each
  exact each.sweep lasting holds

end Script.GoesOnLasting

/-- Time that passes for a single action does nothing to the stage, but that it puts an actor that
walks where it has come to. -/
theorem Action.stage_tick {action : Action} (noInner : action.inner? = none) (delta : Single)
    (f : Frame) :
    (action.tick perform delta f).2.2.stage = f.stage ∨
      ∃ scene id pos, f.sceneId = .ok scene ∧ (f.stage.world.actor? scene id).isSome ∧
        (action.tick perform delta f).2.2.stage = (Deed.place scene id pos).apply f.stage := by
  cases action with
  | goto actor goal speed origin =>
    simp only [Action.tick]
    cases done : f.walkOn actor goal speed delta with
    | error reason => exact .inl rfl
    | ok walked =>
      rcases walked with ⟨arrived, f'⟩
      rcases Frame.walkOn_eq_ok done with ⟨scene, id, pos, inScene, present, rfl⟩
      exact .inr ⟨scene, id, pos, inScene, present, rfl⟩
  | playAnimation actor animation duration waits elapsed =>
    left
    simp only [Action.tick]
    split <;> rfl
  | conditional condition script => cases noInner
  | runVerb whose verb target bound script => cases noInner
  | _ => exact .inl rfl

/-- Whether something stays true when time passes for the innermost action on which a verb is
parked. -/
def LeafLasts (motive : Stage → Prop) (perform : Performer) (delta : Single) (leaf : Leaf)
    (f : Frame) : Prop :=
  ∀ action owner, leaf = some (action, owner) → action.inner? = none → motive f.stage →
    motive (action.tick perform delta { f with scope := owner }).2.2.stage

/-- Whether something that stays true inside an action stays true when time passes for it. -/
private def Action.TickLasts (motive : Stage → Prop) (perform : Performer) (delta : Single)
    (action : Action) : Prop :=
  ∀ f : Frame, LeafLasts motive perform delta (action.leaf? f.scope) f →
    (∀ script bound, action.inner? = some (script, bound) →
      script.GoesOnLasting motive perform (.tick delta) (f.enterScope bound)) →
        motive f.stage → motive (action.tick perform delta f).2.2.stage

private theorem Script.tick_lasts_of (lasting : Stage.Lasting motive) {delta : Single}
    {s : Script Action} (below : ∀ action ∈ s.actions, action.TickLasts motive perform delta)
    {f : Frame} (leaf : LeafLasts motive perform delta (s.leaf? f.scope) f)
    (sweeps : s.GoesOnLasting motive perform (.tick delta) f) (holds : motive f.stage) :
    motive (s.tick perform delta f).2.2.stage := by
  rcases s.parked_or_still with ⟨actions, ip, action, rfl, here⟩ | still
  · have ownLeaf : LeafLasts motive perform delta (action.leaf? f.scope) f := by
      simpa [Script.leaf?, Action.leafAt?_eq, here] using leaf
    have lasts := below action (List.mem_of_getElem? here) f ownLeaf
      (fun script bound inner => sweeps.inside here inner) holds
    rw [Script.tick_parked perform delta f here]
    rcases ticked : action.tick perform delta f with ⟨action', reason | (_ | _), f₁⟩ <;>
      rw [ticked] at lasts
    · exact sweeps.advance lasting here (by simp only [Action.passes?, ticked])
        (lasting.note _ _ _ lasts)
    · exact lasts
    · exact sweeps.advance lasting here (by simp only [Action.passes?, ticked]) lasts
  · rw [still.tick]
    exact holds

private theorem Action.tickLasts (lasting : Stage.Lasting motive) (delta : Single)
    (action : Action) : action.TickLasts motive perform delta := by
  induction action using Action.nestedInduction with
  | leaf action noInner =>
    intro f leaf _ holds
    exact leaf action f.scope (Action.leaf?_of_inner?_eq_none noInner f.scope) noInner holds
  | conditional condition script ih =>
    intro f leaf inner holds
    exact Script.tick_lasts_of lasting ih leaf (inner script none rfl) holds
  | runVerb whose verb target bound script ih =>
    intro f leaf inner holds
    exact Script.tick_lasts_of lasting ih (f := f.enterScope bound) leaf (inner script bound rfl)
      holds

/-- What lasts with the innermost action and with the sweeps that follow lasts when time passes for
a script. -/
theorem Stage.Lasting.tick (lasting : Lasting motive) {delta : Single} {s : Script Action}
    {f : Frame} (leaf : LeafLasts motive perform delta (s.leaf? f.scope) f)
    (sweeps : s.GoesOnLasting motive perform (.tick delta) f) (holds : motive f.stage) :
    motive (s.tick perform delta f).2.2.stage :=
  Script.tick_lasts_of lasting (fun action _ => action.tickLasts lasting delta) leaf sweeps holds

/-- Whether something that stays true inside an action stays true when what it waits for arrives. -/
private def Action.ResumeLasts (motive : Stage → Prop) (perform : Performer) (action : Action) :
    Prop :=
  ∀ f : Frame, (∀ script bound, action.inner? = some (script, bound) →
    script.GoesOnLasting motive perform .resume (f.enterScope bound)) → motive f.stage →
      ∀ done, action.resume perform f = .ok done → motive done.2.2.stage

private theorem Script.resume_lasts_of (lasting : Stage.Lasting motive) {s : Script Action}
    (below : ∀ action ∈ s.actions, action.ResumeLasts motive perform) {f : Frame}
    (sweeps : s.GoesOnLasting motive perform .resume f) (holds : motive f.stage)
    {done : Script Action × RunState × Frame} (resumed : s.resume perform f = .ok done) :
    motive done.2.2.stage := by
  rcases Script.exists_of_resume_eq_ok resumed with ⟨ip, action, same, here⟩
  rw [same] at sweeps
  rw [same, Script.resume_parked perform f here] at resumed
  have lasts := below action (List.mem_of_getElem? here) f
    (fun script bound inner => sweeps.inside here inner) holds
  rcases first : action.resume perform f with reason | ⟨action', _ | _, f₁⟩ <;>
    rw [first] at resumed lasts <;> cases resumed
  · exact lasts _ rfl
  · exact sweeps.advance lasting here (by simp only [Action.passes?, first]) (lasts _ rfl)

private theorem Action.resumeLasts (lasting : Stage.Lasting motive) (action : Action) :
    action.ResumeLasts motive perform := by
  induction action using Action.nestedInduction with
  | leaf action noInner =>
    intro f _ holds done resumed
    rw [Action.resume_of_inner?_eq_none noInner] at resumed
    cases resumed
    exact holds
  | conditional condition script ih =>
    intro f inner holds done resumed
    simp only [Action.resume] at resumed
    rcases first : script.resume perform f with reason | ⟨script', state, f₁⟩ <;>
      rw [first] at resumed <;> cases resumed
    exact Script.resume_lasts_of lasting ih (inner script none rfl) holds first
  | runVerb whose verb target bound script ih =>
    intro f inner holds done resumed
    simp only [Action.resume] at resumed
    rcases first : script.resume perform (f.enterScope bound) with reason | ⟨script', state, f₁⟩ <;>
      rw [first] at resumed <;> cases resumed
    exact Script.resume_lasts_of lasting ih (f := f.enterScope bound) (inner script bound rfl) holds
      first

/-- What lasts with the sweeps that follow lasts when what a script waits for arrives. -/
theorem Stage.Lasting.resume (lasting : Lasting motive) {s : Script Action} {f : Frame}
    (sweeps : s.GoesOnLasting motive perform .resume f) (holds : motive f.stage)
    {done : Script Action × RunState × Frame} (resumed : s.resume perform f = .ok done) :
    motive done.2.2.stage :=
  Script.resume_lasts_of lasting (fun action _ => action.resumeLasts lasting) sweeps holds resumed

/-! ## Driving -/

/-- However a script is driven, what lasts with the action that is given time and with the sweeps
lasts. -/
theorem Stage.Lasting.drive (lasting : Lasting motive) {driving : Driving} {s : Script Action}
    {f : Frame}
    (leaf : ∀ delta, driving = .tick delta → LeafLasts motive perform delta (s.leaf? f.scope) f)
    (sweeps : ∀ ip actions g, driving.Sweeps perform s f ip actions g →
      Action.SweepLasts motive perform ip actions g)
    {done : Script Action × RunState × Frame} (driven : driving.drive perform s f = .ok done)
    (holds : motive f.stage) : motive done.2.2.stage := by
  cases driving with
  | run =>
    cases driven
    have noted := lasting.note _ .info s!">>> running verb {f.handle.key.text}" holds
    exact lasting.settle _ _ (lasting.start (sweeps 0 _ _ ⟨rfl, rfl, rfl⟩) noted)
  | resume =>
    simp only [Driving.drive] at driven
    rcases resumed : s.resume perform f with reason | ⟨s', state, f'⟩ <;> rw [resumed] at driven <;>
      cases driven
    exact lasting.settle _ _ (lasting.resume sweeps holds resumed)
  | tick delta =>
    cases driven
    exact lasting.settle _ _ (lasting.tick (leaf delta rfl) sweeps holds)
  | reenter =>
    cases driven
    have reentered : motive (s.reenter perform f).2.2.stage := by
      by_cases between : s.IsBetween
      · rcases between.reenter_eq perform f with ⟨ip, atIp, _, taken⟩
        rw [taken]
        exact (sweeps ip _ f ⟨between, atIp, rfl, rfl⟩).sweep lasting holds
      · rw [Script.reenter_of_not_isBetween perform f between]
        exact holds
    exact lasting.settle _ _ reentered
  | cancel =>
    cases driven
    exact lasting.cancel s (lasting.note _ _ _ holds)

/-! ## Moves -/

/-- Whether a deed is one that a move does by itself, besides driving verbs.  It tells of a dialog
only when it has closed the open one. -/
def Deed.IsFrontEnds (s : Stage) : Deed → Prop
  | .note .. | .goTo _ | .setPlayer _ | .pass _ | .notice .. | .choose .. => True
  | .emit event => event.isAboutDialog = false ∨
      s.world.openDialog = none ∧ ∃ actor dialog, event = .dialogClosed actor dialog
  | _ => False

namespace Stage

variable {s : Stage} {depth : Nat}

/-- What lasts with each step is true after any steps one after the other. -/
theorem foldl_lasts {α : Type} {step : Stage → α → Stage} {list : List α} (holds : motive s)
    (each : ∀ before a after, list = before ++ a :: after → motive (before.foldl step s) →
      motive (step (before.foldl step s) a)) {before after : List α}
    (split : list = before ++ after) : motive (before.foldl step s) := by
  induction before generalizing s list with
  | nil => exact holds
  | cons a rest ih =>
    subst split
    apply ih (each [] a (rest ++ after) rfl holds) _ rfl
    intro before b later same
    exact each (a :: before) b later (congrArg (a :: ·) same)

/-- What lasts when the verb that is found is run lasts when a verb is looked for to be run. -/
theorem runNamed_lasts {owner : Owner} {id : String} {target : Option String} (holds : motive s)
    (runs : ∀ h, s.resolve? owner id target = some h → motive (s.driveVerb perform .run h).2) :
    motive (s.runNamed perform owner id target).2 := by
  unfold runNamed
  split
  · next h finds =>
    have ran := runs h finds
    rwa [runHandle_eq] at ran
  · exact holds

/-- What stays true with whatever a move does by itself. -/
def OutlastsDeeds (motive : Stage → Prop) : Prop :=
  ∀ s deed, Deed.Allowed none s deed → deed.IsFrontEnds s → motive s → motive (deed.apply s)

namespace OutlastsDeeds

variable (outlasts : OutlastsDeeds motive)
include outlasts

theorem note {s : Stage} (level : Level) (text : String) (holds : motive s) :
    motive (s.note level text) :=
  outlasts s (.note level text) trivial trivial holds

theorem emit {s : Stage} {event : Event} (calm : event.isAboutDialog = false) (holds : motive s) :
    motive (s.emit event) :=
  outlasts s (.emit event) trivial (.inl calm) holds

/-- It is true when a scene has become the current one. -/
theorem arrive {id : String} (present : s.world.scenes.contains id) (holds : motive s) :
    motive (s.arrive id) :=
  outlasts.emit rfl (outlasts.note _ _ (outlasts s (.goTo id) present trivial holds))

/-- It is true when an actor has noticed the player. -/
theorem crossed {scene actor : String} {crossing : Crossing}
    (sees : s.sees? scene actor = some crossing) (holds : motive s) :
    motive (s.crossed scene actor crossing) :=
  outlasts.note _ _ (outlasts s _ (allowed_notice sees) trivial holds)

/-- It is true when an option has been chosen. -/
theorem chosen {opened : OpenDialog} {index : Nat} {option : DialogOption} {actor : Actor}
    (isOpen : s.world.openDialog = some opened)
    (chooses : (s.world.actor? opened.scene opened.actor).bind
      (·.chooseOption? opened.dialog index) = some (option, actor)) (holds : motive s) :
    motive (s.chosen opened option actor) := by
  have allowed : Deed.Allowed none s (.choose opened.scene opened.actor opened.dialog index) :=
    ⟨rfl, ⟨opened, isOpen, rfl, rfl, rfl⟩, by simp [chooses]⟩
  have done := outlasts s _ allowed trivial holds
  rw [← (world_chosen chooses).1] at done
  have noted := outlasts.note .info s!"dialog '{opened.dialog}': chose \"{option.text}\"" done
  have told := outlasts _ (.emit (.dialogClosed opened.actor opened.dialog)) trivial
    (.inr ⟨rfl, _, _, rfl⟩) noted
  unfold Stage.chosen
  simp only
  split
  · exact outlasts.emit rfl told
  · exact told

end OutlastsDeeds

/-- What is true of a stage stays true with whatever a move does by itself, and with each verb that
it drives. -/
structure Endures (motive : Stage → Prop) (s : Stage) (m : Move) (depth : Nat) : Prop where
  holds : motive s
  outlasts : OutlastsDeeds motive
  drives : ∀ driving h t, s.Drives depth m driving h t → motive t →
    motive (t.driveVerb (Action.perform depth) driving h).2

namespace Endures

variable {m : Move} {h : Handle} {t : Stage} {delta : Single} {actor : String}

theorem resumeVerb (endures : s.Endures motive m depth) (isDriven : s.Drives depth m .resume h t)
    (onStage : motive t) : motive (t.resumeVerb h depth).2 := by
  rw [resumeVerb_eq]
  exact endures.drives .resume h t isDriven onStage

/-- It is true when time has passed for some of the parked verbs. -/
theorem ticks (endures : s.Endures motive (.update delta) depth) {before after : List Handle}
    (parked : ((Deed.pass delta).apply s).world.parkedHandles = before ++ after) :
    motive (before.foldl (tickVerb (Action.perform depth) delta) ((Deed.pass delta).apply s)) := by
  apply foldl_lasts (endures.outlasts s (.pass delta) rfl trivial endures.holds) _ parked
  intro before h after parked onStage
  rw [tickVerb_eq]
  exact endures.drives _ h _ (.tick parked) onStage

/-- It is true when some of the onlookers have noticed the player. -/
theorem notices (endures : s.Endures motive (.update delta) depth)
    {before after : List (String × String)}
    (looks : (s.ticked (Action.perform depth) delta).onlookers = before ++ after) :
    motive (before.foldl
      (fun s onlooker => s.noticePlayer (Action.perform depth) onlooker.1 onlooker.2)
      (s.ticked (Action.perform depth) delta)) := by
  have ticked : motive (s.ticked (Action.perform depth) delta) :=
    endures.ticks (List.append_nil _).symm
  apply foldl_lasts ticked _ looks
  rintro before ⟨scene, actor⟩ after looks onStage
  generalize reached : before.foldl (fun s onlooker =>
    s.noticePlayer (Action.perform depth) onlooker.1 onlooker.2)
      (s.ticked (Action.perform depth) delta) = t at onStage
  simp only
  cases sees : t.sees? scene actor with
  | none =>
    rw [noticePlayer_of_unseen sees]
    exact onStage
  | some crossing =>
    rw [noticePlayer_of_sees sees]
    rcases exists_of_sees? sees with ⟨current, noticed, notices⟩
    have crossed := endures.outlasts.crossed sees onStage
    exact runNamed_lasts crossed fun h finds =>
      endures.drives .run h _ (.notice looks reached current notices finds) crossed

/-- It is true when the end of an animation has been told to some of the verbs that wait for it. -/
theorem tellings (endures : s.Endures motive (.animationFinished actor) depth)
    {before after : List Handle} (waits : s.animationWaiters actor = before ++ after) :
    motive (before.foldl (tellFinished actor depth) s) := by
  apply foldl_lasts endures.holds _ waits
  intro before h after waits onStage
  have resumed := endures.resumeVerb (.animationFinished waits) onStage
  generalize before.foldl (tellFinished actor depth) s = t at resumed
  unfold tellFinished
  rcases answer : t.resumeVerb h depth with ⟨reason | state, t'⟩ <;> rw [answer] at resumed
  · exact endures.outlasts.note _ _ resumed
  · exact resumed

/-- It is true when the verb of a chosen option has run. -/
theorem afterOption {index : Nat} (endures : s.Endures motive (.chooseOption index) depth)
    {opened : OpenDialog} {option : DialogOption} {actor : Actor}
    (isOpen : s.world.openDialog = some opened)
    (chooses : (s.world.actor? opened.scene opened.actor).bind
      (·.chooseOption? opened.dialog index) = some (option, actor)) :
    motive ((s.chosen opened option actor).afterOption opened option depth) := by
  have chose := endures.outlasts.chosen isOpen chooses endures.holds
  unfold Stage.afterOption
  split
  · next verb named =>
    exact runNamed_lasts chose fun h finds =>
      endures.drives .run h _ (.option isOpen chooses named finds) chose
  · exact chose

/-- It is true whenever the move drives a verb. -/
theorem of_drives (endures : s.Endures motive m depth) {driving : Driving}
    (isDriven : s.Drives depth m driving h t) : motive t := by
  cases isDriven with
  | begin current present finds => exact endures.outlasts.arrive present endures.holds
  | enterScene present finds => exact endures.outlasts.arrive present endures.holds
  | tick parked => exact endures.ticks parked
  | notice looks reached current notices finds =>
    subst reached
    exact endures.outlasts.crossed (sees?_of_notice current notices) (endures.notices looks)
  | runVerb finds => exact endures.holds
  | interact current present answers finds => exact endures.outlasts.note _ _ endures.holds
  | resumeVerb => exact endures.holds
  | cancelVerb => exact endures.holds
  | animationFinished waits => exact endures.tellings waits
  | option isOpen chooses named finds =>
    exact endures.outlasts.chosen isOpen chooses endures.holds
  | answer isOpen chooses => exact endures.afterOption isOpen chooses

/-- What goes to a scene is what a move does by itself, and the verb that it drives there. -/
private theorem goToScene (endures : s.Endures motive m depth) {id : String} {s' : Stage}
    (runs : ∀ h, s.world.scenes.contains id →
      (s.arrive id).resolve? (.scene id) "init" none = some h →
        s.Drives depth m .run h (s.arrive id))
    (went : s.goToScene (Action.perform depth) id = .ok s') : motive s' := by
  rw [goToScene_eq] at went
  split at went
  · next present =>
    cases went
    have arrived := endures.outlasts.arrive present endures.holds
    exact runNamed_lasts arrived fun h finds =>
      endures.drives .run h _ (runs h present finds) arrived
  · cases went

/-- It is true after the move. -/
theorem move (endures : s.Endures motive m depth) : motive (s.move m depth) := by
  have orElse : ∀ effect : Except Fault Stage, (∀ s', effect = .ok s' → motive s') →
      motive (effect.toOption.getD s) := by
    intro effect succeeds
    cases effect with
    | error reason => exact endures.holds
    | ok s' => exact succeeds s' rfl
  cases m with
  | begin =>
    apply orElse
    intro s' begun
    unfold Stage.begin at begun
    split at begun
    · next id current =>
      exact endures.goToScene (fun h present finds => .begin current present finds) begun
    · cases begun
  | enterScene id =>
    apply orElse
    intro s' went
    exact endures.goToScene (fun h present finds => .enterScene present finds) went
  | setPlayer actor =>
    apply orElse
    intro s' set
    rcases setPlayer_eq_ok set with ⟨present, text, rfl⟩
    exact endures.outlasts.note _ _
      (endures.outlasts s (.setPlayer actor) present trivial endures.holds)
  | update delta =>
    simp only [Stage.move, update_eq]
    exact endures.notices (List.append_nil _).symm
  | runVerb owner id target =>
    exact runNamed_lasts endures.holds fun h finds =>
      endures.drives .run h s (.runVerb finds) endures.holds
  | interact actor id target =>
    have noted : ∀ level text, motive (s.note level text) :=
      fun level text => endures.outlasts.note level text endures.holds
    simp only [Stage.move]
    unfold Stage.interact
    split
    · exact endures.holds
    · next scene current =>
      split
      · exact noted _ _
      · next found present =>
        split
        · next answers =>
          split
          · next h finds =>
            have ran := endures.drives .run h _ (.interact current present answers finds)
              (noted .info s!"player: {id} {actor} -> {h.text}")
            rwa [runHandle_eq] at ran
          · exact noted _ _
        · exact noted _ _
  | resumeVerb h => exact endures.resumeVerb .resumeVerb endures.holds
  | cancelVerb h =>
    simp only [Stage.move]
    rw [cancelVerb_eq (Action.perform depth)]
    exact endures.drives .cancel h s .cancelVerb endures.holds
  | animationFinished actor =>
    simp only [Stage.move]
    rw [animationFinished_eq]
    exact endures.tellings (List.append_nil _).symm
  | chooseOption index =>
    simp only [Stage.move]
    cases isOpen : s.world.openDialog with
    | none =>
      simp only [Stage.chooseOption, isOpen]
      exact endures.holds
    | some opened =>
      cases chooses : (s.world.actor? opened.scene opened.actor).bind
          (·.chooseOption? opened.dialog index) with
      | none =>
        simp only [Stage.chooseOption, isOpen, chooses]
        exact endures.holds
      | some choice =>
        rcases choice with ⟨option, actor⟩
        rw [chooseOption_eq isOpen chooses]
        exact endures.resumeVerb (.answer isOpen chooses) (endures.afterOption isOpen chooses)

end Endures

end Stage

end Stagecraft
