import Stagecraft.Proofs.Evaluation
import Stagecraft.Proofs.Moves

/-!
# What is attempted

A sweep comes to one action after the other, and performing an action may start a script, which is
swept in its turn.  Following this from the verbs that a move drives down to single actions finds
everything that is performed, or given time, while a world is played, and the frame in which it is.
-/

namespace Stagecraft

/-! ## Sweeps -/

/-- A sweep of actions in a frame, the first of them at position `ip`, comes to an action at a
position in another frame. -/
inductive Action.Comes (perform : Performer) :
    Nat → List Action → Frame → Nat → Action → Frame → Prop
  | here {ip action rest f} (calm : f.cancelRequested = false) :
      Comes perform ip (action :: rest) f ip action f
  | past {ip action rest f done outcome f' k later g} (calm : f.cancelRequested = false)
      (performed : perform action f = (done, outcome, f')) (goesOn : outcome ≠ .park)
      (comes : Comes perform (ip + 1) rest (f'.past ip done outcome) k later g) :
      Comes perform ip (action :: rest) f k later g

/-- The stage on which a scene has become the current one, before its verb `init` runs. -/
def Stage.arrive (s : Stage) (id : String) : Stage :=
  ((s.mapWorld fun w => { w with currentScene := some id }).info
    s!"current scene is now '{id}'").emit (.sceneChanged id)

theorem Stage.goToScene_eq (perform : Performer) (s : Stage) (id : String) :
    s.goToScene perform id =
      if s.world.scenes.contains id then
        .ok ((s.arrive id).runNamed perform (.scene id) "init" none).2
      else .error (.noScene id) := rfl

/-- The frame in which the verb of a handle is started when it is run. -/
def Frame.begin (h : Handle) (s : Stage) : Frame :=
  (Frame.enter h (s.lend h)).info s!">>> running verb {h.key.text}"

/-- Performing an action in a frame starts a script in another frame: that of a condition that
holds, the actions of a verb that is run in this one, for that verb's owner, or the verb `init` of a
scene that becomes the current one. -/
inductive Action.Starts : Action → Frame → Script Action → Frame → Prop
  | conditional {condition script f} (holds : condition.holds f = .ok true) :
      Starts (.conditional condition script) f script
        (f.info s!"└─ action: Conditional(true), entering {script.length} action(s)")
  | runVerb {whose verb target bound script f owner actions f'}
      (found : f.inlineVerb whose verb target = .ok (some (owner, actions), f')) :
      Starts (.runVerb whose verb target bound script) f (.ofActions actions)
        (f'.enterScope (some owner))
  | changeScene {scene f s h script} (present : f.stage.world.scenes.contains scene)
      (arrives : (f.info s!"└─ action: ChangeScene({scene})").stage.arrive scene = s)
      (finds : s.resolve? (.scene scene) "init" none = some h) (idle : h ∉ s.executing)
      (found : s.world.script? h = some script) :
      Starts (.changeScene scene) f script (.begin h s)

/-- Performing an action in a frame, with a depth down to which scripts may start each other, comes
to performing an action in another frame: itself, or one of a script that is started. -/
inductive Action.Reaches : Nat → Action → Frame → Action → Frame → Prop
  | itself {depth action f} : Reaches depth action f action f
  | inside {depth action f script g k next g' reached r} (starts : action.Starts f script g)
      (comes : Action.Comes (Action.perform depth) 0 script.reset.actions (script.release g)
        k next g')
      (reaches : Reaches depth next g' reached r) : Reaches (depth + 1) action f reached r

/-! ## Driving -/

/-- What becomes of the action at a position, and of the frame, when a parked script goes on past
that action because it is resumed or given time, if it does. -/
def Action.passes? (perform : Performer) (ip : Nat) (action : Action) (f : Frame) :
    Driving → Option (Action × Frame)
  | .resume =>
    match action.resume perform f with
    | .ok (action, .finished, f) => some (action, f)
    | _ => none
  | .tick delta =>
    match action.tick perform delta f with
    | (action, .ok true, f) => some (action, f)
    | (action, .error reason, f) =>
      some (action, f.error
        s!"{f.handle.key.text} step {ip} failed while in progress: {reason.message}")
    | (_, .ok false, _) => none
  | .run | .reenter | .cancel => none

/-- A parked script that is resumed or given time goes on with a sweep of actions, the first of them
at a position, in a frame.  An inner script goes on first, and the outer one when the action around
it is over. -/
inductive Script.GoesOn (perform : Performer) (driving : Driving) :
    Script Action → Frame → Nat → List Action → Frame → Prop
  | inside {actions ip action script bound f below swept g} (here : actions[ip]? = some action)
      (inner : action.inner? = some (script, bound))
      (goesOn : GoesOn perform driving script (f.enterScope bound) below swept g) :
      GoesOn perform driving ⟨actions, some ip, true⟩ f below swept g
  | past {actions ip action f action' f'} (here : actions[ip]? = some action)
      (passes : action.passes? perform ip f driving = some (action', f')) :
      GoesOn perform driving ⟨actions, some ip, true⟩ f (ip + 1) (actions.drop (ip + 1)) f'

/-- Driving a script in a frame sweeps actions, the first of them at a position, in a frame.
Cancelling performs nothing. -/
def Driving.Sweeps (perform : Performer) (driving : Driving) (s : Script Action) (f : Frame)
    (ip : Nat) (actions : List Action) (g : Frame) : Prop :=
  match driving with
  | .run => ip = 0 ∧ actions = s.reset.actions ∧
      g = s.release (f.info s!">>> running verb {f.handle.key.text}")
  | .reenter => s.IsBetween ∧ s.ip = some ip ∧ actions = s.actions.drop ip ∧ g = f
  | .resume => s.GoesOn perform .resume f ip actions g
  | .tick delta => s.GoesOn perform (.tick delta) f ip actions g
  | .cancel => False

/-- What can be attempted: to perform an action, or to let time pass for one on which a verb is
parked. -/
inductive Attempt where
  | perform (action : Action)
  | tick (delta : Single) (action : Action)

/-- The action that is attempted, or given time. -/
def Attempt.action : Attempt → Action
  | .perform action => action
  | .tick _ action => action

/-- Why an attempt in a frame fails, if it does. -/
def Attempt.fault? (depth : Nat) (f : Frame) : Attempt → Option Fault
  | .perform action =>
    match (Action.perform depth action f).2.1 with
    | .fault reason => some reason
    | _ => none
  | .tick delta action =>
    match (action.tick (Action.perform depth) delta f).2.1 with
    | .error reason => some reason
    | .ok _ => none

/-- Only a walk can fail while time passes for an action. -/
theorem Action.exists_goto_of_tick_error {perform : Performer} {delta : Single} {action : Action}
    {f : Frame} {reason : Fault} (failed : (action.tick perform delta f).2.1 = .error reason) :
    ∃ actor pos speed origin, action = .goto actor pos speed origin ∧
      f.walkOn actor pos speed delta = .error reason ∧
        action.tick perform delta f = (action, .error reason, f) := by
  cases action with
  | goto actor pos speed origin =>
    refine ⟨actor, pos, speed, origin, rfl, ?_⟩
    simp only [Action.tick] at failed ⊢
    split at failed
    · cases failed
    · next walks =>
      cases failed
      exact ⟨walks, rfl⟩
  | playAnimation =>
    simp only [Action.tick] at failed
    split at failed <;> cases failed
  | _ => cases failed

/-- Driving a script in a frame attempts something in another frame: an action that a sweep comes to
is performed, with all it starts, or time passes for the innermost parked action. -/
inductive Driving.Attempts (depth : Nat) :
    Driving → Script Action → Frame → Attempt → Frame → Prop
  | perform {driving s f ip actions g k first g' action r}
      (sweeps : driving.Sweeps (Action.perform depth) s f ip actions g)
      (comes : Action.Comes (Action.perform depth) ip actions g k first g')
      (reaches : first.Reaches depth g' action r) : Attempts depth driving s f (.perform action) r
  | tick {delta s f action owner} (leaf : s.leaf? f.scope = some (action, owner)) :
      Attempts depth (.tick delta) s f (.tick delta action) { f with scope := owner }

/-! ## Moves -/

namespace Stage

/-- Tell a verb that an animation of an actor is over. -/
def tellFinished (actor : String) (depth : Nat) (s : Stage) (h : Handle) : Stage :=
  match s.resumeVerb h depth with
  | (.ok _, s) => s
  | (.error reason, s) => s.error s!"animation finished on '{actor}': {reason.message}"

/-- The end of an animation is told to one verb after the other. -/
theorem animationFinished_eq (s : Stage) (actor : String) (depth : Nat) :
    (s.animationFinished actor depth).2 =
      (s.animationWaiters actor).foldl (tellFinished actor depth) s := by
  unfold animationFinished
  generalize s.animationWaiters actor = waiters
  generalize (0 : Nat) = count
  induction waiters generalizing s count with
  | nil => rfl
  | cons h rest ih =>
    rcases answer : s.resumeVerb h depth with ⟨reason | state, after⟩ <;>
      simp only [List.foldl_cons, tellFinished, answer, ih]

/-- A move of the front end, which may go down to a depth, drives a verb on a stage. -/
inductive Drives (s : Stage) (depth : Nat) : Move → Driving → Handle → Stage → Prop
  | begin {id h} (current : s.world.currentScene = some id)
      (present : s.world.scenes.contains id)
      (finds : (s.arrive id).resolve? (.scene id) "init" none = some h) :
      Drives s depth .begin .run h (s.arrive id)
  | enterScene {id h} (present : s.world.scenes.contains id)
      (finds : (s.arrive id).resolve? (.scene id) "init" none = some h) :
      Drives s depth (.enterScene id) .run h (s.arrive id)
  | tick {delta before h after}
      (parked : ((Deed.pass delta).apply s).world.parkedHandles = before ++ h :: after) :
      Drives s depth (.update delta) (.tick delta) h
        (before.foldl (tickVerb (Action.perform depth) delta) ((Deed.pass delta).apply s))
  | notice {delta before scene actor after t crossing noticed h}
      (looks : (s.ticked (Action.perform depth) delta).onlookers =
        before ++ (scene, actor) :: after)
      (reached : before.foldl
        (fun s onlooker => s.noticePlayer (Action.perform depth) onlooker.1 onlooker.2)
        (s.ticked (Action.perform depth) delta) = t)
      (current : t.world.currentScene = some scene)
      (notices : (t.world.scene? scene).bind (·.notice actor t.world.player) =
        some (crossing, noticed))
      (finds : (t.crossed scene actor crossing).resolve? (.actor scene actor) crossing.verbId none =
        some h) :
      Drives s depth (.update delta) .run h (t.crossed scene actor crossing)
  | runVerb {owner id target h} (finds : s.resolve? owner id target = some h) :
      Drives s depth (.runVerb owner id target) .run h s
  | interact {scene actor found id target h} (current : s.world.currentScene = some scene)
      (present : s.world.actor? scene actor = some found) (answers : found.isInteractive)
      (finds : s.resolveInteraction? scene actor id target = some h) :
      Drives s depth (.interact actor id target) .run h
        (s.info s!"player: {id} {actor} -> {h.text}")
  | resumeVerb {h} : Drives s depth (.resumeVerb h) .resume h s
  | cancelVerb {h} : Drives s depth (.cancelVerb h) .cancel h s
  | animationFinished {actor before h after}
      (waits : s.animationWaiters actor = before ++ h :: after) :
      Drives s depth (.animationFinished actor) .resume h
        (before.foldl (tellFinished actor depth) s)
  | option {index opened option actor verb h} (isOpen : s.world.openDialog = some opened)
      (chooses : (s.world.actor? opened.scene opened.actor).bind
        (·.chooseOption? opened.dialog index) = some (option, actor))
      (named : option.verb = some verb)
      (finds : (s.chosen opened option actor).resolve? (.actor opened.scene opened.actor) verb
        none = some h) :
      Drives s depth (.chooseOption index) .run h (s.chosen opened option actor)
  | answer {index opened option actor} (isOpen : s.world.openDialog = some opened)
      (chooses : (s.world.actor? opened.scene opened.actor).bind
        (·.chooseOption? opened.dialog index) = some (option, actor)) :
      Drives s depth (.chooseOption index) .resume opened.handle
        ((s.chosen opened option actor).afterOption opened option depth)

/-- In a move of the front end, which may go down to a depth, something is attempted in a frame. -/
def Attempts (s : Stage) (m : Move) (depth : Nat) (attempt : Attempt) (g : Frame) : Prop :=
  ∃ driving h t script, s.Drives depth m driving h t ∧ h ∉ t.executing ∧
    t.world.script? h = some script ∧
      driving.Attempts depth script (.enter h (t.lend h)) attempt g

end Stage

end Stagecraft
