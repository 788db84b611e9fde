import Stagecraft.Play.Continue

/-!
# Playing a world

These are the operations with which a front end plays a world: entering scenes, handing over
control, letting time pass, running and ending verbs, and answering dialogs.  Each takes a depth to
which verbs may run each other, and without one takes a depth that no verb of the world exceeds.
-/

namespace Stagecraft

namespace Stage

/-! ## Scenes -/

/-- Make a scene the current one and run its verb `init`. -/
def enterScene (s : Stage) (id : String) (depth : Nat := s.depthBound) : Except Fault Stage :=
  s.goToScene (Action.perform depth) id

/-- Enter the current scene at the beginning of a game. -/
def begin (s : Stage) (depth : Nat := s.depthBound) : Except Fault Stage :=
  match s.world.currentScene with
  | some id => s.enterScene id depth
  | none => .error .nothingToStart

/-! ## Running verbs -/

/-- Find a verb on an owner and run it. -/
def runVerb (s : Stage) (owner : Owner) (id : String) (target : Option String)
    (depth : Nat := s.depthBound) : Option RunState × Stage :=
  s.runNamed (Action.perform depth) owner id target

/-- The first handle that a verb has on an actor, on its scene or on the world. -/
def resolveInteraction? (s : Stage) (scene actor id : String) (target : Option String) :
    Option Handle :=
  [Owner.actor scene actor, Owner.scene scene, Owner.world].findSome? fun owner =>
    s.resolve? owner id target

/-- The player does something to an actor, perhaps with another thing.  The verb is looked for on
the actor, then on the scene, then in the world. -/
def interact (s : Stage) (actor id : String) (target : Option String)
    (depth : Nat := s.depthBound) : Option RunState × Stage :=
  match s.world.currentScene with
  | none => (none, s)
  | some scene =>
    match s.world.actor? scene actor with
    | none => (none, s.warn s!"interact: no actor '{actor}' in scene '{scene}'")
    | some found =>
      if found.isInteractive then
        match s.resolveInteraction? scene actor id target with
        | some handle =>
          (s.info s!"player: {id} {actor} -> {handle.text}").runHandle
            (Action.perform depth) handle
        | none => (none, s.info s!"player: {id} {actor}: nothing happens")
      else (none, s.info s!"actor '{actor}' does not accept interaction")

/-- Tell a parked verb that what it waits for has arrived. -/
def resumeVerb (s : Stage) (handle : Handle) (depth : Nat := s.depthBound) :
    Except VerbError RunState × Stage :=
  let (answer, s) := s.withVerb handle fun script stage =>
    match script.resume (Action.perform depth) (Frame.enter handle stage) with
    | .error reason => (script, Except.error reason, stage)
    | .ok (script, state, f) =>
      let (script, state, f) := f.settle script state
      (script, .ok state, f.stage)
  (answer.getD (.error (.notFound handle)), s)

/-! ## Time -/

/-- Let time pass for one verb. -/
def tickVerb (perform : Performer) (delta : Single) (s : Stage) (handle : Handle) : Stage :=
  (s.withVerb handle fun script stage =>
    let (script, state, f) := script.tick perform delta (Frame.enter handle stage)
    let (script, state, f) := f.settle script state
    (script, state, f.stage)).2

/-- Let one actor of a scene notice the player, and run its verb for what it notices.  Nothing
happens when the scene is no longer the current one. -/
def noticePlayer (perform : Performer) (scene : String) (s : Stage) (actor : String) : Stage :=
  if s.world.currentScene = some scene then
    match (s.world.scene? scene).bind (·.notice actor s.world.player) with
    | some (crossing, noticed) =>
      let s := (s.mapWorld (·.modifyScene scene fun _ => noticed)).info
        s!"player crossed into/out of '{actor}': {crossing.name}"
      (s.runNamed perform (.actor scene actor) crossing.verbId none).2
    | none => s
  else s

/-- Let time pass.  The parked verbs get their time first, and then the actors of the current scene
notice the player one after the other. -/
def update (s : Stage) (delta : Single) (depth : Nat := s.depthBound) : Stage :=
  let perform := Action.perform depth
  let s := s.mapWorld fun w => { w with elapsed := w.elapsed + delta.toDouble }
  let s := s.world.parkedHandles.foldl (tickVerb perform delta) s
  match s.world.currentScene with
  | none => s
  | some scene =>
    match s.world.scene? scene with
    | none => s
    | some place => place.actors.names.foldl (noticePlayer perform scene) s

/-! ## Events that verbs wait for -/

/-- Whether an action waits for the end of an animation of the given actor. -/
def awaitsAnimation (actor : String) : Action × Owner → Bool
  | (.playAnimation animated _ _ true _, owner) => animated.or owner.actorId? == some actor
  | _ => false

/-- The parked verbs that wait for the end of an animation of the given actor. -/
def animationWaiters (s : Stage) (actor : String) : List Handle :=
  s.world.parkedHandles.filter fun handle => (s.world.leaf? handle).any (awaitsAnimation actor)

/-- An animation of an actor has ended: the verbs waiting for it go on, and their number is told. -/
def animationFinished (s : Stage) (actor : String) (depth : Nat := s.depthBound) : Nat × Stage :=
  (s.animationWaiters actor).foldl (fun (count, s) handle =>
    match s.resumeVerb handle depth with
    | (.ok _, s) => (count + 1, s)
    | (.error reason, s) =>
      (count, s.error s!"animation finished on '{actor}': {reason.message}")) (0, s)

/-- The player chooses an option of the open dialog by its index among the visible ones.  The
option's verb runs on the dialog's actor, and then the verb that opened the dialog goes on. -/
def chooseOption (s : Stage) (index : Nat) (depth : Nat := s.depthBound) :
    Except Fault RunState × Stage :=
  match s.world.openDialog with
  | none => (.error .noOpenDialog, s)
  | some dialog =>
    match (s.world.actor? dialog.scene dialog.actor).bind
        (·.chooseOption? dialog.dialog index) with
    | none => (.error (.noOption dialog.dialog (index + 1)), s)
    | some (option, actor) =>
      let s := (s.mapWorld fun w =>
        { w with openDialog := none }.modifyActor dialog.scene dialog.actor fun _ => actor).info
          s!"dialog '{dialog.dialog}': chose \"{option.text}\""
      let s := s.emit (.dialogClosed dialog.actor dialog.dialog)
      let s :=
        match s.world.player with
        | some player => s.emit (.speech player option.text)
        | none => s
      let s :=
        match option.verb with
        | some verb => (s.runVerb (.actor dialog.scene dialog.actor) verb none depth).2
        | none => s
      let (answer, s) := s.resumeVerb dialog.handle depth
      (answer.mapError .verb, s)

/-! ## Taking up a stored world -/

/-- Run a verb on from where it was stored, if it was stored between two actions. -/
def reenterVerb (perform : Performer) (s : Stage) (handle : Handle) : Stage :=
  match s.world.script? handle with
  | none => s
  | some script =>
    if script.isRunning && !script.isParked then
      ((s.info s!"re-entering verb {handle.text} after load").withVerb handle
        fun script stage =>
          let (script, state, f) := script.reenter perform (Frame.enter handle stage)
          let (script, state, f) := f.settle script state
          (script, state, f.stage)).2
    else s

end Stage

/-- The first thing that is wrong with the verbs or the open dialog of a world. -/
def World.verbError? (w : World) : Option VerbError :=
  let inVerb := w.handles.findSome? fun handle =>
    (w.script? handle).bind fun script =>
      script.corruption?.map (VerbError.corrupt handle.key.text)
  let inDialog := w.openDialog.bind fun dialog =>
    match w.leaf? dialog.handle with
    | some (.showDialog .., _) => none
    | _ => some (.corrupt dialog.handle.text (.dialogNotAwaited dialog.dialog))
  inVerb.or inDialog

namespace Stage

/-- Check a stored world and run on the verbs that were stored between two actions.  Parked verbs
stay where they are. -/
def restore (s : Stage) (depth : Nat := s.depthBound) : Except VerbError Stage :=
  match s.world.verbError? with
  | some reason => .error reason
  | none => .ok (s.world.handles.foldl (reenterVerb (Action.perform depth)) s)

end Stage

end Stagecraft
