import Stagecraft.Play.Cancel
import Stagecraft.Text.Quoted

/-!
# Effects of single actions

Each action that has no script inside has an effect on the frame.  It either lets the verb proceed
or parks it; a fault leaves the frame as it was, except that what is announced before the attempt
stays announced.
-/

namespace Stagecraft

/-- What a script does after an action: go on, park, or go on after a failure. -/
inductive Outcome where
  | proceed
  | park
  | fault (reason : Fault)
deriving Inhabited

/-- The outcome of an action around a script that has been run. -/
def Outcome.ofRunState : RunState → Outcome
  | .suspended => .park
  | .finished => .proceed

/-- The outcome of an action that parks only on demand. -/
def Outcome.parkIf (waits : Bool) : Outcome := if waits then .park else .proceed

namespace Frame

/-- The result of an effect; a fault leaves the frame alone. -/
def attempt (f : Frame) (effect : Except Fault (Outcome × Frame)) : Outcome × Frame :=
  match effect with
  | .ok result => result
  | .error reason => (.fault reason, f)

/-- Give something a state. -/
def setState (f : Frame) (target : Target) (state : Option String) :
    Except Fault (Outcome × Frame) := do
  let owner ← f.target target
  if (f.stage.world.state? owner).isNone then .error (.noOwner owner)
  else
    .ok (.proceed, (f.mapWorld (·.setState owner state)).info
      s!"└─ action: SetState({owner.text}, {Text.shownOptionText state})")

/-- Give a property of something a value. -/
def setProperty (f : Frame) (target : Target) (name : String) (value : Option String) :
    Except Fault (Outcome × Frame) := do
  let owner ← f.target target
  if (f.stage.world.properties? owner).isNone then .error (.noOwner owner)
  else
    let change :=
      match value with
      | some value => s!"{name} = \"{value}\""
      | none => s!"{name} removed"
    .ok (.proceed, (f.mapWorld (·.setProperty owner name value)).info
      s!"└─ action: SetProperty({owner.text}, {change})")

/-- Change how an actor is shown. -/
def setActorAttr (f : Frame) (actor : Option String) (visible interaction : Option Bool)
    (layer : Option String) : Except Fault (Outcome × Frame) := do
  let (sceneId, id) ← f.actorRef actor
  match f.stage.world.scene? sceneId with
  | none => .error (.noScene sceneId)
  | some scene =>
    let moved ←
      match layer with
      | none => if scene.actors.contains id then .ok scene else .error (.noActor id sceneId)
      | some layer =>
        match scene.moveToLayer? id layer with
        | some scene => .ok scene
        | none => .error (.noActor id scene.id)
    let shown :=
      { moved with
        actors := moved.actors.modify id fun a =>
          { a with
            visible := visible.getD a.visible
            interaction := interaction.getD a.interaction } }
    .ok (.proceed, (f.mapWorld (·.modifyScene sceneId fun _ => shown)).info
      (s!"└─ action: SetActorAttr({id}, visible {Text.shownOptionBool visible}, " ++
        s!"interaction {Text.shownOptionBool interaction}, layer {Text.shownOptionText layer})"))

/-- Put an actor somewhere. -/
def putActor (f : Frame) (actor : Option String) (pos : Point) :
    Except Fault (Outcome × Frame) := do
  let (scene, id, found) ← f.actor actor
  .ok (.proceed, (f.mapWorld (·.modifyActor scene id (·.moveTo pos))).info
    s!"└─ action: Position({found.id}, {showSingle pos.x}, {showSingle pos.y})")

/-- Let an actor set out for a place; the answer also tells where the walk begins, unless the actor
is there already. -/
def startWalk (f : Frame) (actor : Option String) (pos : Point) :
    Except Fault (Option Point × Frame) := do
  let (_, _, walker) ← f.actor actor
  let start := walker.position
  if start.sameAs pos then
    .ok (none, f.info
      s!"└─ action: Goto({walker.id}) already at ({showSingle pos.x}, {showSingle pos.y})")
  else
    .ok (some start, (f.info
      (s!"└─ action: Goto({walker.id}) from ({showSingle start.x}, {showSingle start.y}) " ++
        s!"to ({showSingle pos.x}, {showSingle pos.y})")).emit (.walk walker.id pos))

/-- Show an animation of an actor. -/
def playAnimation (f : Frame) (actor : Option String) (animation : String) (waits : Bool) :
    Except Fault (Outcome × Frame) := do
  let (scene, id, found) ← f.actor actor
  let f := f.mapWorld (·.modifyActor scene id fun a => { a with animation := some animation })
  .ok (.parkIf waits, (f.info
    (s!"└─ action: PlayAnimation({found.id}, \"{animation}\", " ++
      s!"wait: {Text.shownBool waits})")).emit (.animation found.id animation))

/-- Start a sound of an actor. -/
def playSound (f : Frame) (actor : Option String) (sound : String) :
    Except Fault (Outcome × Frame) := do
  let (scene, id, found) ← f.actor actor
  match found.sound? sound with
  | none => .error (.noSound found.id sound)
  | some effect =>
    let f := f.mapWorld (·.modifyActor scene id fun a => { a with playingSound := some sound })
    .ok (.proceed, (f.info s!"└─ action: PlaySound({found.id}, \"{sound}\")").emit
      (.sound found.id effect.id effect.file effect.looping effect.volume))

/-- Let an actor speak. -/
def say (f : Frame) (actor : Option String) (text : String) (waits : Bool) :
    Except Fault (Outcome × Frame) := do
  let (_, _, found) ← f.actor actor
  .ok (.parkIf waits,
    (f.info s!"└─ action: Say({found.id}, \"{text}\")").emit (.speech found.id text))

/-- Open a dialog of an actor.  A dialog without options left is passed over, and the dialog of
another verb has to be answered first. -/
def showDialog (f : Frame) (actor : Option String) (dialog : String) :
    Except Fault (Outcome × Frame) := do
  let (scene, id, found) ← f.actor actor
  match found.dialog? dialog with
  | none => .error (.noDialog id dialog)
  | some shown =>
    let options := shown.visibleOptions.map (·.text)
    let count := options.length
    if options.isEmpty then
      .ok (.proceed, f.info s!"└─ action: ShowDialog({id}, {dialog}) has no options left, skipped")
    else
      let opened : OpenDialog := ⟨f.handle, scene, id, dialog⟩
      let opening := ((f.info
          s!"└─ action: ShowDialog({id}, {dialog}) with {count} option(s)").mapWorld
            fun w => { w with openDialog := some opened }).emit (.dialogOpened id dialog options)
      match f.stage.world.openDialog with
      | none => .ok (.park, opening)
      | some other =>
        if other.handle = f.handle then .ok (.park, opening)
        else .error (.dialogOpen other.dialog other.actor)

/-- Find the verb to run inside this one, and give its owner and its actions without progress.
Nothing is found if the owner has no such verb. -/
def inlineVerb (f : Frame) (whose : Target) (verb : String) (target : Option String) :
    Except Fault (Option (Owner × List Action) × Frame) := do
  let owner ← f.target whose
  match f.stage.resolve? owner verb target with
  | none =>
    .ok (none, f.info s!"└─ action: RunVerb({verb}) on {owner.text}: no such verb, skipped")
  | some handle =>
    if handle = f.handle then .error (.runsItself handle)
    else
      match f.stage.world.script? handle with
      | none => .error (.alreadyRunning handle)
      | some script =>
        .ok (some (owner, script.reset.actions), f.info s!"└─ action: RunVerb({handle.text})")

/-- Cancel a verb.  A verb that names itself is asked to end after this action. -/
def cancelNamed (f : Frame) (whose : Target) (verb : String) (target : Option String) :
    Except Fault (Outcome × Frame) := do
  let owner ← f.target whose
  match f.stage.resolve? owner verb target with
  | none =>
    .ok (.proceed,
      f.info s!"└─ action: CancelVerb({verb}) on {owner.text}: no such verb, skipped")
  | some handle =>
    if handle = f.handle then
      let f := f.info s!"└─ action: CancelVerb({handle.text}), cancelling self"
      .ok (.proceed, { f with cancelRequested := true })
    else
      let f := f.info s!"└─ action: CancelVerb({handle.text})"
      let (cancelled, stage) := f.stage.cancelVerb handle
      let stage :=
        if cancelled then stage
        else stage.warn
          s!"verb {handle.text} is executing further up the stack and was not cancelled"
      .ok (.proceed, { f with stage })

/-- Give an owner a new verb.  The owner of the running verb cannot get one, since its table is
about to take the running verb back. -/
def addVerb (f : Frame) (whose : Target) (key : Key) (script : Script Action) :
    Except Fault (Outcome × Frame) := do
  let owner ← f.target whose
  if owner = f.handle.owner then .error (.ownerExecuting owner f.handle.key)
  else if (f.stage.world.verbs? owner).isNone then .error (.noOwner owner)
  else
    .ok (.proceed, (f.info s!"└─ action: AddVerb({owner.text}, {key.text})").mapWorld
      (·.modifyVerbs owner (·.insert key script.reset)))

/-- Take an actor out of the scene in which the verb acts. -/
def removeActor (f : Frame) (id : String) : Except Fault (Outcome × Frame) := do
  let (sceneId, scene) ← f.scene
  match scene.removeActor? id with
  | none => .error (.noActor id scene.id)
  | some (_, left) =>
    .ok (.proceed, (f.mapWorld (·.modifyScene sceneId fun _ => left)).info
      s!"actor '{id}' removed from scene '{scene.id}'")

end Frame

/-- Give control to another actor of the current scene, or to nobody.  The player's own actor does
not answer to the player. -/
def Stage.setPlayer (s : Stage) (actor : Option String) : Except Fault Stage :=
  let present :=
    match actor with
    | none => true
    | some id => (s.world.current?.bind (·.actor? id)).isSome
  if present then
    let w := s.world.modifyPlayer fun a => { a with interaction := true }
    let w := { w with player := actor }.modifyPlayer fun a => { a with interaction := false }
    .ok ({ s with world := w }.info s!"player is now {Text.shownOptionText actor}")
  else .error (.notInCurrentScene (actor.getD ""))

end Stagecraft
