import Stagecraft.Proofs.Effect

/-!
# Actions in place

An action changes the frame as it goes along, and if it fails the frame stays as it is at that
point, together with everything that has been changed before.  Told in this way, an action that
fails might leave the frame half changed.  It does not: what may be missing is looked up before
anything is changed, and the one thing that is looked up afterwards, an actor that has been moved to
another layer, is then still there.  So performing an action in place comes to performing it.
-/

namespace Stagecraft

/-- Something that is done in place: it changes a frame as it goes along, and if it fails the frame
stays as it is then. -/
def InPlace (α : Type) : Type := Frame → Except Fault α × Frame

/-- What an effect comes to: its answer and its frame, or if it has failed, the frame before it. -/
def Frame.leftBy {α : Type} (f : Frame) : Except Fault (α × Frame) → Except Fault α × Frame
  | .ok (answer, f') => (.ok answer, f')
  | .error reason => (.error reason, f)

namespace InPlace

variable {α β : Type}

/-- What is done in place is done in turn until something fails. -/
instance : Monad InPlace where
  pure answer f := (.ok answer, f)
  bind first next f :=
    match first f with
    | (.ok answer, f) => next answer f
    | (.error reason, f) => (.error reason, f)

/-! ## Steps -/

/-- Look at the frame. -/
def look (view : Frame → α) : InPlace α := fun f => (.ok (view f), f)

/-- Look for something in the frame, which may fail. -/
def read (view : Frame → Except Fault α) : InPlace α := fun f => (view f, f)

/-- Fail unless something is so. -/
def check (holds : Frame → Bool) (reason : Fault) : InPlace Unit :=
  read fun f => if holds f then .ok () else .error reason

/-- Look for something in the frame that may be missing. -/
def find (view : Frame → Option α) (missing : Fault) : InPlace α :=
  read fun f => (view f).elim (.error missing) .ok

/-- Change the frame and answer something. -/
def act (step : Frame → α × Frame) : InPlace α := fun f => ((.ok (step f).1), (step f).2)

/-- Change the frame. -/
def change (step : Frame → Frame) : InPlace Unit := fun f => (.ok (), step f)

/-- Change the world. -/
def changeWorld (step : World → World) : InPlace Unit := change (·.mapWorld step)

/-- Note what is done. -/
def note (text : String) : InPlace Unit := change (·.info text)

/-- Tell the front end about something. -/
def emit (event : Event) : InPlace Unit := change (·.emit event)

variable {f : Frame}

/-- To look for something and go on comes to an effect that looks for it first, if what follows
does. -/
theorem read_bind {view : Frame → Except Fault α} {next : α → InPlace β}
    {effect : α → Except Fault (β × Frame)}
    (rest : ∀ answer, view f = .ok answer → next answer f = f.leftBy (effect answer)) :
    (read view >>= next) f = f.leftBy (view f >>= effect) := by
  have looked : (read view >>= next) f =
      match view f with
      | .ok answer => next answer f
      | .error reason => (.error reason, f) := by
    simp only [bind, read]
    cases view f <;> rfl
  rw [looked]
  cases found : view f with
  | error reason => rfl
  | ok answer => exact rest answer found

theorem act_bind (step : Frame → α × Frame) (next : α → InPlace β) :
    (act step >>= next) f = next (step f).1 (step f).2 := rfl

theorem note_bind (text : String) (next : Unit → InPlace β) :
    (note text >>= next) f = next () (f.info text) := rfl

theorem look_bind (view : Frame → α) (next : α → InPlace β) :
    (look view >>= next) f = next (view f) f := rfl

/-- To go on if something is so comes to an effect that fails if it is not. -/
theorem check_bind {holds : Frame → Bool} {reason : Fault} {next : Unit → InPlace β}
    {effect : Except Fault (β × Frame)} (fails : holds f = false → effect = .error reason)
    (rest : holds f = true → next () f = f.leftBy effect) :
    (check holds reason >>= next) f = f.leftBy effect := by
  have looked : (check holds reason >>= next) f =
      if holds f then next () f else (.error reason, f) := by
    simp only [bind, check, read]
    cases holds f <;> rfl
  rw [looked]
  cases holding : holds f with
  | false =>
    rw [fails holding]
    rfl
  | true => exact rest holding

theorem find_bind_none {view : Frame → Option α} (absent : view f = none) (missing : Fault)
    (next : α → InPlace β) : (find view missing >>= next) f = (.error missing, f) := by
  simp only [bind, find, read, absent]
  rfl

theorem find_bind_some {view : Frame → Option α} {answer : α} (present : view f = some answer)
    (missing : Fault) (next : α → InPlace β) : (find view missing >>= next) f = next answer f := by
  simp only [bind, find, read, present]
  rfl

/-- To go on with something that may be missing comes to an effect that fails if it is. -/
theorem find_bind {view : Frame → Option α} {missing : Fault} {next : α → InPlace β}
    {effect : Except Fault (β × Frame)} (absent : view f = none → effect = .error missing)
    (present : ∀ answer, view f = some answer → next answer f = f.leftBy effect) :
    (find view missing >>= next) f = f.leftBy effect := by
  cases found : view f with
  | none =>
    rw [find_bind_none found, absent found]
    rfl
  | some answer =>
    rw [find_bind_some found]
    exact present answer found

/-! ## Single actions -/

/-- Give something a state. -/
def setState (target : Target) (state : Option String) : InPlace Outcome := do
  let owner ← read (·.target target)
  let _ ← find (·.stage.world.state? owner) (.noOwner owner)
  changeWorld (·.setState owner state)
  note s!"└─ action: SetState({owner.text}, {Text.shownOptionText state})"
  return .proceed

theorem setState_eq (target : Target) (state : Option String) (f : Frame) :
    setState target state f = f.leftBy (f.setState target state) := by
  apply read_bind
  intro owner _
  apply find_bind
  · intro absent
    rw [absent]
    rfl
  · intro old present
    rw [present]
    rfl

/-- Give a property of something a value. -/
def setProperty (target : Target) (name : String) (value : Option String) : InPlace Outcome := do
  let owner ← read (·.target target)
  let _ ← find (·.stage.world.properties? owner) (.noOwner owner)
  changeWorld (·.setProperty owner name value)
  let change :=
    match value with
    | some value => s!"{name} = \"{value}\""
    | none => s!"{name} removed"
  note s!"└─ action: SetProperty({owner.text}, {change})"
  return .proceed

theorem setProperty_eq (target : Target) (name : String) (value : Option String) (f : Frame) :
    setProperty target name value f = f.leftBy (f.setProperty target name value) := by
  apply read_bind
  intro owner _
  apply find_bind
  · intro absent
    rw [absent]
    rfl
  · intro old present
    rw [present]
    rfl

/-- Put an actor somewhere. -/
def putActor (actor : Option String) (pos : Point) : InPlace Outcome := do
  let (scene, id, found) ← read (·.actor actor)
  changeWorld (·.modifyActor scene id (·.moveTo pos))
  note s!"└─ action: Position({found.id}, {showSingle pos.x}, {showSingle pos.y})"
  return .proceed

theorem putActor_eq (actor : Option String) (pos : Point) (f : Frame) :
    putActor actor pos f = f.leftBy (f.putActor actor pos) := by
  apply read_bind
  intro _ _
  rfl

/-- Let an actor set out for a place. -/
def startWalk (actor : Option String) (pos : Point) : InPlace (Option Point) := do
  let (_, _, walker) ← read (·.actor actor)
  let start := walker.position
  if start.sameAs pos then
    note s!"└─ action: Goto({walker.id}) already at ({showSingle pos.x}, {showSingle pos.y})"
    return none
  else
    note (s!"└─ action: Goto({walker.id}) from ({showSingle start.x}, {showSingle start.y}) " ++
      s!"to ({showSingle pos.x}, {showSingle pos.y})")
    emit (.walk walker.id pos)
    return some start

theorem startWalk_eq (actor : Option String) (pos : Point) (f : Frame) :
    startWalk actor pos f = f.leftBy (f.startWalk actor pos) := by
  apply read_bind
  rintro ⟨_, _, walker⟩ _
  dsimp only
  split <;> rfl

/-- Move an actor to a layer, if one is given. -/
def enterLayer (scene id name : String) : Option String → InPlace Unit
  | none => pure ()
  | some layer => do
    let _ ← find (·.stage.world.actor? scene id) (.noActor id name)
    changeWorld (·.modifyScene scene fun s => { s with layers := Scene.unlink id s.layers })
    changeWorld (·.modifyScene scene fun s => { s with layers := Scene.link id layer s.layers })
    changeWorld (·.modifyActor scene id fun a => { a with layer })

theorem enterLayer_eq {scene : String} {place : Scene} (id : String) (layer : Option String)
    (inWorld : f.stage.world.scene? scene = some place) :
    enterLayer scene id place.id layer f =
      match layer.map (place.moveToLayer? id) with
      | none => (.ok (), f)
      | some none => (.error (.noActor id place.id), f)
      | some (some moved) => (.ok (), f.mapWorld (·.modifyScene scene fun _ => moved)) := by
  cases layer with
  | none => rfl
  | some layer =>
    have there := World.actor?_of_found inWorld id
    cases present : place.actor? id with
    | none =>
      have still : place.moveToLayer? id layer = none :=
        if_neg (by simpa [Roster.contains, Scene.actor?] using present)
      simp only [Option.map_some, still]
      exact find_bind_none (there.trans present) ..
    | some actor =>
      have moves : place.moveToLayer? id layer = some { place with
          layers := Scene.link id layer (Scene.unlink id place.layers)
          actors := place.actors.modify id fun a => { a with layer } } :=
        if_pos (Option.isSome_of_eq_some present)
      have same : ((f.stage.world.modifyScene scene fun s =>
            { s with layers := Scene.unlink id s.layers }).modifyScene scene fun s =>
              { s with layers := Scene.link id layer s.layers }).modifyActor scene id
                (fun a => { a with layer }) =
          f.stage.world.modifyScene scene fun _ =>
            { place with
              layers := Scene.link id layer (Scene.unlink id place.layers)
              actors := place.actors.modify id fun a => { a with layer } } := by
        rw [World.modifyActor, World.modifyScene_modifyScene, World.modifyScene_modifyScene]
        exact World.modifyScene_of_found inWorld _
      simp only [Option.map_some, moves]
      rw [enterLayer, find_bind_some (there.trans present)]
      exact congrArg (fun world => (Except.ok (), { f with stage := { f.stage with world } })) same

/-- Change how an actor is shown. -/
def showActor (scene id : String) (visible interaction : Option Bool) : InPlace Unit := do
  let _ ← find (·.stage.world.actor? scene id) (.noActor id scene)
  changeWorld (·.modifyActor scene id fun a => { a with visible := visible.getD a.visible })
  changeWorld (·.modifyActor scene id fun a =>
    { a with interaction := interaction.getD a.interaction })

theorem showActor_eq {scene : String} {place : Scene} (id : String)
    (visible interaction : Option Bool) (inWorld : f.stage.world.scene? scene = some place) :
    showActor scene id visible interaction f =
      if place.actors.contains id then
        (.ok (), f.mapWorld (·.modifyScene scene fun _ =>
          { place with
            actors := place.actors.modify id fun a =>
              { a with
                visible := visible.getD a.visible
                interaction := interaction.getD a.interaction } }))
      else (.error (.noActor id scene), f) := by
  have there := World.actor?_of_found inWorld id
  cases present : place.actor? id with
  | none =>
    rw [if_neg (by simpa [Roster.contains, Scene.actor?] using present)]
    exact find_bind_none (there.trans present) ..
  | some actor =>
    have same : (f.stage.world.modifyActor scene id fun a =>
          { a with visible := visible.getD a.visible }).modifyActor scene id (fun a =>
            { a with interaction := interaction.getD a.interaction }) =
        f.stage.world.modifyScene scene fun _ =>
          { place with
            actors := place.actors.modify id fun a =>
              { a with
                visible := visible.getD a.visible
                interaction := interaction.getD a.interaction } } := by
      rw [World.modifyActor, World.modifyActor, World.modifyScene_modifyScene,
        World.modifyScene_of_found inWorld]
      simp only [Function.comp, Roster.modify_modify]
      rfl
    have isThere : place.actors.contains id = true := Option.isSome_of_eq_some present
    rw [if_pos isThere, showActor, find_bind_some (there.trans present)]
    exact congrArg (fun world => (Except.ok (), { f with stage := { f.stage with world } })) same

/-- An actor that has been moved to a layer is still there. -/
theorem contains_of_moveToLayer? {place moved : Scene} {id layer : String}
    (isMoved : place.moveToLayer? id layer = some moved) : moved.actors.contains id := by
  unfold Scene.moveToLayer? at isMoved
  split at isMoved
  · next present =>
    cases isMoved
    simpa [Roster.contains, Roster.get?_modify] using present
  · cases isMoved

/-- Move an actor and change how it is shown.  It is looked up again after the move, when it would
be too late to fail. -/
def setActorAttr (actor : Option String) (visible interaction : Option Bool)
    (layer : Option String) : InPlace Outcome := do
  let (scene, id) ← read (·.actorRef actor)
  let place ← find (·.stage.world.scene? scene) (.noScene scene)
  enterLayer scene id place.id layer
  showActor scene id visible interaction
  note (s!"└─ action: SetActorAttr({id}, visible {Text.shownOptionBool visible}, " ++
    s!"interaction {Text.shownOptionBool interaction}, layer {Text.shownOptionText layer})")
  return .proceed

theorem setActorAttr_eq (actor : Option String) (visible interaction : Option Bool)
    (layer : Option String) (f : Frame) :
    setActorAttr actor visible interaction layer f =
      f.leftBy (f.setActorAttr actor visible interaction layer) := by
  apply read_bind
  rintro ⟨scene, id⟩ _
  apply find_bind
  · intro absent
    simp only [absent]
  · intro place inWorld
    simp only [inWorld]
    have entered := enterLayer_eq id layer inWorld
    cases layer with
    | none =>
      -- Nothing has been changed yet when the actor is looked up.
      have shown := showActor_eq id visible interaction inWorld
      by_cases present : place.actors.contains id
      · rw [if_pos present] at shown
        simp only [bind, entered, shown, Option.map_none, if_pos present]
        rfl
      · rw [if_neg present] at shown
        simp only [bind, entered, shown, Option.map_none, if_neg present]
        rfl
    | some layer =>
      cases moved : place.moveToLayer? id layer with
      | none =>
        simp only [Option.map_some, moved] at entered
        simp only [bind, entered, moved]
        rfl
      | some after =>
        -- The scene has been changed already, but in it the actor is found.
        simp only [Option.map_some, moved] at entered
        have inWorld' : (f.mapWorld (·.modifyScene scene fun _ => after)).stage.world.scene? scene =
            some after := by
          simp [Frame.mapWorld, Stage.mapWorld, World.scene?_modifyScene, inWorld]
        have shown := showActor_eq id visible interaction inWorld'
        rw [if_pos (contains_of_moveToLayer? moved)] at shown
        simp only [bind, entered, shown, moved]
        have same : (f.stage.world.modifyScene scene fun _ => after).modifyScene scene (fun _ =>
            { after with
              actors := after.actors.modify id fun a =>
                { a with
                  visible := visible.getD a.visible
                  interaction := interaction.getD a.interaction } }) = _ :=
          World.modifyScene_modifyScene ..
        exact congrArg (fun world => (Except.ok Outcome.proceed,
          ({ f with stage := { f.stage with world } } : Frame).info _)) same

/-- Show an animation of an actor. -/
def playAnimation (actor : Option String) (animation : String) (waits : Bool) :
    InPlace Outcome := do
  let (scene, id, found) ← read (·.actor actor)
  changeWorld (·.modifyActor scene id fun a => { a with animation := some animation })
  note (s!"└─ action: PlayAnimation({found.id}, \"{animation}\", " ++
    s!"wait: {Text.shownBool waits})")
  emit (.animation found.id animation)
  return .parkIf waits

theorem playAnimation_eq (actor : Option String) (animation : String) (waits : Bool) (f : Frame) :
    playAnimation actor animation waits f = f.leftBy (f.playAnimation actor animation waits) := by
  apply read_bind
  intro _ _
  rfl

/-- Start a sound of an actor. -/
def playSound (actor : Option String) (sound : String) : InPlace Outcome := do
  let (scene, id, found) ← read (·.actor actor)
  let effect ← find (fun _ => found.sound? sound) (.noSound found.id sound)
  changeWorld (·.modifyActor scene id fun a => { a with playingSound := some sound })
  note s!"└─ action: PlaySound({found.id}, \"{sound}\")"
  emit (.sound found.id effect.id effect.file effect.looping effect.volume)
  return .proceed

theorem playSound_eq (actor : Option String) (sound : String) (f : Frame) :
    playSound actor sound f = f.leftBy (f.playSound actor sound) := by
  apply read_bind
  rintro ⟨scene, id, found⟩ _
  apply find_bind
  · intro has
    simp only [has]
  · intro effect has
    simp only [has]
    rfl

/-- Let an actor speak. -/
def say (actor : Option String) (text : String) (waits : Bool) : InPlace Outcome := do
  let (_, _, found) ← read (·.actor actor)
  note s!"└─ action: Say({found.id}, \"{text}\")"
  emit (.speech found.id text)
  return .parkIf waits

theorem say_eq (actor : Option String) (text : String) (waits : Bool) (f : Frame) :
    say actor text waits f = f.leftBy (f.say actor text waits) := by
  apply read_bind
  intro _ _
  rfl

/-- Open a dialog of an actor. -/
def showDialog (actor : Option String) (dialog : String) : InPlace Outcome := do
  let (scene, id, found) ← read (·.actor actor)
  let shown ← find (fun _ => found.dialog? dialog) (.noDialog id dialog)
  let options := shown.visibleOptions.map (·.text)
  let count := options.length
  if options.isEmpty then
    note s!"└─ action: ShowDialog({id}, {dialog}) has no options left, skipped"
    return .proceed
  else
    let handle ← look (·.handle)
    read fun f =>
      match f.stage.world.openDialog with
      | none => .ok ()
      | some other =>
        if other.handle = handle then .ok () else .error (.dialogOpen other.dialog other.actor)
    note s!"└─ action: ShowDialog({id}, {dialog}) with {count} option(s)"
    changeWorld fun w => { w with openDialog := some ⟨handle, scene, id, dialog⟩ }
    emit (.dialogOpened id dialog options)
    return .park

theorem showDialog_eq (actor : Option String) (dialog : String) (f : Frame) :
    showDialog actor dialog f = f.leftBy (f.showDialog actor dialog) := by
  apply read_bind
  rintro ⟨scene, id, found⟩ _
  apply find_bind
  · intro has
    simp only [has]
  · intro shown has
    simp only [has]
    split
    · rfl
    · rw [look_bind]
      cases isOpen : f.stage.world.openDialog with
      | none =>
        simp only [bind, read, isOpen]
        rfl
      | some other =>
        by_cases own : other.handle = f.handle
        · simp only [bind, read, isOpen, own, if_true]
          rfl
        · simp only [bind, read, isOpen, own, if_false]
          rfl

/-- Find the verb to run inside this one. -/
def inlineVerb (whose : Target) (verb : String) (target : Option String) :
    InPlace (Option (Owner × List Action)) := do
  let owner ← read (·.target whose)
  match ← look (·.stage.resolve? owner verb target) with
  | none =>
    note s!"└─ action: RunVerb({verb}) on {owner.text}: no such verb, skipped"
    return none
  | some handle =>
    check (fun f => handle ≠ f.handle) (.runsItself handle)
    let script ← find (·.stage.world.script? handle) (.alreadyRunning handle)
    note s!"└─ action: RunVerb({handle.text})"
    return some (owner, script.reset.actions)

theorem inlineVerb_eq (whose : Target) (verb : String) (target : Option String) (f : Frame) :
    inlineVerb whose verb target f = f.leftBy (f.inlineVerb whose verb target) := by
  apply read_bind
  intro owner _
  rw [look_bind]
  cases named : f.stage.resolve? owner verb target with
  | none => rfl
  | some handle =>
    apply check_bind
    · intro own
      exact if_pos (by simpa using own)
    · intro other
      simp only [if_neg (show handle ≠ f.handle by simpa using other)]
      apply find_bind
      · intro absent
        simp only [absent]
      · intro script found
        simp only [found]
        rfl

/-- Cancel a verb. -/
def cancelNamed (whose : Target) (verb : String) (target : Option String) : InPlace Outcome := do
  let owner ← read (·.target whose)
  match ← look (·.stage.resolve? owner verb target) with
  | none =>
    note s!"└─ action: CancelVerb({verb}) on {owner.text}: no such verb, skipped"
    return .proceed
  | some handle =>
    if handle = (← look (·.handle)) then
      note s!"└─ action: CancelVerb({handle.text}), cancelling self"
      change fun f => { f with cancelRequested := true }
      return .proceed
    else
      note s!"└─ action: CancelVerb({handle.text})"
      let cancelled ← act fun f =>
        let (cancelled, stage) := f.stage.cancelVerb handle
        (cancelled, { f with stage })
      unless cancelled do
        change fun f =>
          { f with
            stage := f.stage.warn
              s!"verb {handle.text} is executing further up the stack and was not cancelled" }
      return .proceed

theorem cancelNamed_eq (whose : Target) (verb : String) (target : Option String) (f : Frame) :
    cancelNamed whose verb target f = f.leftBy (f.cancelNamed whose verb target) := by
  apply read_bind
  intro owner _
  rw [look_bind]
  cases named : f.stage.resolve? owner verb target with
  | none => rfl
  | some handle =>
    dsimp only
    rw [look_bind]
    split
    · rfl
    · rw [note_bind, act_bind]
      rcases (f.info s!"└─ action: CancelVerb({handle.text})").stage.cancelVerb handle with
        ⟨_ | _, stage⟩ <;> rfl

/-- Give an owner a new verb. -/
def addVerb (whose : Target) (key : Key) (script : Script Action) : InPlace Outcome := do
  let owner ← read (·.target whose)
  let handle ← look (·.handle)
  check (fun _ => owner ≠ handle.owner) (.ownerExecuting owner handle.key)
  let _ ← find (·.stage.world.verbs? owner) (.noOwner owner)
  note s!"└─ action: AddVerb({owner.text}, {key.text})"
  changeWorld (·.modifyVerbs owner (·.insert key script.reset))
  return .proceed

theorem addVerb_eq (whose : Target) (key : Key) (script : Script Action) (f : Frame) :
    addVerb whose key script f = f.leftBy (f.addVerb whose key script) := by
  apply read_bind
  intro owner _
  rw [look_bind]
  apply check_bind
  · intro own
    exact if_pos (by simpa using own)
  · intro other
    rw [if_neg (by simpa using other)]
    apply find_bind
    · intro absent
      rw [absent]
      rfl
    · intro verbs present
      rw [present]
      rfl

/-- Take an actor out of the scene in which the verb acts, and then off the layers. -/
def removeActor (id : String) : InPlace Outcome := do
  let (scene, place) ← read (·.scene)
  let _ ← find (·.stage.world.actor? scene id) (.noActor id place.id)
  changeWorld (·.modifyScene scene fun s => { s with actors := s.actors.erase id })
  changeWorld (·.modifyScene scene fun s => { s with layers := Scene.unlink id s.layers })
  note s!"actor '{id}' removed from scene '{place.id}'"
  return .proceed

theorem removeActor_eq (id : String) (f : Frame) :
    removeActor id f = f.leftBy (f.removeActor id) := by
  apply read_bind
  rintro ⟨scene, place⟩ found
  rcases Frame.scene_eq_ok found with ⟨_, inWorld⟩
  have there := World.actor?_of_found inWorld id
  apply find_bind
  · intro absent
    have nobody : place.removeActor? id = none := by
      rw [Scene.removeActor?, ← there, absent]
      rfl
    simp only [nobody]
  · intro actor present
    have gone : place.removeActor? id = some ({ actor with scene := none },
        { place with
          actors := place.actors.erase id
          layers := Scene.unlink id place.layers }) := by
      rw [Scene.removeActor?, ← there, present]
      rfl
    simp only [gone]
    have same : (f.stage.world.modifyScene scene fun s =>
          { s with actors := s.actors.erase id }).modifyScene scene
            (fun s => { s with layers := Scene.unlink id s.layers }) =
        f.stage.world.modifyScene scene fun _ =>
          { place with
            actors := place.actors.erase id
            layers := Scene.unlink id place.layers } := by
      rw [World.modifyScene_modifyScene]
      exact World.modifyScene_of_found inWorld _
    exact congrArg (fun world => (Except.ok Outcome.proceed,
      ({ f with stage := { f.stage with world } }).info
        s!"actor '{id}' removed from scene '{place.id}'")) same

/-- Give control to another actor of the current scene, or to nobody. -/
def setPlayer (actor : Option String) : InPlace Outcome := do
  match actor with
  | none => pure ()
  | some id =>
    let _ ← find (fun f => f.stage.world.current?.bind (·.actor? id)) (.notInCurrentScene id)
  changeWorld (·.modifyPlayer fun a => { a with interaction := true })
  changeWorld fun w => { w with player := actor }
  changeWorld (·.modifyPlayer fun a => { a with interaction := false })
  note s!"player is now {Text.shownOptionText actor}"
  return .proceed

theorem setPlayer_eq (actor : Option String) (f : Frame) :
    setPlayer actor f =
      f.leftBy ((f.stage.setPlayer actor).map fun stage => (.proceed, { f with stage })) := by
  unfold setPlayer Stage.setPlayer
  cases actor with
  | none => rfl
  | some id =>
    apply find_bind
    · intro absent
      simp only [absent]
      rfl
    · intro found present
      simp only [present]
      rfl

/-- Make a scene the current one and run its verb. -/
def goToScene (perform : Performer) (id : String) : InPlace Outcome := do
  check (·.stage.world.scenes.contains id) (.noScene id)
  changeWorld fun w => { w with currentScene := some id }
  note s!"current scene is now '{id}'"
  emit (.sceneChanged id)
  change fun f => { f with stage := (f.stage.runNamed perform (.scene id) "init" none).2 }
  return .proceed

theorem goToScene_eq (perform : Performer) (id : String) (f : Frame) :
    goToScene perform id f =
      f.leftBy ((f.stage.goToScene perform id).map fun stage => (.proceed, { f with stage })) := by
  unfold Stage.goToScene
  apply check_bind
  · intro absent
    rw [if_neg (by simpa using absent)]
    rfl
  · intro present
    rw [if_pos present]
    rfl

/-- Let a walking actor walk for a time. -/
def walkOn (actor : Option String) (goal : Point) (speed : Option Single) (delta : Single) :
    InPlace Bool := do
  let speed ← look fun f => speed.getD f.stage.settings.walkSpeed
  check (fun _ => speed.isFinite && decide (0 < speed)) (.unreachable speed goal)
  let (scene, id, walker) ← read (·.actor actor)
  let next := walker.position.stepToward goal (speed * delta)
  changeWorld (·.modifyActor scene id (·.moveTo next))
  return next.sameAs goal

theorem walkOn_eq (actor : Option String) (goal : Point) (speed : Option Single) (delta : Single)
    (f : Frame) : walkOn actor goal speed delta f = f.leftBy (f.walkOn actor goal speed delta) := by
  unfold walkOn Frame.walkOn
  rw [look_bind]
  apply check_bind
  · intro still
    exact if_neg (by simpa using still)
  · intro moves
    simp only [if_pos moves]
    apply read_bind
    intro _ _
    rfl

/-- What comes of an action whose effect is done in place. -/
def outcome (effect : InPlace Outcome) (f : Frame) : Outcome × Frame :=
  match effect f with
  | (.ok outcome, f) => (outcome, f)
  | (.error reason, f) => (.fault reason, f)

theorem outcome_eq {effect : InPlace Outcome} {attempted : Except Fault (Outcome × Frame)}
    (same : effect f = f.leftBy attempted) : effect.outcome f = f.attempt attempted := by
  rw [outcome, same]
  cases attempted <;> rfl

end InPlace

/-! ## All actions -/

namespace Action

/-- Perform one action in place, with `inner` performing the actions of the scripts it starts.
Waiting never fails, and a condition is asked before anything is changed. -/
def performInPlaceWith (inner : Option Performer) : Performer
  | .setState target state, f =>
    (.setState target state, (InPlace.setState target state).outcome f)
  | .setProperty target name value, f =>
    (.setProperty target name value, (InPlace.setProperty target name value).outcome f)
  | .setActorAttr actor visible interaction layer, f =>
    (.setActorAttr actor visible interaction layer,
      (InPlace.setActorAttr actor visible interaction layer).outcome f)
  | .position actor pos, f => (.position actor pos, (InPlace.putActor actor pos).outcome f)
  | .goto actor pos speed origin, f =>
    match InPlace.startWalk actor pos f with
    | (.ok (some start), f) => (.goto actor pos speed (some start), .park, f)
    | (.ok none, f) => (.goto actor pos speed origin, .proceed, f)
    | (.error reason, f) => (.goto actor pos speed origin, .fault reason, f)
  | .playAnimation actor animation duration waits _, f =>
    (.playAnimation actor animation duration waits 0,
      (InPlace.playAnimation actor animation waits).outcome f)
  | .playSound actor sound, f =>
    (.playSound actor sound, (InPlace.playSound actor sound).outcome f)
  | .say actor text duration waits _, f =>
    (.say actor text duration waits 0, (InPlace.say actor text waits).outcome f)
  | .showDialog actor dialog, f =>
    (.showDialog actor dialog, (InPlace.showDialog actor dialog).outcome f)
  | .runVerb whose verb target bound script, f =>
    match InPlace.inlineVerb whose verb target f with
    | (.error reason, f) => (.runVerb whose verb target bound script, .fault reason, f)
    | (.ok none, f) => (.runVerb whose verb target bound script, .proceed, f)
    | (.ok (some (owner, actions)), f) =>
      match inner with
      | none => (.runVerb whose verb target bound script, .fault .tooDeep, f)
      | some perform =>
        let (script, state, inner) :=
          (Script.ofActions actions).start perform (f.enterScope (some owner))
        (.runVerb whose verb target (some owner) script, .ofRunState state, f.leaveScope inner)
  | .cancelVerb whose verb target, f =>
    (.cancelVerb whose verb target, (InPlace.cancelNamed whose verb target).outcome f)
  | .addVerb whose key script, f =>
    (.addVerb whose key script, (InPlace.addVerb whose key script).outcome f)
  | .changeScene scene, f =>
    let f := f.info s!"└─ action: ChangeScene({scene})"
    match inner with
    | none => (.changeScene scene, .fault .tooDeep, f)
    | some perform => (.changeScene scene, (InPlace.goToScene perform scene).outcome f)
  | .setPlayer actor, f =>
    let f := f.info s!"└─ action: SetPlayer({Text.shownOptionText actor})"
    (.setPlayer actor, (InPlace.setPlayer actor).outcome f)
  | .removeActor actor, f =>
    let f := f.info s!"└─ action: RemoveActor({actor})"
    (.removeActor actor, (InPlace.removeActor actor).outcome f)
  | .wait seconds elapsed, f => performWith inner (.wait seconds elapsed) f
  | .conditional condition script, f => performWith inner (.conditional condition script) f

/-- Perform one action in place, going down through at most `depth` levels of scripts. -/
def performInPlace : Nat → Performer
  | 0 => performInPlaceWith none
  | depth + 1 => performInPlaceWith (some (performInPlace depth))

open InPlace in
/-- Performing an action in place comes to performing it. -/
theorem performInPlaceWith_eq (inner : Option Performer) :
    performInPlaceWith inner = performWith inner := by
  funext action f
  cases action with
  | setState => simp only [performInPlaceWith, performWith, outcome_eq (setState_eq ..)]
  | setProperty => simp only [performInPlaceWith, performWith, outcome_eq (setProperty_eq ..)]
  | setActorAttr => simp only [performInPlaceWith, performWith, outcome_eq (setActorAttr_eq ..)]
  | position => simp only [performInPlaceWith, performWith, outcome_eq (putActor_eq ..)]
  | goto actor pos speed origin =>
    simp only [performInPlaceWith, performWith, startWalk_eq]
    rcases f.startWalk actor pos with reason | ⟨_ | start, f'⟩ <;> rfl
  | playAnimation =>
    simp only [performInPlaceWith, performWith, outcome_eq (playAnimation_eq ..)]
  | playSound => simp only [performInPlaceWith, performWith, outcome_eq (playSound_eq ..)]
  | say => simp only [performInPlaceWith, performWith, outcome_eq (say_eq ..)]
  | showDialog => simp only [performInPlaceWith, performWith, outcome_eq (showDialog_eq ..)]
  | runVerb whose verb target bound script =>
    simp only [performInPlaceWith, performWith, inlineVerb_eq]
    rcases f.inlineVerb whose verb target with reason | ⟨_ | found, f'⟩ <;> rfl
  | cancelVerb => simp only [performInPlaceWith, performWith, outcome_eq (cancelNamed_eq ..)]
  | addVerb => simp only [performInPlaceWith, performWith, outcome_eq (addVerb_eq ..)]
  | changeScene =>
    cases inner with
    | none => rfl
    | some perform =>
      simp only [performInPlaceWith, performWith, outcome_eq (goToScene_eq ..)]
  | setPlayer => simp only [performInPlaceWith, performWith, outcome_eq (setPlayer_eq ..)]
  | removeActor => simp only [performInPlaceWith, performWith, outcome_eq (removeActor_eq ..)]
  | wait | conditional => rfl

/-- Performing an action in place comes to performing it, however deep the scripts go. -/
theorem performInPlace_eq (depth : Nat) : performInPlace depth = perform depth := by
  induction depth with
  | zero => exact performInPlaceWith_eq none
  | succ depth ih => rw [performInPlace, perform, ih, performInPlaceWith_eq]

/-- The one action that may fail while time passes, that of walking, goes on in place. -/
theorem tick_goto (perform : Performer) (delta : Single) (actor : Option String) (pos : Point)
    (speed : Option Single) (origin : Option Point) (f : Frame) :
    Action.tick perform delta (.goto actor pos speed origin) f =
      (.goto actor pos speed origin, InPlace.walkOn actor pos speed delta f) := by
  rw [InPlace.walkOn_eq, Action.tick]
  cases f.walkOn actor pos speed delta <;> rfl

end Action

end Stagecraft
