import Stagecraft.Proofs.Checked

/-!
# References that have been checked

An instruction of a scene or an actor names actors, and sounds and dialogs of actors.  Where it has
been checked, and the actors of the definition are in the world with what belongs to them, the
action finds what it names.
-/

namespace Stagecraft

/-- Whether a fault tells of a dangling reference: an actor is left out though the owner is none, a
named actor is not in the owner's scene, or an actor lacks the named sound or dialog. -/
def Fault.isDangling : Fault → Bool
  | .actorOmitted _ | .noActor .. | .noOwner (.actor ..) | .noSound .. | .noDialog .. => true
  | _ => false

/-- Whether an outcome is no fault that tells of a dangling reference. -/
def Outcome.resolves : Outcome → Bool
  | .fault reason => !reason.isDangling
  | _ => true

@[simp] theorem Outcome.resolves_ofRunState (state : RunState) :
    (Outcome.ofRunState state).resolves = true := by
  cases state <;> rfl

@[simp] theorem Outcome.resolves_parkIf (waits : Bool) :
    (Outcome.parkIf waits).resolves = true := by
  cases waits <;> rfl

/-- Whether an attempt does not fail because of a dangling reference, and what it gives is good. -/
def Except.Resolves {α : Type} (good : α → Prop) : Except Fault α → Prop
  | .ok a => good a
  | .error reason => reason.isDangling = false

theorem Except.Resolves.bind {α β : Type} {good : α → Prop} {good' : β → Prop}
    {x : Except Fault α} {next : α → Except Fault β} (first : Except.Resolves good x)
    (rest : ∀ a, good a → Except.Resolves good' (next a)) : Except.Resolves good' (x >>= next) := by
  cases x with
  | error reason => exact first
  | ok a => exact rest a first

/-- The outcome of an effect that resolves its references does so. -/
theorem Frame.resolves_attempt (f : Frame) {effect : Except Fault (Outcome × Frame)}
    (resolves : Except.Resolves (·.1.resolves) effect) : (f.attempt effect).1.resolves := by
  cases effect with
  | ok result => exact resolves
  | error reason => exact (congrArg (!·) resolves : (!reason.isDangling) = !false)

/-! ## Furnished worlds -/

/-- Whether an actor has the sounds and the dialogs of a definition. -/
structure ActorDefinition.Equips (d : ActorDefinition) (a : Actor) : Prop where
  sounds : a.sounds.map (·.id) = d.sounds.map (·.id)
  dialogs : a.dialogs.map (·.id) = d.dialogs.map (·.id)

/-- Whether a world has no scenes and actors but those of a definition, and all its actors with what
belongs to them. -/
structure Definition.Furnishes (d : Definition) (w : World) : Prop where
  known : ∀ owner, (w.verbs? owner).isSome → (d.place? owner).isSome
  actors : ∀ home scene id actor, d.scene? home = some scene → scene.actor? id = some actor →
    ∃ a, w.actor? home id = some a ∧ actor.Equips a

/-- Whether a verb runs in a furnished world for a scene or an actor, whose verbs are checked against
a scope. -/
structure Definition.Hosts (d : Definition) (f : Frame) (scope : Scope) : Prop where
  furnished : d.Furnishes f.stage.world
  place : ∃ verbs, d.place? f.scope = some (scope, verbs)
  inScene : f.scope ≠ .world

/-- A verb that acts for an owner in a scene acts in that scene. -/
theorem Frame.sceneId_of_scope {f : Frame} {home : String}
    (inScene : f.scope.sceneId? = some home) : f.sceneId = .ok home := by
  have meant : f.target .owner = .ok f.scope := rfl
  exact Frame.sceneId_of_target meant inScene

namespace Definition.Hosts

variable {d : Definition} {f : Frame} {scope : Scope} {context : String}

/-- A verb of a scene or an actor acts in a scene. -/
theorem exists_sceneId (hosts : d.Hosts f scope) : ∃ scene, f.sceneId = .ok scene := by
  cases owner : f.scope with
  | world => exact absurd owner hosts.inScene
  | scene home | actor home own =>
    exact ⟨home, Frame.sceneId_of_scope (by rw [owner]; rfl)⟩

/-- An actor that has been checked is found, with what belongs to it. -/
theorem exists_actor (hosts : d.Hosts f scope) {actor : Option String}
    (checked : scope.actorDefects actor context = []) :
    ∃ home id definition a, scope.actor? actor = some definition ∧ definition.Equips a ∧
      f.actorRef actor = .ok (home, id) ∧ f.stage.world.actor? home id = some a := by
  rcases Option.isSome_iff_exists.mp (of_defectUnless checked) with ⟨definition, named⟩
  rcases hosts.place with ⟨verbs, place⟩
  have inScene : ∀ {home}, f.scope.sceneId? = some home → f.sceneId = .ok home :=
    Frame.sceneId_of_scope
  cases owner : f.scope with
  | world => exact absurd owner hosts.inScene
  | scene home =>
    rw [owner] at place inScene
    rcases Option.map_eq_some_iff.mp place with ⟨scene, isScene, same⟩
    cases same
    cases actor with
    | none => cases named
    | some id =>
      rcases hosts.furnished.actors home scene id definition isScene named with ⟨a, found, equips⟩
      refine ⟨home, id, definition, a, named, equips, ?_, found⟩
      simp only [Frame.actorRef, inScene rfl]
      rfl
  | actor home own =>
    rw [owner] at place inScene
    rcases Option.bind_eq_some_iff.mp place with ⟨scene, isScene, place⟩
    rcases Option.map_eq_some_iff.mp place with ⟨ownDefinition, isOwn, same⟩
    cases same
    cases actor with
    | none =>
      cases named
      rcases hosts.furnished.actors home scene own definition isScene isOwn with ⟨a, found, equips⟩
      refine ⟨home, own, definition, a, rfl, equips, ?_, found⟩
      simp only [Frame.actorRef, owner]
    | some id =>
      rcases hosts.furnished.actors home scene id definition isScene named with ⟨a, found, equips⟩
      refine ⟨home, id, definition, a, named, equips, ?_, found⟩
      simp only [Frame.actorRef, inScene rfl]
      rfl

/-- The reference to an actor that has been checked means one that is there. -/
theorem resolves_actorRef (hosts : d.Hosts f scope) {actor : Option String}
    (checked : scope.actorDefects actor context = []) :
    Except.Resolves (fun ref => (f.stage.world.actor? ref.1 ref.2).isSome) (f.actorRef actor) := by
  rcases hosts.exists_actor checked with ⟨home, id, _, a, _, _, ref, found⟩
  rw [ref]
  exact Option.isSome_of_eq_some found

/-- An actor that has been checked is found, with what belongs to it. -/
theorem resolves_actor (hosts : d.Hosts f scope) {actor : Option String}
    (checked : scope.actorDefects actor context = []) :
    Except.Resolves (fun found => ∃ definition, scope.actor? actor = some definition ∧
      definition.Equips found.2.2) (f.actor actor) := by
  rcases hosts.exists_actor checked with ⟨home, id, definition, a, named, equips, ref, found⟩
  simp only [Frame.actor, ref, bind, Except.bind, found]
  exact ⟨definition, named, equips⟩

/-- What a target that has been checked names is there, if it is an actor. -/
theorem resolves_target (hosts : d.Hosts f scope) {target : Target}
    (checked : scope.targetDefects target context = []) :
    Except.Resolves (fun owner => ∀ home id, owner = .actor home id →
      (f.stage.world.actor? home id).isSome) (f.target target) := by
  cases target with
  | owner =>
    intro home id same
    rcases hosts.place with ⟨verbs, place⟩
    rw [same] at place
    rcases Option.bind_eq_some_iff.mp place with ⟨scene, isScene, place⟩
    rcases Option.map_eq_some_iff.mp place with ⟨own, isOwn, _⟩
    rcases hosts.furnished.actors home scene id own isScene isOwn with ⟨a, found, _⟩
    exact Option.isSome_of_eq_some found
  | actor id =>
    have named : scope.actorDefects (some id) context = [] := checked
    rcases hosts.exists_actor named with ⟨home, _, _, a, _, _, ref, found⟩
    rcases hosts.exists_sceneId with ⟨scene, here⟩
    have isRef : f.actorRef (some id) = .ok (scene, id) := by
      simp only [Frame.actorRef, here]
      rfl
    cases isRef.symm.trans ref
    simp only [Frame.target, here]
    rintro _ _ ⟨⟩
    exact Option.isSome_of_eq_some found
  | scene =>
    rcases hosts.exists_sceneId with ⟨scene, here⟩
    simp only [Frame.target, here]
    rintro _ _ ⟨⟩
  | world => rintro _ _ ⟨⟩

end Definition.Hosts

variable {d : Definition} {f : Frame} {scope : Scope} {context : String}

/-- Something else than an actor that is there can be missing. -/
theorem Fault.isDangling_noOwner {w : World} {owner : Owner}
    (present : ∀ home id, owner = .actor home id → (w.actor? home id).isSome)
    (absent : (w.verbs? owner).isNone) : (Fault.noOwner owner).isDangling = false := by
  cases owner with
  | world | scene home => rfl
  | actor home id =>
    have isThere := present home id rfl
    simp only [World.verbs?, Option.isNone_map] at absent
    rw [Option.isNone_iff_eq_none] at absent
    rw [absent] at isThere
    cases isThere

theorem World.isNone_state? (w : World) (owner : Owner) :
    (w.state? owner).isNone = (w.verbs? owner).isNone := by
  cases owner <;> simp [World.state?, World.verbs?]

theorem World.isNone_properties? (w : World) (owner : Owner) :
    (w.properties? owner).isNone = (w.verbs? owner).isNone := by
  cases owner <;> simp [World.properties?, World.verbs?]

/-! ## Conditions -/

mutual

/-- A condition that has been checked finds what it names. -/
theorem Condition.resolves_holds (hosts : d.Hosts f scope) : ∀ (condition : Condition),
    condition.defects scope context = [] → Except.Resolves (fun _ => True) (condition.holds f)
  | .stateIs target state, checked => by
    apply (hosts.resolves_target checked).bind
    intro owner present
    split
    · trivial
    · next absent =>
      apply Fault.isDangling_noOwner present
      rw [← World.isNone_state?, absent]
      rfl
  | .propertyIs target name value, checked => by
    apply (hosts.resolves_target checked).bind
    intro owner present
    split
    · trivial
    · next absent =>
      apply Fault.isDangling_noOwner present
      rw [← World.isNone_properties?, absent]
      rfl
  | .visible actor, checked => (hosts.resolves_actor checked).bind fun _ _ => trivial
  | .playerInside actor, checked => (hosts.resolves_actor checked).bind fun _ _ => trivial
  | .not inner, checked =>
    (Condition.resolves_holds hosts inner checked).bind fun _ _ => trivial
  | .all list, checked => (Condition.resolves_list hosts list checked).1
  | .any list, checked => (Condition.resolves_list hosts list checked).2

/-- A list of conditions that have been checked finds what they name. -/
theorem Condition.resolves_list (hosts : d.Hosts f scope) : ∀ (list : List Condition),
    Condition.listDefects scope context list = [] →
      Except.Resolves (fun _ => True) (Condition.allHold f list) ∧
        Except.Resolves (fun _ => True) (Condition.anyHolds f list)
  | [], _ => ⟨trivial, trivial⟩
  | condition :: rest, checked => by
    rcases List.append_eq_nil_iff.mp checked with ⟨first, others⟩
    have resolves := Condition.resolves_holds hosts condition first
    rcases Condition.resolves_list hosts rest others with ⟨all, any⟩
    constructor
    · apply resolves.bind
      intro holds _
      cases holds with
      | false => trivial
      | true => exact all
    · apply resolves.bind
      intro holds _
      cases holds with
      | false => exact any
      | true => trivial

end

/-! ## Effects -/

namespace Definition.Hosts

variable {target : Target} {actor : Option String}

theorem resolves_setState (hosts : d.Hosts f scope)
    (checked : scope.targetDefects target context = []) (state : Option String) :
    Except.Resolves (·.1.resolves) (f.setState target state) := by
  apply (hosts.resolves_target checked).bind
  intro owner present
  split
  · next absent => exact Fault.isDangling_noOwner present (World.isNone_state? _ _ ▸ absent)
  · rfl

theorem resolves_setProperty (hosts : d.Hosts f scope)
    (checked : scope.targetDefects target context = []) (name : String) (value : Option String) :
    Except.Resolves (·.1.resolves) (f.setProperty target name value) := by
  apply (hosts.resolves_target checked).bind
  intro owner present
  split
  · next absent => exact Fault.isDangling_noOwner present (World.isNone_properties? _ _ ▸ absent)
  · rfl

theorem resolves_setActorAttr (hosts : d.Hosts f scope)
    (checked : scope.actorDefects actor context = []) (visible interaction : Option Bool)
    (layer : Option String) :
    Except.Resolves (·.1.resolves) (f.setActorAttr actor visible interaction layer) := by
  apply (hosts.resolves_actorRef checked).bind
  rintro ⟨home, id⟩ present
  simp only
  split
  · rfl
  · next scene isScene =>
    have isThere : scene.actors.contains id = true := by
      rwa [World.actor?, isScene] at present
    cases layer with
    | none =>
      simp only [isThere, if_true]
      rfl
    | some layer =>
      simp only [Scene.moveToLayer?, isThere, if_true]
      rfl

theorem resolves_putActor (hosts : d.Hosts f scope)
    (checked : scope.actorDefects actor context = []) (pos : Point) :
    Except.Resolves (·.1.resolves) (f.putActor actor pos) :=
  (hosts.resolves_actor checked).bind fun _ _ => rfl

theorem resolves_startWalk (hosts : d.Hosts f scope)
    (checked : scope.actorDefects actor context = []) (pos : Point) :
    Except.Resolves (fun _ => True) (f.startWalk actor pos) := by
  apply (hosts.resolves_actor checked).bind
  intro found _
  simp only
  split <;> trivial

theorem resolves_walkOn (hosts : d.Hosts f scope)
    (checked : scope.actorDefects actor context = []) (goal : Point) (speed : Option Single)
    (delta : Single) : Except.Resolves (fun _ => True) (f.walkOn actor goal speed delta) := by
  unfold Frame.walkOn
  simp only
  split
  · exact (hosts.resolves_actor checked).bind fun _ _ => trivial
  · rfl

theorem resolves_playAnimation (hosts : d.Hosts f scope)
    (checked : scope.actorDefects actor context = []) (animation : String) (waits : Bool) :
    Except.Resolves (·.1.resolves) (f.playAnimation actor animation waits) :=
  (hosts.resolves_actor checked).bind fun _ _ => Outcome.resolves_parkIf waits

theorem resolves_say (hosts : d.Hosts f scope)
    (checked : scope.actorDefects actor context = []) (text : String) (waits : Bool) :
    Except.Resolves (·.1.resolves) (f.say actor text waits) :=
  (hosts.resolves_actor checked).bind fun _ _ => Outcome.resolves_parkIf waits

theorem resolves_playSound (hosts : d.Hosts f scope)
    (checked : scope.actorDefects actor context = []) {sound : String}
    (belongs : scope.belongingDefects actor .sound (·.sounds.map (·.id)) sound context = []) :
    Except.Resolves (·.1.resolves) (f.playSound actor sound) := by
  apply (hosts.resolves_actor checked).bind
  rintro ⟨home, id, found⟩ ⟨definition, named, equips⟩
  simp only [Scope.belongingDefects, named] at belongs
  have listed := of_defectUnless belongs
  rw [List.contains_iff_mem, ← equips.sounds] at listed
  simp only
  split
  · next absent => exact absurd absent (List.find?_ne_none_of_mem listed)
  · rfl

theorem resolves_showDialog (hosts : d.Hosts f scope)
    (checked : scope.actorDefects actor context = []) {dialog : String}
    (belongs : scope.belongingDefects actor .dialog (·.dialogs.map (·.id)) dialog context = []) :
    Except.Resolves (·.1.resolves) (f.showDialog actor dialog) := by
  apply (hosts.resolves_actor checked).bind
  rintro ⟨home, id, found⟩ ⟨definition, named, equips⟩
  simp only [Scope.belongingDefects, named] at belongs
  have listed := of_defectUnless belongs
  rw [List.contains_iff_mem, ← equips.dialogs] at listed
  simp only
  split
  · next absent => exact absurd absent (List.find?_ne_none_of_mem listed)
  · split
    · rfl
    · split
      · rfl
      · split <;> rfl

theorem resolves_inlineVerb (hosts : d.Hosts f scope)
    (checked : scope.targetDefects target context = []) (verb : String) (other : Option String) :
    Except.Resolves (fun _ => True) (f.inlineVerb target verb other) := by
  apply (hosts.resolves_target checked).bind
  intro owner _
  split
  · trivial
  · split
    · rfl
    · split
      · rfl
      · trivial

theorem resolves_cancelNamed (hosts : d.Hosts f scope)
    (checked : scope.targetDefects target context = []) (verb : String) (other : Option String) :
    Except.Resolves (·.1.resolves) (f.cancelNamed target verb other) := by
  apply (hosts.resolves_target checked).bind
  intro owner _
  split
  · rfl
  · split <;> rfl

theorem resolves_addVerb (hosts : d.Hosts f scope)
    (checked : scope.targetDefects target context = []) (key : Key) (script : Script Action) :
    Except.Resolves (·.1.resolves) (f.addVerb target key script) := by
  apply (hosts.resolves_target checked).bind
  intro owner present
  split
  · rfl
  · split
    · next absent => exact Fault.isDangling_noOwner present absent
    · rfl

end Definition.Hosts

/-! ## Actions -/

/-- Whether an action finds what it names does not depend on its progress. -/
theorem Action.resolves_performWith_reset (inner : Option Performer) (action : Action)
    (f : Frame) : (Action.performWith inner action.reset f).2.1.resolves =
      (Action.performWith inner action f).2.1.resolves := by
  cases action with
  | goto actor pos speed origin =>
    simp only [Action.reset, Action.performWith]
    split <;> rfl
  | conditional condition script =>
    simp only [Action.reset, Action.performWith]
    split
    · rfl
    · rfl
    · cases inner with
      | none => rfl
      | some perform => simp only [Outcome.resolves_ofRunState]
  | runVerb whose verb target bound script =>
    simp only [Action.reset, Action.performWith]
    split
    · rfl
    · rfl
    · cases inner <;> rfl
  | _ => rfl

/-- Performing goes down to a depth with something that performs the actions of scripts, or
nothing. -/
theorem Action.exists_perform_eq (depth : Nat) :
    ∃ inner, Action.perform depth = Action.performWith inner := by
  cases depth with
  | zero => exact ⟨none, rfl⟩
  | succ depth => exact ⟨some (Action.perform depth), rfl⟩

/-- Performing an instruction that has been checked, and is no removal, finds what it names. -/
theorem Instruction.resolves_performWith (inner : Option Performer) (hosts : d.Hosts f scope)
    {instruction : Instruction} (checked : instruction.defects scope context = [])
    (removesNone : ∀ actor, instruction ≠ .removeActor actor) :
    (Action.performWith inner instruction.toAction f).2.1.resolves := by
  cases instruction with
  | setState target state => exact f.resolves_attempt (hosts.resolves_setState checked state)
  | setProperty target name value =>
    exact f.resolves_attempt (hosts.resolves_setProperty checked name value)
  | setActorAttr actor visible interaction layer =>
    exact f.resolves_attempt (hosts.resolves_setActorAttr checked visible interaction layer)
  | position actor pos =>
    rcases List.append_eq_nil_iff.mp checked with ⟨named, _⟩
    exact f.resolves_attempt (hosts.resolves_putActor named pos)
  | goto actor pos speed =>
    simp only [Instruction.defects, List.append_eq_nil_iff] at checked
    have resolves := hosts.resolves_startWalk checked.1.1 pos
    simp only [Instruction.toAction, Action.performWith]
    cases started : f.startWalk actor pos with
    | ok answer => rcases answer with ⟨_ | start, f'⟩ <;> rfl
    | error reason =>
      rw [started] at resolves
      exact congrArg (!·) resolves
  | playAnimation actor animation duration waits =>
    rcases List.append_eq_nil_iff.mp checked with ⟨named, _⟩
    exact f.resolves_attempt (hosts.resolves_playAnimation named animation waits)
  | playSound actor sound =>
    rcases List.append_eq_nil_iff.mp checked with ⟨named, belongs⟩
    exact f.resolves_attempt (hosts.resolves_playSound named belongs)
  | say actor text duration waits =>
    simp only [Instruction.defects, List.append_eq_nil_iff] at checked
    exact f.resolves_attempt (hosts.resolves_say checked.1 text waits)
  | wait seconds => exact Outcome.resolves_parkIf _
  | showDialog actor dialog =>
    rcases List.append_eq_nil_iff.mp checked with ⟨named, belongs⟩
    exact f.resolves_attempt (hosts.resolves_showDialog named belongs)
  | conditional condition body =>
    simp only [Instruction.defects, List.append_eq_nil_iff] at checked
    have resolves := Condition.resolves_holds hosts condition checked.1
    simp only [Instruction.toAction, Action.performWith]
    split
    · next reason failed =>
      rw [failed] at resolves
      exact congrArg (!·) resolves
    · rfl
    · cases inner with
      | none => rfl
      | some perform => exact Outcome.resolves_ofRunState _
  | runVerb whose verb target =>
    rcases List.append_eq_nil_iff.mp checked with ⟨named, _⟩
    have resolves := hosts.resolves_inlineVerb named verb target
    simp only [Instruction.toAction, Action.performWith]
    split
    · next reason failed =>
      rw [failed] at resolves
      exact congrArg (!·) resolves
    · rfl
    · cases inner with
      | none => rfl
      | some perform => exact Outcome.resolves_ofRunState _
  | cancelVerb whose verb target =>
    rcases List.append_eq_nil_iff.mp checked with ⟨named, _⟩
    exact f.resolves_attempt (hosts.resolves_cancelNamed named verb target)
  | addVerb whose key body =>
    simp only [Instruction.defects, List.append_eq_nil_iff] at checked
    exact f.resolves_attempt (hosts.resolves_addVerb checked.1.1 key _)
  | changeScene scene =>
    cases inner with
    | none => rfl
    | some perform =>
      apply Frame.resolves_attempt
      rw [Stage.goToScene_eq]
      split <;> rfl
  | setPlayer actor =>
    apply Frame.resolves_attempt
    cases actor with
    | none => rfl
    | some id =>
      simp only [Stage.setPlayer]
      split <;> rfl
  | removeActor actor => exact absurd rfl (removesNone actor)

/-- Time that passes for a walk that has been checked finds the actor it names. -/
theorem Instruction.resolves_tick {perform : Performer} {delta : Single}
    (hosts : d.Hosts f scope) {instruction : Instruction}
    (checked : instruction.defects scope context = []) {action : Action}
    (written : instruction.toAction = action.reset) {reason : Fault}
    (failed : (action.tick perform delta f).2.1 = .error reason) : reason.isDangling = false := by
  rcases Action.exists_goto_of_tick_error failed with ⟨actor, pos, speed, origin, rfl, walks, _⟩
  cases instruction with
  | goto actor pos speed =>
    cases written
    simp only [Instruction.defects, List.append_eq_nil_iff] at checked
    have resolves := hosts.resolves_walkOn checked.1.1 pos speed delta
    rw [walks] at resolves
    exact resolves
  | _ => cases written

end Stagecraft
