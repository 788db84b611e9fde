import Stagecraft.Proofs.Deed

/-!
# The deeds of single actions

Each effect of an action that has no script inside is told as the list of its deeds.  Only the
effects that wait for something park.
-/

namespace Stagecraft

/-- A computation that continues with the value of another has that value. -/
theorem Except.exists_of_bind_eq_ok {ε α β : Type} {x : Except ε α} {next : α → Except ε β}
    {b : β} (done : (x >>= next) = .ok b) : ∃ a, x = .ok a ∧ next a = .ok b := by
  cases x with
  | error reason => cases done
  | ok a => exact ⟨a, rfl, done⟩

/-- A failed effect has left the frame alone; what has succeeded is the effect's own result. -/
theorem Frame.attempt_eq {f f' : Frame} {effect : Except Fault (Outcome × Frame)}
    {outcome : Outcome} (done : f.attempt effect = (outcome, f')) :
    effect = .ok (outcome, f') ∨ ∃ reason, effect = .error reason ∧ outcome = .fault reason ∧
      f' = f := by
  cases effect with
  | ok result => exact .inl (congrArg _ done)
  | error reason =>
    obtain ⟨rfl, rfl⟩ := Prod.mk.inj done
    exact .inr ⟨reason, rfl, rfl, rfl⟩

/-! ## Options of dialogs -/

/-- An option can be chosen by its index among the visible ones. -/
private theorem Dialog.isSome_chooseAmong_iff (index : Nat) (options : List DialogOption) :
    (Dialog.chooseAmong index options).isSome ↔
      index < (options.filter (·.isVisible)).length := by
  induction options generalizing index with
  | nil => simp [Dialog.chooseAmong]
  | cons option rest ih =>
    unfold Dialog.chooseAmong
    by_cases visible : option.isVisible = true
    · cases index with
      | zero => simp [visible]
      | succ below => simp [visible, ih]
    · simp [visible, ih]

/-- An option of an actor's dialog can be chosen by its index among those that are visible. -/
theorem Actor.isSome_chooseOption?_iff (a : Actor) (id : String) (index : Nat) :
    (a.chooseOption? id index).isSome ↔
      ∃ shown, a.dialog? id = some shown ∧ index < shown.visibleOptions.length := by
  unfold Actor.chooseOption? Actor.dialog?
  rw [Option.isSome_map]
  induction a.dialogs with
  | nil => simp [Dialog.chooseIn]
  | cons dialog rest ih =>
    by_cases same : dialog.id = id
    · simp [Dialog.chooseIn, same, Dialog.choose?, Dialog.isSome_chooseAmong_iff,
        Dialog.visibleOptions]
    · simp [Dialog.chooseIn, same, ih]

/-- Whether a dialog of an actor can be shown: the actor is there and has it, with an option that is
visible. -/
structure World.Shows (w : World) (scene id dialog : String) (shown : Dialog) : Prop where
  found : (w.actor? scene id).bind (·.dialog? dialog) = some shown
  offers : shown.visibleOptions ≠ []

/-- In a dialog that can be shown an option can be chosen. -/
theorem World.Shows.choosable {w : World} {scene id dialog : String} {shown : Dialog}
    (shows : w.Shows scene id dialog shown) :
    ((w.actor? scene id).bind (·.chooseOption? dialog 0)).isSome := by
  obtain ⟨actor, present, isShown⟩ := Option.bind_eq_some_iff.mp shows.found
  rw [present, Option.bind_some, Actor.isSome_chooseOption?_iff]
  exact ⟨shown, isShown, List.length_pos_iff.mpr shows.offers⟩

/-- A verb that is found on an owner belongs to it. -/
theorem Stage.owner_of_resolve? {s : Stage} {owner : Owner} {id : String} {target : Option String}
    {h : Handle} (named : s.resolve? owner id target = some h) : h.owner = owner := by
  unfold resolve? at named
  split at named
  · rcases Option.map_eq_some_iff.mp named with ⟨key, _, rfl⟩
    rfl
  · cases named

/-- The key of a verb that has been looked for has the id that was looked for. -/
theorem Stage.id_of_resolve? {s : Stage} {owner : Owner} {id : String} {target : Option String}
    {h : Handle} (named : s.resolve? owner id target = some h) : h.key.id = id := by
  unfold resolve? at named
  split at named
  · rcases Option.map_eq_some_iff.mp named with ⟨key, found, rfl⟩
    have candidate := List.mem_of_find?_eq_some found
    simp only [Key.candidates, List.mem_cons, List.not_mem_nil, or_false] at candidate
    rcases candidate with rfl | rfl | rfl | rfl <;> rfl
  · cases named

/-! ## Effects -/

namespace Frame

variable {f f' : Frame} {outcome : Outcome}

/-- A change of the stage that succeeds lets the verb proceed on the changed stage. -/
theorem onStage_eq_ok {effect : Except Fault Stage}
    (done : (effect.map fun stage => (Outcome.proceed, { f with stage })) = .ok (outcome, f')) :
    outcome = .proceed ∧ ∃ stage, effect = .ok stage ∧ f' = { f with stage } := by
  cases effect with
  | error reason => cases done
  | ok stage =>
    cases done
    exact ⟨rfl, stage, rfl, rfl⟩

/-- What a target names in a scene is in the scene in which the verb acts. -/
theorem sceneId_of_target {target : Target} {owner : Owner} {scene : String}
    (named : f.target target = .ok owner) (inScene : owner.sceneId? = some scene) :
    f.sceneId = .ok scene := by
  cases target with
  | owner =>
    cases named
    simp only [sceneId, inScene]
  | world =>
    cases named
    cases inScene
  | actor id | scene =>
    simp only [Frame.target] at named
    cases here : f.sceneId with
    | error reason =>
      rw [here] at named
      cases named
    | ok home =>
      rw [here] at named
      cases named
      cases inScene
      rfl

/-- The actor that a reference means is in the scene in which the verb acts. -/
theorem sceneId_of_actorRef {actor : Option String} {scene id : String}
    (named : f.actorRef actor = .ok (scene, id)) : f.sceneId = .ok scene := by
  unfold actorRef at named
  split at named
  · cases here : f.sceneId with
    | error reason =>
      rw [here] at named
      cases named
    | ok home =>
      rw [here] at named
      cases named
      rfl
  · next isActor =>
    cases named
    simp only [sceneId, isActor, Owner.sceneId?]
  · cases named

/-- An actor that is found is in the world and is the one that is meant. -/
theorem actorRef_of_actor {actor : Option String} {scene id : String} {found : Actor}
    (done : f.actor actor = .ok (scene, id, found)) :
    f.actorRef actor = .ok (scene, id) ∧ f.stage.world.actor? scene id = some found := by
  obtain ⟨⟨scene', id'⟩, named, looked⟩ := Except.exists_of_bind_eq_ok done
  simp only at looked
  split at looked
  · next present =>
    cases looked
    exact ⟨named, present⟩
  · cases looked

/-- An actor that is found is in the world, in the scene in which the verb acts. -/
theorem actor_eq_ok {actor : Option String} {scene id : String} {found : Actor}
    (done : f.actor actor = .ok (scene, id, found)) :
    f.sceneId = .ok scene ∧ f.stage.world.actor? scene id = some found := by
  obtain ⟨named, present⟩ := actorRef_of_actor done
  exact ⟨sceneId_of_actorRef named, present⟩

theorem setState_eq_ok {target : Target} {state : Option String}
    (done : f.setState target state = .ok (outcome, f')) :
    outcome = .proceed ∧ ∃ owner text, f.target target = .ok owner ∧
      (f.stage.world.state? owner).isSome ∧
      f' = f.after [.setState owner state, .note .info text] := by
  obtain ⟨owner, named, rest⟩ := Except.exists_of_bind_eq_ok done
  split at rest
  · cases rest
  · next present =>
    cases rest
    exact ⟨rfl, owner, _, named, by simpa [Option.isSome_iff_ne_none] using present, rfl⟩

theorem setProperty_eq_ok {target : Target} {name : String} {value : Option String}
    (done : f.setProperty target name value = .ok (outcome, f')) :
    outcome = .proceed ∧ ∃ owner text, f.target target = .ok owner ∧
      (f.stage.world.properties? owner).isSome ∧
      f' = f.after [.setProperty owner name value, .note .info text] := by
  obtain ⟨owner, named, rest⟩ := Except.exists_of_bind_eq_ok done
  split at rest
  · cases rest
  · next present =>
    cases rest
    exact ⟨rfl, owner, _, named, by simpa [Option.isSome_iff_ne_none] using present, rfl⟩

theorem putActor_eq_ok {actor : Option String} {pos : Point}
    (done : f.putActor actor pos = .ok (outcome, f')) :
    outcome = .proceed ∧ ∃ scene id text, f.sceneId = .ok scene ∧
      (f.stage.world.actor? scene id).isSome ∧
      f' = f.after [.place scene id pos, .note .info text] := by
  obtain ⟨⟨scene, id, found⟩, present, rest⟩ := Except.exists_of_bind_eq_ok done
  rcases actor_eq_ok present with ⟨inScene, isThere⟩
  cases rest
  exact ⟨rfl, scene, id, _, inScene, by simp [isThere], rfl⟩

theorem startWalk_eq_ok {actor : Option String} {pos : Point} {start : Option Point}
    (done : f.startWalk actor pos = .ok (start, f')) :
    ∃ text, (start = none ∧ f' = f.after [.note .info text]) ∨
      ∃ walker, start.isSome ∧ f' = f.after [.note .info text, .emit (.walk walker pos)] := by
  obtain ⟨⟨scene, id, found⟩, present, rest⟩ := Except.exists_of_bind_eq_ok done
  simp only at rest
  split at rest
  · cases rest
    exact ⟨_, .inl ⟨rfl, rfl⟩⟩
  · cases rest
    exact ⟨_, .inr ⟨_, rfl, rfl⟩⟩

theorem playAnimation_eq_ok {actor : Option String} {animation : String} {waits : Bool}
    (done : f.playAnimation actor animation waits = .ok (outcome, f')) :
    outcome = .parkIf waits ∧ ∃ scene id text name, f.sceneId = .ok scene ∧
      (f.stage.world.actor? scene id).isSome ∧
      f' = f.after [.animate scene id animation, .note .info text,
        .emit (.animation name animation)] := by
  obtain ⟨⟨scene, id, found⟩, present, rest⟩ := Except.exists_of_bind_eq_ok done
  rcases actor_eq_ok present with ⟨inScene, isThere⟩
  cases rest
  exact ⟨rfl, scene, id, _, _, inScene, by simp [isThere], rfl⟩

theorem playSound_eq_ok {actor : Option String} {sound : String}
    (done : f.playSound actor sound = .ok (outcome, f')) :
    outcome = .proceed ∧ ∃ scene id text name, ∃ effect : Sound, f.sceneId = .ok scene ∧
      (f.stage.world.actor? scene id).isSome ∧
      f' = f.after [.playSound scene id sound, .note .info text,
        .emit (.sound name effect.id effect.file effect.looping effect.volume)] := by
  obtain ⟨⟨scene, id, found⟩, present, rest⟩ := Except.exists_of_bind_eq_ok done
  rcases actor_eq_ok present with ⟨inScene, isThere⟩
  simp only at rest
  split at rest
  · cases rest
  · cases rest
    exact ⟨rfl, scene, id, _, _, _, inScene, by simp [isThere], rfl⟩

theorem say_eq_ok {actor : Option String} {line : String} {waits : Bool}
    (done : f.say actor line waits = .ok (outcome, f')) :
    outcome = .parkIf waits ∧ ∃ text name,
      f' = f.after [.note .info text, .emit (.speech name line)] := by
  obtain ⟨⟨scene, id, found⟩, present, rest⟩ := Except.exists_of_bind_eq_ok done
  cases rest
  exact ⟨rfl, _, _, rfl⟩

/-- A dialog without options is passed over.  Any other is opened, unless that of another verb is
open, and the front end is told what its visible options say. -/
theorem showDialog_eq_ok {actor : Option String} {dialog : String}
    (done : f.showDialog actor dialog = .ok (outcome, f')) :
    (outcome = .proceed ∧ ∃ text, f' = f.after [.note .info text]) ∨
      (outcome = .park ∧ ∃ scene id text shown, f.actorRef actor = .ok (scene, id) ∧
        (∀ other, f.stage.world.openDialog = some other → other.handle = f.handle) ∧
        f.stage.world.Shows scene id dialog shown ∧
        f' = f.after [.note .info text, .openDialog ⟨f.handle, scene, id, dialog⟩,
          .emit (.dialogOpened id dialog (shown.visibleOptions.map (·.text)))]) := by
  obtain ⟨⟨scene, id, found⟩, present, rest⟩ := Except.exists_of_bind_eq_ok done
  obtain ⟨meant, isThere⟩ := actorRef_of_actor present
  simp only at rest
  split at rest
  · cases rest
  · next shown isShown =>
    split at rest
    · cases rest
      exact .inl ⟨rfl, _, rfl⟩
    · next offers =>
      have shows : f.stage.world.Shows scene id dialog shown := by
        constructor
        · rw [isThere]
          exact isShown
        · rintro none
          simp [none] at offers
      split at rest
      · next noOther =>
        cases rest
        exact .inr ⟨rfl, scene, id, _, shown, meant, by simp [noOther], shows, rfl⟩
      · next other isOpen =>
        split at rest
        · next own =>
          cases rest
          refine .inr ⟨rfl, scene, id, _, shown, meant, ?_, shows, rfl⟩
          rintro _ same
          rw [isOpen] at same
          cases same
          exact own
        · cases rest

/-- Looking for a verb to run inside this one only adds a line to the journal. -/
theorem inlineVerb_eq_ok {whose : Target} {verb : String} {target : Option String}
    {answer : Option (Owner × List Action)}
    (done : f.inlineVerb whose verb target = .ok (answer, f')) : ∃ text, f' = f.info text := by
  obtain ⟨owner, _, rest⟩ := Except.exists_of_bind_eq_ok done
  split at rest
  · cases rest
    exact ⟨_, rfl⟩
  · split at rest
    · cases rest
    · split at rest
      · cases rest
      · cases rest
        exact ⟨_, rfl⟩

/-- A verb that is run inside this one is another one that is in its table, and it is run as it was
written. -/
theorem inlineVerb_eq_some {whose : Target} {verb : String} {target : Option String}
    {owner : Owner} {actions : List Action}
    (done : f.inlineVerb whose verb target = .ok (some (owner, actions), f')) :
    ∃ h script, f.target whose = .ok owner ∧ f.stage.resolve? owner verb target = some h ∧
      h ≠ f.handle ∧ f.stage.world.script? h = some script ∧ actions = script.reset.actions := by
  obtain ⟨_, isOwner, rest⟩ := Except.exists_of_bind_eq_ok done
  split at rest
  · cases rest
  · next h named =>
    split at rest
    · cases rest
    · next other =>
      split at rest
      · cases rest
      · next script found =>
        cases rest
        exact ⟨h, script, isOwner, named, other, found, rfl⟩

/-- There is no verb to cancel, or the verb itself is asked to end, or another one is cancelled; that
it could not be is noted. -/
theorem cancelNamed_eq_ok {whose : Target} {verb : String} {target : Option String}
    (done : f.cancelNamed whose verb target = .ok (outcome, f')) :
    outcome = .proceed ∧ ∃ text, (∃ requested, f' = { f.info text with cancelRequested := requested })
      ∨ ∃ h, f.target whose = .ok h.owner ∧ h ≠ f.handle ∧ ∃ stage,
        f' = { f.info text with stage } ∧
        (stage = ((f.info text).stage.cancelVerb h).2 ∨
          ∃ warning, stage = ((f.info text).stage.cancelVerb h).2.warn warning) := by
  obtain ⟨owner, isOwner, rest⟩ := Except.exists_of_bind_eq_ok done
  split at rest
  · cases rest
    exact ⟨rfl, _, .inl ⟨_, rfl⟩⟩
  · next h named =>
    split at rest
    · cases rest
      exact ⟨rfl, _, .inl ⟨_, rfl⟩⟩
    · next other =>
      simp only [Except.ok.injEq, Prod.mk.injEq] at rest
      obtain ⟨rfl, rfl⟩ := rest
      rw [← Stage.owner_of_resolve? named] at isOwner
      refine ⟨rfl, _, .inr ⟨h, isOwner, other, _, rfl, ?_⟩⟩
      split
      · exact .inl rfl
      · exact .inr ⟨_, rfl⟩

theorem addVerb_eq_ok {whose : Target} {key : Key} {script : Script Action}
    (done : f.addVerb whose key script = .ok (outcome, f')) :
    outcome = .proceed ∧ ∃ owner text, f.target whose = .ok owner ∧ owner ≠ f.handle.owner ∧
      (f.stage.world.verbs? owner).isSome ∧
      f' = f.after [.note .info text, .install ⟨owner, key⟩ script.reset] := by
  obtain ⟨owner, named, rest⟩ := Except.exists_of_bind_eq_ok done
  split at rest
  · cases rest
  · next notOwn =>
    split at rest
    · cases rest
    · next present =>
      cases rest
      exact ⟨rfl, owner, _, named, notOwn, by simpa [Option.isSome_iff_ne_none] using present, rfl⟩

/-- The scene that is found is the one in which the verb acts, and is in the world. -/
theorem scene_eq_ok {id : String} {scene : Scene} (done : f.scene = .ok (id, scene)) :
    f.sceneId = .ok id ∧ f.stage.world.scene? id = some scene := by
  obtain ⟨id', here, rest⟩ := Except.exists_of_bind_eq_ok done
  split at rest
  · next present =>
    cases rest
    exact ⟨here, present⟩
  · cases rest

theorem removeActor_eq_ok {id : String}
    (done : f.removeActor id = .ok (outcome, f')) :
    outcome = .proceed ∧ ∃ scene text, f.sceneId = .ok scene ∧
      (f.stage.world.actor? scene id).isSome ∧
      f' = f.after [.remove scene id, .note .info text] := by
  obtain ⟨⟨sceneId, scene⟩, found, rest⟩ := Except.exists_of_bind_eq_ok done
  rcases scene_eq_ok found with ⟨here, inWorld⟩
  simp only at rest
  split at rest
  · cases rest
  · next removed left gone =>
    cases rest
    have present : (scene.actor? id).isSome := by
      simp only [Scene.removeActor?, Option.map_eq_some_iff] at gone
      obtain ⟨a, present, _⟩ := gone
      simp [present]
    have same : f.stage.world.modifyScene sceneId (fun _ => left) =
        f.stage.world.modifyScene sceneId (·.without id) := by
      refine World.modifyScene_congr fun s found => ?_
      rw [inWorld] at found
      cases found
      simp [Scene.without, gone]
    have isPresent : (f.stage.world.actor? sceneId id).isSome := by
      simp [World.actor?, inWorld, present]
    refine ⟨rfl, sceneId, s!"actor '{id}' removed from scene '{scene.id}'", here, isPresent, ?_⟩
    simp only [after, Deed.applyAll_cons, Deed.applyAll_nil, Deed.apply, Stage.mapWorld, ← same]
    rfl

/-- Putting a changed scene in place of the one that was found is to dress the actor in it. -/
private theorem replace_eq_dress {sceneId id text : String} {scene moved : Scene}
    {visible interaction : Option Bool} {layer : Option String}
    (inWorld : f.stage.world.scene? sceneId = some scene)
    (isMoved : (layer.bind (scene.moveToLayer? id ·)).getD scene = moved) :
    (f.mapWorld (·.modifyScene sceneId fun _ =>
        { moved with
          actors := moved.actors.modify id fun a =>
            { a with
              visible := visible.getD a.visible
              interaction := interaction.getD a.interaction } })).info text =
      f.after [.dress sceneId id visible interaction layer, .note .info text] := by
  have same : f.stage.world.modifyScene sceneId (fun _ =>
        { moved with
          actors := moved.actors.modify id fun a =>
            { a with
              visible := visible.getD a.visible
              interaction := interaction.getD a.interaction } }) =
      f.stage.world.modifyScene sceneId (·.dress id visible interaction layer) := by
    refine World.modifyScene_congr fun s found => ?_
    rw [inWorld] at found
    cases found
    simp [Scene.dress, isMoved]
  simp only [after, Deed.applyAll_cons, Deed.applyAll_nil, Deed.apply, Stage.mapWorld, ← same]
  rfl

theorem setActorAttr_eq_ok {actor : Option String} {visible interaction : Option Bool}
    {layer : Option String}
    (done : f.setActorAttr actor visible interaction layer = .ok (outcome, f')) :
    outcome = .proceed ∧ ∃ scene id text, f.sceneId = .ok scene ∧
      (f.stage.world.actor? scene id).isSome ∧
      f' = f.after [.dress scene id visible interaction layer, .note .info text] := by
  obtain ⟨⟨sceneId, id⟩, found, rest⟩ := Except.exists_of_bind_eq_ok done
  simp only at rest
  split at rest
  · cases rest
  · next scene inWorld =>
    cases layer with
    | none =>
      simp only at rest
      split at rest
      · next present =>
        have isPresent : (f.stage.world.actor? sceneId id).isSome := by
          simpa [World.actor?, inWorld, Scene.actor?, Roster.contains] using present
        cases rest
        exact ⟨rfl, sceneId, id, _, sceneId_of_actorRef found, isPresent,
          replace_eq_dress inWorld rfl⟩
      · cases rest
    | some layer =>
      simp only at rest
      split at rest
      · next moved there =>
        have present : (scene.actor? id).isSome := by
          unfold Scene.moveToLayer? at there
          split at there
          · next present => exact present
          · cases there
        have isPresent : (f.stage.world.actor? sceneId id).isSome := by
          simp [World.actor?, inWorld, present]
        have isMoved : ((some layer).bind (scene.moveToLayer? id ·)).getD scene = moved := by
          simp [there]
        cases rest
        exact ⟨rfl, sceneId, id, _, sceneId_of_actorRef found, isPresent,
          replace_eq_dress inWorld isMoved⟩
      · cases rest

/-- A walking actor is put where it has come to. -/
theorem walkOn_eq_ok {actor : Option String} {goal : Point} {speed : Option Single}
    {delta : Single} {arrived : Bool} (done : f.walkOn actor goal speed delta = .ok (arrived, f')) :
    ∃ scene id pos, f.sceneId = .ok scene ∧
      (f.stage.world.actor? scene id).isSome ∧
      f' = f.after [.place scene id pos] := by
  unfold walkOn at done
  simp only at done
  split at done
  · obtain ⟨⟨scene, id, walker⟩, present, rest⟩ := Except.exists_of_bind_eq_ok done
    rcases actor_eq_ok present with ⟨inScene, isThere⟩
    cases rest
    exact ⟨scene, id, _, inScene, by simp [isThere], rfl⟩
  · cases done

end Frame

/-- Control is handed over with one deed. -/
theorem Stage.setPlayer_eq_ok {s s' : Stage} {actor : Option String}
    (done : s.setPlayer actor = .ok s') :
    (∀ id, actor = some id → (s.world.current?.bind (·.actor? id)).isSome) ∧
      ∃ text, s' = Deed.applyAll [.setPlayer actor, .note .info text] s := by
  unfold Stage.setPlayer at done
  cases actor with
  | none =>
    simp only [if_true] at done
    cases done
    exact ⟨nofun, _, rfl⟩
  | some id =>
    simp only at done
    split at done
    · next present =>
      cases done
      refine ⟨?_, _, rfl⟩
      rintro _ ⟨⟩
      exact present
    · cases done

/-- Control is handed over to an actor of the current scene. -/
theorem Stage.setPlayer_of_present {s : Stage} {id : String}
    (present : (s.world.current?.bind (·.actor? id)).isSome) :
    ∃ text, s.setPlayer (some id) =
      .ok (Deed.applyAll [.setPlayer (some id), .note .info text] s) :=
  ⟨_, if_pos present⟩

/-! ## Direct actions -/

/-- Whether an action acts on the world directly: it starts no script, and has to do with no other
verb and no dialog. -/
def Action.isDirect : Action → Bool
  | .showDialog .. | .conditional .. | .runVerb .. | .cancelVerb .. | .addVerb ..
  | .changeScene .. => false
  | _ => true

/-- Whether an event is about a dialog. -/
@[simp] def Event.isAboutDialog : Event → Bool
  | .dialogOpened .. | .dialogClosed .. => true
  | _ => false

/-- Whether a direct action asks for a deed, as far as its kind goes.  An actor is removed, or shown
in another way, only as an action says, no event is about a dialog, and no direct action installs a
verb or goes to another scene. -/
def Action.Asks (action : Action) : Deed → Prop
  | .install .. | .goTo _ => False
  | .remove _ id => action = .removeActor id
  | .dress _ _ visible interaction layer =>
    ∃ actor, action = .setActorAttr actor visible interaction layer
  | .emit event => event.isAboutDialog = false
  | _ => True

/-- Whether a deed befits an action that is performed in a frame: the action asks for it, and it is
done in the scene in which the verb acts. -/
structure Frame.Befits (f : Frame) (action : Action) (deed : Deed) : Prop where
  inScene : ∀ scene, deed.sceneId? = some scene → f.sceneId = .ok scene
  asked : action.Asks deed

/-- A direct action goes to no other scene. -/
theorem Frame.Befits.stays {f : Frame} {action : Action} {deed : Deed}
    (befits : f.Befits action deed) (scene : String) : deed ≠ .goTo scene := by
  rintro rfl
  exact befits.asked

/-- What a direct action does when it is performed: some deeds that it may do and that befit it.  It
has gained no more than progress, and a script that it parks may be parked on it. -/
structure Frame.Acts (f : Frame) (action action' : Action) (outcome : Outcome) (f' : Frame) :
    Prop where
  direct : action'.isDirect
  reset_eq : action'.reset = action.reset
  sound : outcome = .park → action'.corruption? = none
  deeds : ∃ deeds, f' = f.after deeds ∧ Deed.AllAllowed (some f.handle) f.stage deeds ∧
    ∀ deed ∈ deeds, f.Befits action deed

namespace Frame

variable {f f' : Frame} {outcome : Outcome} {action action' : Action}

/-- A deed that names no scene befits an action that asks for it. -/
private theorem befits_of_nowhere {deed : Deed} (nowhere : deed.sceneId? = none)
    (asked : action.Asks deed) : f.Befits action deed where
  inScene scene inScene := by
    rw [nowhere] at inScene
    cases inScene
  asked := asked

@[simp] theorem befits_note (level : Level) (text : String) :
    f.Befits action (.note level text) :=
  befits_of_nowhere rfl trivial

@[simp] theorem befits_emit_iff (event : Event) :
    f.Befits action (.emit event) ↔ event.isAboutDialog = false :=
  ⟨fun befits => befits.asked, fun calm => befits_of_nowhere rfl calm⟩

@[simp] theorem befits_setPlayer (actor : Option String) : f.Befits action (.setPlayer actor) :=
  befits_of_nowhere rfl trivial

/-- A deed in the scene in which the verb acts befits an action that asks for it. -/
private theorem befits_of_sceneId {deed : Deed} {scene : String} (here : f.sceneId = .ok scene)
    (done : deed.sceneId? = some scene) (asked : action.Asks deed) : f.Befits action deed where
  inScene := by
    intro other inOther
    rw [done] at inOther
    cases inOther
    exact here
  asked := asked

/-- An effect that is attempted is what an action does, if that is so when it succeeds. -/
private theorem acts_of_attempt {effect : Except Fault (Outcome × Frame)}
    (attempted : f.attempt effect = (outcome, f')) (direct : action'.isDirect)
    (reset_eq : action'.reset = action.reset)
    (succeeds : ∀ outcome f', effect = .ok (outcome, f') →
      (outcome = .park → action'.corruption? = none) ∧
        ∃ deeds, f' = f.after deeds ∧ Deed.AllAllowed (some f.handle) f.stage deeds ∧
          ∀ deed ∈ deeds, f.Befits action deed) :
    f.Acts action action' outcome f' := by
  rcases attempt_eq attempted with done | ⟨reason, _, rfl, rfl⟩
  · rcases succeeds outcome f' done with ⟨sound, deeds⟩
    exact ⟨direct, reset_eq, sound, deeds⟩
  · exact ⟨direct, reset_eq, by simp, [], rfl, trivial, by simp⟩

/-- What an action notes before it acts is one more deed of it. -/
private theorem Acts.noted {text : String} (acts : (f.info text).Acts action action' outcome f') :
    f.Acts action action' outcome f' := by
  rcases acts with ⟨direct, reset_eq, sound, deeds, rfl, allowed, befit⟩
  have noted : ∀ deed ∈ deeds, f.Befits action deed :=
    fun deed member => ⟨(befit deed member).inScene, (befit deed member).asked⟩
  exact ⟨direct, reset_eq, sound, .note .info text :: deeds, rfl, ⟨trivial, allowed⟩,
    List.forall_mem_cons.mpr ⟨befits_note .info text, noted⟩⟩

end Frame

/-- Performing a direct action is what it does directly, whatever performs the scripts of others. -/
theorem Action.performWith_acts (inner : Option Performer) {action action' : Action}
    {f f' : Frame} {outcome : Outcome} (direct : action.isDirect)
    (performed : Action.performWith inner action f = (action', outcome, f')) :
    f.Acts action action' outcome f' := by
  cases action with
  | setState target state =>
    rcases Prod.mk.inj performed with ⟨rfl, attempted⟩
    apply Frame.acts_of_attempt attempted rfl rfl
    intro outcome f' done
    rcases Frame.setState_eq_ok done with ⟨rfl, owner, text, named, present, rfl⟩
    have befits : f.Befits (.setState target state) (.setState owner state) :=
      ⟨fun scene => Frame.sceneId_of_target named, trivial⟩
    exact ⟨by simp, _, rfl, ⟨present, trivial, trivial⟩, by simp [befits]⟩
  | setProperty target name value =>
    rcases Prod.mk.inj performed with ⟨rfl, attempted⟩
    apply Frame.acts_of_attempt attempted rfl rfl
    intro outcome f' done
    rcases Frame.setProperty_eq_ok done with ⟨rfl, owner, text, named, present, rfl⟩
    have befits : f.Befits (.setProperty target name value) (.setProperty owner name value) :=
      ⟨fun scene => Frame.sceneId_of_target named, trivial⟩
    exact ⟨by simp, _, rfl, ⟨present, trivial, trivial⟩, by simp [befits]⟩
  | setActorAttr actor visible interaction layer =>
    rcases Prod.mk.inj performed with ⟨rfl, attempted⟩
    apply Frame.acts_of_attempt attempted rfl rfl
    intro outcome f' done
    rcases Frame.setActorAttr_eq_ok done with ⟨rfl, scene, id, text, here, present, rfl⟩
    have befits : f.Befits (.setActorAttr actor visible interaction layer)
        (.dress scene id visible interaction layer) :=
      Frame.befits_of_sceneId here rfl ⟨actor, rfl⟩
    exact ⟨by simp, _, rfl, ⟨present, trivial, trivial⟩, by simp [befits]⟩
  | position actor pos =>
    rcases Prod.mk.inj performed with ⟨rfl, attempted⟩
    apply Frame.acts_of_attempt attempted rfl rfl
    intro outcome f' done
    rcases Frame.putActor_eq_ok done with ⟨rfl, scene, id, text, here, present, rfl⟩
    have befits : f.Befits (.position actor pos) (.place scene id pos) :=
      Frame.befits_of_sceneId here rfl trivial
    exact ⟨by simp, _, rfl, ⟨present, trivial, trivial⟩, by simp [befits]⟩
  | goto actor pos speed origin =>
    simp only [Action.performWith] at performed
    split at performed
    · next start f₁ walks =>
      cases performed
      rcases Frame.startWalk_eq_ok walks with ⟨text, ⟨isNone, _⟩ | ⟨walker, _, rfl⟩⟩
      · cases isNone
      · exact ⟨rfl, rfl, fun _ => rfl, _, rfl, ⟨trivial, trivial, trivial⟩, by simp⟩
    · next f₁ stays =>
      cases performed
      rcases Frame.startWalk_eq_ok stays with ⟨text, ⟨_, rfl⟩ | ⟨walker, isSome, _⟩⟩
      · exact ⟨rfl, rfl, by simp, _, rfl, ⟨trivial, trivial⟩, by simp⟩
      · cases isSome
    · cases performed
      exact ⟨rfl, rfl, by simp, [], rfl, trivial, by simp⟩
  | playAnimation actor animation duration waits elapsed =>
    rcases Prod.mk.inj performed with ⟨rfl, attempted⟩
    refine Frame.acts_of_attempt attempted rfl rfl ?_
    intro outcome f' done
    rcases Frame.playAnimation_eq_ok done with ⟨rfl, scene, id, text, name, here, present, rfl⟩
    have befits : f.Befits (.playAnimation actor animation duration waits elapsed)
        (.animate scene id animation) := Frame.befits_of_sceneId here rfl trivial
    constructor
    · cases waits <;>
        simp [Outcome.parkIf, Action.corruption?, Action.parkingFault?, Action.canPark]
    · exact ⟨_, rfl, ⟨present, trivial, trivial, trivial⟩, by simp [befits]⟩
  | playSound actor sound =>
    rcases Prod.mk.inj performed with ⟨rfl, attempted⟩
    apply Frame.acts_of_attempt attempted rfl rfl
    intro outcome f' done
    rcases Frame.playSound_eq_ok done with ⟨rfl, scene, id, text, name, effect, here, present, rfl⟩
    have befits : f.Befits (.playSound actor sound) (.playSound scene id sound) :=
      Frame.befits_of_sceneId here rfl trivial
    exact ⟨by simp, _, rfl, ⟨present, trivial, trivial, trivial⟩, by simp [befits]⟩
  | say actor text duration waits elapsed =>
    rcases Prod.mk.inj performed with ⟨rfl, attempted⟩
    refine Frame.acts_of_attempt attempted rfl rfl ?_
    intro outcome f' done
    rcases Frame.say_eq_ok done with ⟨rfl, text, name, rfl⟩
    constructor
    · cases waits <;>
        simp [Outcome.parkIf, Action.corruption?, Action.parkingFault?, Action.canPark]
    · exact ⟨_, rfl, ⟨trivial, trivial, trivial⟩, by simp⟩
  | wait seconds elapsed =>
    cases performed
    exact ⟨rfl, rfl, fun _ => rfl, [.note .info _], rfl, ⟨trivial, trivial⟩, by simp⟩
  | setPlayer actor =>
    rcases Prod.mk.inj performed with ⟨rfl, attempted⟩
    apply Frame.Acts.noted
    apply Frame.acts_of_attempt attempted rfl rfl
    intro outcome f' done
    rcases Frame.onStage_eq_ok done with ⟨rfl, stage, set, rfl⟩
    rcases Stage.setPlayer_eq_ok set with ⟨present, text, rfl⟩
    exact ⟨by simp, _, rfl, ⟨present, trivial, trivial⟩, by simp⟩
  | removeActor actor =>
    rcases Prod.mk.inj performed with ⟨rfl, attempted⟩
    apply Frame.Acts.noted
    apply Frame.acts_of_attempt attempted rfl rfl
    intro outcome f' done
    rcases Frame.removeActor_eq_ok done with ⟨rfl, scene, text, here, present, rfl⟩
    have befits : (f.info s!"└─ action: RemoveActor({actor})").Befits (.removeActor actor)
        (.remove scene actor) :=
      Frame.befits_of_sceneId here rfl rfl
    exact ⟨by simp, _, rfl, ⟨⟨rfl, present⟩, trivial, trivial⟩, by simp [befits]⟩
  | _ => cases direct

end Stagecraft
