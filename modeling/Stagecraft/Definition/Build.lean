import Stagecraft.Definition.Basic
import Stagecraft.Play.Effect

/-!
# Building a world

A definition becomes a world in which no verb has been started and which stands in its first scene.
Where two scenes or two actors of a scene have one id, the later one counts.
-/

namespace Stagecraft

mutual

/-- The action of an instruction, without progress. -/
def Instruction.toAction : Instruction → Action
  | .setState target state => .setState target state
  | .setProperty target name value => .setProperty target name value
  | .setActorAttr actor visible interaction layer => .setActorAttr actor visible interaction layer
  | .position actor pos => .position actor pos
  | .goto actor pos speed => .goto actor pos speed none
  | .playAnimation actor animation duration waits => .playAnimation actor animation duration waits 0
  | .playSound actor sound => .playSound actor sound
  | .say actor text duration waits => .say actor text duration waits 0
  | .wait seconds => .wait seconds 0
  | .showDialog actor dialog => .showDialog actor dialog
  | .conditional condition body => .conditional condition (.ofActions (Instruction.toActions body))
  | .runVerb whose verb target => .runVerb whose verb target none (.ofActions [])
  | .cancelVerb whose verb target => .cancelVerb whose verb target
  | .addVerb whose key body => .addVerb whose key (.ofActions (Instruction.toActions body))
  | .changeScene scene => .changeScene scene
  | .setPlayer actor => .setPlayer actor
  | .removeActor actor => .removeActor actor

/-- The actions of a list of instructions. -/
def Instruction.toActions : List Instruction → List Action
  | [] => []
  | instruction :: rest => instruction.toAction :: Instruction.toActions rest

end

/-- The verb of a definition, not yet started. -/
def VerbDefinition.toVerb (d : VerbDefinition) : Verb :=
  ⟨d.key, .ofActions (Instruction.toActions d.body)⟩

/-- The table of a list of verb definitions. -/
def VerbDefinition.toTable (definitions : List VerbDefinition) : VerbTable :=
  VerbTable.ofVerbs (definitions.map (·.toVerb))

/-- The dialog of a definition, with no option chosen yet. -/
def DialogDefinition.toDialog (d : DialogDefinition) : Dialog :=
  ⟨d.id, d.options.map fun o => ⟨o.text, o.verb, o.once, false⟩⟩

/-- The actor of a definition. -/
def ActorDefinition.toActor (d : ActorDefinition) : Actor where
  id := d.id
  desc := d.desc
  scene := none
  state := d.state
  verbs := VerbDefinition.toTable d.verbs
  region := ⟨d.corners, d.pos⟩
  layer := d.layer
  zIndex := d.zIndex
  visible := d.visible
  interaction := d.interaction
  properties := d.properties
  dialogs := d.dialogs.map (·.toDialog)
  sounds := d.sounds.map fun s => ⟨s.id, s.file, s.looping, s.volume⟩
  playingSound := none
  animation := none
  playerInside := false

/-- The scene of a definition, with its actors put on their layers one after the other. -/
def SceneDefinition.toScene (d : SceneDefinition) : Scene :=
  let furnished : Scene :=
    { Scene.empty d.id with
      state := d.state
      layers := d.layers.map fun layer => ⟨layer.name, layer.visible, layer.dynamic, []⟩ }
  { d.actors.foldl (fun scene actor => scene.addActor actor.toActor) furnished with
    verbs := VerbDefinition.toTable d.verbs
    properties := d.properties }

/-- Why a definition cannot be built. -/
inductive BuildError where
  | noInitialScene (scene : String)
  | noPlayer (player : String) (reason : Fault)
deriving Inhabited

/-- The wording of a build error, the outermost part first. -/
def BuildError.messages : BuildError → List String
  | .noInitialScene scene => [s!"initial scene '{scene}' not found"]
  | .noPlayer player reason => [s!"placing player '{player}'", reason.message]

/-- The world of a definition, in its first scene, whose verb `init` has not yet run. -/
def Definition.build (d : Definition) : Except BuildError World :=
  let world :=
    { World.empty with
      title := d.game.title
      properties := d.properties
      verbs := VerbDefinition.toTable d.verbs }
  let world := d.scenes.foldl (fun world scene => world.addScene scene.toScene) world
  if world.scenes.contains d.game.initialScene then
    let world := { world with currentScene := some d.game.initialScene }
    match d.game.player with
    | none => .ok world
    | some player =>
      match (Stage.ofWorld world).setPlayer (some player) with
      | .ok stage => .ok stage.world
      | .error reason => .error (.noPlayer player reason)
  else .error (.noInitialScene d.game.initialScene)

end Stagecraft
