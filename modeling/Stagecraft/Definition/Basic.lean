import Stagecraft.Table
import Stagecraft.Geometry
import Stagecraft.Verb.Condition

/-!
# World definitions

A definition is what an author writes: the scenes, actors and verbs with which a game begins, and
nothing about its progress.
-/

namespace Stagecraft

/-- An action as an author writes it.  An actor that is left out is the owner. -/
inductive Instruction where
  | setState (target : Target) (state : Option String)
  | setProperty (target : Target) (name : String) (value : Option String)
  | setActorAttr (actor : Option String) (visible interaction : Option Bool)
      (layer : Option String)
  | position (actor : Option String) (pos : Point)
  | goto (actor : Option String) (pos : Point) (speed : Option Single)
  | playAnimation (actor : Option String) (animation : String) (duration : Single) (wait : Bool)
  | playSound (actor : Option String) (sound : String)
  | say (actor : Option String) (text : String) (duration : Option Single) (wait : Bool)
  | wait (seconds : Single)
  | showDialog (actor : Option String) (dialog : String)
  | conditional (condition : Condition) (body : List Instruction)
  | runVerb (whose : Target) (verb : String) (target : Option String)
  | cancelVerb (whose : Target) (verb : String) (target : Option String)
  | addVerb (whose : Target) (key : Key) (body : List Instruction)
  | changeScene (scene : String)
  | setPlayer (actor : Option String)
  | removeActor (actor : String)
deriving Inhabited

/-- A verb as an author writes it. -/
structure VerbDefinition where
  key : Key
  body : List Instruction
deriving Inhabited

/-- A layer of a scene. -/
structure LayerDefinition where
  name : String
  visible : Bool
  dynamic : Bool
deriving Inhabited

/-- An option of a dialog. -/
structure OptionDefinition where
  text : String
  verb : Option String
  once : Bool
deriving Inhabited

/-- A dialog of an actor. -/
structure DialogDefinition where
  id : String
  options : List OptionDefinition
deriving Inhabited

/-- A sound of an actor. -/
structure SoundDefinition where
  id : String
  file : String
  looping : Bool
  volume : Single
deriving Inhabited

/-- An actor.  Its corners are relative to its place, and without corners it has no region. -/
structure ActorDefinition where
  id : String
  desc : String
  layer : String
  pos : Point
  corners : List Point
  zIndex : Single
  state : Option String
  visible : Bool
  interaction : Bool
  verbs : List VerbDefinition
  dialogs : List DialogDefinition
  sounds : List SoundDefinition
  properties : Table String String
deriving Inhabited

/-- A scene with its layers from the topmost down. -/
structure SceneDefinition where
  id : String
  state : Option String
  layers : List LayerDefinition
  actors : List ActorDefinition
  verbs : List VerbDefinition
  properties : Table String String
deriving Inhabited

/-- The name of a game and how it begins. -/
structure GameDefinition where
  title : String
  slug : String
  version : String
  initialScene : String
  player : Option String
deriving Inhabited

/-- A whole world as an author writes it. -/
structure Definition where
  game : GameDefinition
  scenes : List SceneDefinition
  verbs : List VerbDefinition
  properties : Table String String
deriving Inhabited

end Stagecraft
