import Stagecraft.Decimal.Shortest
import Stagecraft.Definition.Basic
import Stagecraft.Text.Blank

/-!
# Checking a definition

Before a world is built its definition is checked as a whole: ids are distinct, everything that is
named exists where it is looked for, and numbers are in range.  Where an instruction looks for an
actor depends on whose verb it stands in.  Every defect is reported, in the order of the text.
-/

namespace Stagecraft

/-- The kinds of things that have ids. -/
inductive IdKind where
  | scene
  | actor
  | layer
  | dialog
  | sound
deriving DecidableEq, Inhabited

/-- The name of a kind of ids. -/
def IdKind.name : IdKind → String
  | .scene => "scene"
  | .actor => "actor"
  | .layer => "layer"
  | .dialog => "dialog"
  | .sound => "sound"

/-- Something wrong with a definition. -/
inductive Defect where
  | duplicateId (kind : IdKind) (id : String)
  | missingReference (kind : IdKind) (id context : String)
  | invalidValue (context : String)
deriving DecidableEq, Inhabited

/-- The wording of a defect. -/
def Defect.message : Defect → String
  | .duplicateId kind id => s!"duplicate {kind.name} id '{id}'"
  | .missingReference kind id context => s!"missing {kind.name} '{id}' ({context})"
  | .invalidValue context => s!"invalid value ({context})"

/-- The members of a list that stand in it before. -/
def repetitions (seen : List String) : List String → List String
  | [] => []
  | id :: rest =>
    if id ∈ seen then id :: repetitions seen rest else repetitions (id :: seen) rest

/-- A defect for every id that stands in the list before. -/
def duplicateDefects (kind : IdKind) (ids : List String) : List Defect :=
  (repetitions [] ids).map (.duplicateId kind)

/-- A defect unless a condition holds. -/
def defectUnless (sound : Bool) (defect : Defect) : List Defect := if sound then [] else [defect]

/-- Whether both coordinates are finite. -/
def Point.isFinite (p : Point) : Bool := p.x.isFinite && p.y.isFinite

/-- A time has to be finite and not negative. -/
def durationDefects (seconds : Single) (context : String) : List Defect :=
  defectUnless (seconds.isFinite && decide (0 ≤ seconds)) (.invalidValue
    (s!"{context}: duration must be a non-negative number of seconds " ++
      s!"({showSingle seconds})"))

/-- A place has to be finite. -/
def pointDefects (p : Point) (context : String) : List Defect :=
  defectUnless p.isFinite (.invalidValue s!"{context}: non-finite position")

/-- Whose verbs are being checked: an actor's, a scene's if there is no actor, or the world's if
there is no scene either. -/
structure Scope where
  scenes : List SceneDefinition
  scene : Option SceneDefinition
  actor : Option ActorDefinition

namespace Scope

/-- The actors among which a named actor is looked for: those of the scene, or of every scene for a
global verb. -/
def actors (s : Scope) : List ActorDefinition :=
  match s.scene with
  | some scene => scene.actors
  | none => s.scenes.flatMap (·.actors)

/-- The actor that a reference means; one that is left out is the owner of the verb. -/
def actor? (s : Scope) : Option String → Option ActorDefinition
  | some id => s.actors.find? (·.id == id)
  | none => s.actor

/-- A defect if a reference means no actor. -/
def actorDefects (s : Scope) (actor : Option String) (context : String) : List Defect :=
  defectUnless (s.actor? actor).isSome <|
    match actor with
    | some id => .missingReference .actor id context
    | none => .invalidValue s!"{context}: no actor given and the verb is not owned by an actor"

/-- A defect if a target names an actor that does not exist. -/
def targetDefects (s : Scope) (target : Target) (context : String) : List Defect :=
  match target with
  | .actor id => s.actorDefects (some id) context
  | _ => []

/-- A defect if the actor that a reference means lacks a sound or a dialog. -/
def belongingDefects (s : Scope) (actor : Option String) (kind : IdKind)
    (owned : ActorDefinition → List String) (id context : String) : List Defect :=
  match s.actor? actor with
  | some owner =>
    defectUnless ((owned owner).contains id)
      (.missingReference kind id s!"{context} on actor '{owner.id}'")
  | none => []

end Scope

mutual

/-- The defects of a condition. -/
def Condition.defects (scope : Scope) (context : String) : Condition → List Defect
  | .stateIs target _ => scope.targetDefects target context
  | .propertyIs target _ _ => scope.targetDefects target context
  | .visible actor => scope.actorDefects actor context
  | .playerInside actor => scope.actorDefects actor context
  | .not inner => inner.defects scope context
  | .all list => Condition.listDefects scope context list
  | .any list => Condition.listDefects scope context list

/-- The defects of a list of conditions. -/
def Condition.listDefects (scope : Scope) (context : String) : List Condition → List Defect
  | [] => []
  | condition :: rest =>
    condition.defects scope context ++ Condition.listDefects scope context rest

end

/-- A verb has to have an id. -/
def verbIdDefects (id context : String) : List Defect :=
  defectUnless (!Text.isBlankText id) (.invalidValue s!"{context} has a verb with an empty id")

mutual

/-- The defects of an instruction. -/
def Instruction.defects (scope : Scope) (context : String) : Instruction → List Defect
  | .setState target _ => scope.targetDefects target context
  | .setProperty target _ _ => scope.targetDefects target context
  | .setActorAttr actor _ _ _ => scope.actorDefects actor context
  | .position actor pos => scope.actorDefects actor context ++ pointDefects pos context
  | .goto actor pos speed =>
    scope.actorDefects actor context ++ pointDefects pos context ++
      match speed with
      | some speed =>
        defectUnless (speed.isFinite && decide (0 < speed))
          (.invalidValue s!"{context}: walk speed must be positive ({showSingle speed})")
      | none => []
  | .playAnimation actor _ duration _ =>
    scope.actorDefects actor context ++ durationDefects duration context
  | .playSound actor sound =>
    scope.actorDefects actor context ++
      scope.belongingDefects actor .sound (·.sounds.map (·.id)) sound context
  | .say actor _ duration _ =>
    scope.actorDefects actor context ++
      match duration with
      | some duration => durationDefects duration context
      | none => []
  | .wait seconds => durationDefects seconds context
  | .showDialog actor dialog =>
    scope.actorDefects actor context ++
      scope.belongingDefects actor .dialog (·.dialogs.map (·.id)) dialog context
  | .conditional condition body =>
    condition.defects scope context ++
      Instruction.listDefects scope s!"{context} nested " 0 body
  | .runVerb whose verb _ =>
    scope.targetDefects whose context ++
      defectUnless (!Text.isBlankText verb) (.invalidValue s!"{context}: verb id is empty")
  | .cancelVerb whose verb _ =>
    scope.targetDefects whose context ++
      defectUnless (!Text.isBlankText verb) (.invalidValue s!"{context}: verb id is empty")
  | .addVerb whose key body =>
    scope.targetDefects whose context ++ verbIdDefects key.id context ++
      Instruction.listDefects scope s!"{context} verb '{key.id}' action " 0 body
  | .changeScene scene =>
    defectUnless ((scope.scenes.map (·.id)).contains scene)
      (.missingReference .scene scene context)
  | .setPlayer actor =>
    match actor with
    | some id => scope.actorDefects (some id) context
    | none => []
  | .removeActor actor => scope.actorDefects (some actor) context

/-- The defects of a list of instructions, the first of which has the given number. -/
def Instruction.listDefects (scope : Scope) (label : String) (number : Nat) :
    List Instruction → List Defect
  | [] => []
  | instruction :: rest =>
    instruction.defects scope s!"{label}{number}" ++
      Instruction.listDefects scope label (number + 1) rest

end

/-- The defects of a verb. -/
def VerbDefinition.defects (scope : Scope) (context : String) (d : VerbDefinition) : List Defect :=
  verbIdDefects d.key.id context ++
    Instruction.listDefects scope s!"{context} verb '{d.key.id}' action " 0 d.body

/-- The defects of an actor itself, its verbs aside. -/
def ActorDefinition.defects (d : ActorDefinition) (scene : String) : List Defect :=
  let context := s!"actor '{scene}.{d.id}'"
  let count := d.corners.length
  defectUnless (!Text.isBlankText d.id)
      (.invalidValue s!"scene '{scene}' has an actor with an empty id") ++
    defectUnless (count == 0 || 3 ≤ count)
      (.invalidValue s!"{context} hit region needs at least 3 vertices, got {count}") ++
    defectUnless (d.pos.isFinite && d.corners.all (·.isFinite))
      (.invalidValue s!"{context} has non-finite geometry") ++
    duplicateDefects .dialog (d.dialogs.map (·.id)) ++
    duplicateDefects .sound (d.sounds.map (·.id)) ++
    d.sounds.flatMap fun sound =>
      defectUnless (decide (0 ≤ sound.volume) && decide (sound.volume ≤ 1))
        (.invalidValue
          s!"{context} sound '{sound.id}' volume out of range ({showSingle sound.volume})")

/-- The defects of a scene, of its actors and of their verbs. -/
def SceneDefinition.defects (scenes : List SceneDefinition) (d : SceneDefinition) : List Defect :=
  duplicateDefects .actor (d.actors.map (·.id)) ++
    duplicateDefects .layer (d.layers.map (·.name)) ++
    (d.actors.flatMap fun actor =>
      actor.defects d.id ++ actor.verbs.flatMap fun verb =>
        verb.defects ⟨scenes, some d, some actor⟩ s!"actor '{d.id}.{actor.id}'") ++
    d.verbs.flatMap fun verb => verb.defects ⟨scenes, some d, none⟩ s!"scene '{d.id}'"

/-- The defects of the way a game begins. -/
def GameDefinition.defects (scenes : List SceneDefinition) (d : GameDefinition) : List Defect :=
  (if Text.isBlankText d.initialScene then [.invalidValue "game initial scene missing"]
    else
      defectUnless ((scenes.map (·.id)).contains d.initialScene)
        (.missingReference .scene d.initialScene "game initial scene")) ++
    match d.player with
    | none => []
    | some player =>
      defectUnless
        ((scenes.filter (·.id == d.initialScene)).any fun scene =>
          (scene.actors.map (·.id)).contains player)
        (.missingReference .actor player "game player must live in the initial scene")

/-- Everything wrong with a definition, in the order of its text. -/
def Definition.defects (d : Definition) : List Defect :=
  duplicateDefects .scene (d.scenes.map (·.id)) ++ d.game.defects d.scenes ++
    d.scenes.flatMap (·.defects d.scenes) ++
    d.verbs.flatMap (·.defects ⟨d.scenes, none, none⟩ "global verbs")

/-- One message for all defects, if there are any. -/
def Definition.defectMessage? (d : Definition) : Option String :=
  match d.defects with
  | [] => none
  | defects =>
    some ("worlddef validation failed:\n" ++
      "\n".intercalate (defects.map fun defect => "- " ++ defect.message))

end Stagecraft
