import Stagecraft.Decimal.Literal
import Stagecraft.Geometry
import Stagecraft.Text.Blank

/-!
# Commands of the console

A line typed by the player is cut into words at blanks and read as a command.  Things that are shown
with a number are counted from one on the screen and from zero in a command.
-/

namespace Stagecraft

/-- What the player can ask for. -/
inductive Command where
  | look
  | verbs (actor : String)
  | perform (verb actor : String) (target : Option String)
  | click (place : Point) (verb : String)
  | walk (goal : Point)
  | tick (seconds : Option Single)
  | pass (seconds : Single)
  | choose (index : Nat)
  | animationDone (actor : String)
  | running
  | cancel (index : Nat)
  | goTo (scene : String)
  | save (slot : String)
  | load (slot : String)
  | saves
  | help
  | quit
  | unknown
deriving Inhabited

namespace Command

/-- The numbers that can be typed are below this one. -/
def ordinalBound : Nat := 0x10000000000000000

/-- The number that a word writes: digits after an optional plus sign. -/
def readCount? (word : List Char) : Option Nat :=
  let digits :=
    match word with
    | '+' :: rest => rest
    | _ => word
  let value := Decimal.digitsValue 0 digits
  if digits.isEmpty ∨ ¬ digits.all Char.isDigit ∨ ordinalBound ≤ value then none else some value

/-- The index that a number on the screen stands for. -/
def readIndex? (word : String) : Option Nat :=
  match readCount? word.toList with
  | some (index + 1) => some index
  | _ => none

/-- The place that two words give. -/
def readPlace? (x y : String) : Option Point := do
  let x ← readSingle? x
  let y ← readSingle? y
  return ⟨x, y⟩

/-- The words that stand between a verb's actor and the thing it is used on. -/
def isPreposition (word : String) : Bool := word = "with" || word = "on" || word = "using"

/-- The verb that a click runs if no other is given. -/
def standardVerb : String := "lookat"

/-- The command that a row of words gives, if it gives one. -/
def ofWords? : List String → Option Command
  | ["look"] | ["l"] | ["actors"] => some look
  | ["verbs", actor] => some (verbs actor)
  | ["do", verb, actor] => some (perform verb actor none)
  | ["do", verb, actor, preposition, target] =>
    if isPreposition preposition then some (perform verb actor (some target)) else none
  | ["walk", x, y] | ["go", x, y] => (readPlace? x y).map walk
  | ["click", x, y] => (readPlace? x y).map (click · standardVerb)
  | ["click", x, y, verb] => (readPlace? x y).map (click · verb)
  | ["tick"] => some (tick none)
  | ["tick", seconds] => (readSingle? seconds).map fun s => tick (some s)
  | ["wait", seconds] => ((readSingle? seconds).filter (0 ≤ ·)).map pass
  | ["choose", number] | ["say", number] => (readIndex? number).map choose
  | ["done", actor] => some (animationDone actor)
  | ["scene", scene] => some (goTo scene)
  | ["running"] | ["ps"] => some running
  | ["cancel", number] => (readIndex? number).map cancel
  | ["save", slot] => some (save slot)
  | ["load", slot] => some (load slot)
  | ["saves"] | ["load"] => some saves
  | ["help"] | ["?"] => some help
  | ["quit"] | ["exit"] => some quit
  | _ => none

/-- The command that a line gives. -/
def parse (line : String) : Command := (ofWords? (Text.words line)).getD unknown

end Command

end Stagecraft
