import Stagecraft.Play.Operations
import Stagecraft.Ron.Write
import Stagecraft.Save.Decode
import Stagecraft.Save.Encode

/-!
# Saving and loading

A world is saved as the text of its stored form.  Loading reads the text, checks the verbs in it and
runs on those that were stored between two actions; the settings are then the standard ones and no
event is waiting.
-/

namespace Stagecraft

namespace Ron

mutual

/-- Write a tree with some levels to spare, and answer how many there are afterwards.  The parts of
a tree lie one level deeper than the tree.  A list, map or record makes room for one level more when
it is closed. -/
def Node.levelsAfter {ν : Type} : Node ν → Nat → Option Nat
  | .list items, levels => below levels fun left => (Node.levelsAfterAll items left).map (· + 2)
  | .map entries, levels =>
    below levels fun left => (Node.levelsAfterEntries entries left).map (· + 2)
  | .record _ fields, levels =>
    below levels fun left => (Node.levelsAfterFields fields left).map (· + 2)
  | .tuple _ items, levels => below levels fun left => (Node.levelsAfterAll items left).map (· + 1)
  | .marked _ parts, levels => below levels fun left => (Node.levelsAfterAll parts left).map (· + 1)
  | .present part, levels => below levels fun left => (part.levelsAfter left).map (· + 1)
  | _, levels => .some levels

/-- Write trees one after the other. -/
def Node.levelsAfterAll {ν : Type} : List (Node ν) → Nat → Option Nat
  | [], levels => .some levels
  | item :: rest, levels => (item.levelsAfter levels).bind (Node.levelsAfterAll rest)

/-- Write the values of a map one after the other. -/
def Node.levelsAfterEntries {ν : Type} : List (Node ν × Node ν) → Nat → Option Nat
  | [], levels => .some levels
  | (_, value) :: rest, levels => (value.levelsAfter levels).bind (Node.levelsAfterEntries rest)

/-- Write the parts of a record one after the other. -/
def Node.levelsAfterFields {ν : Type} : List (String × Node ν) → Nat → Option Nat
  | [], levels => .some levels
  | (_, value) :: rest, levels => (value.levelsAfter levels).bind (Node.levelsAfterFields rest)

end

end Ron

/-- The text under which a world is saved, unless its scripts are nested too deeply to be
written. -/
def World.saveText? (w : World) : Option String :=
  (w.toTree.levelsAfter Ron.nestingLimit).map fun _ => w.toTree.render

/-- Why a saved game cannot be loaded. -/
inductive LoadError where
  | reading (path reason : String)
  | parsing (path : String)
  | restoring (path : String) (reason : VerbError)
deriving Inhabited

/-- The wording of a load error, the outermost part first. -/
def LoadError.messages : LoadError → List String
  | .reading path reason => [s!"reading save file {path}", reason]
  | .parsing path => [s!"parsing save file {path}"]
  | .restoring path reason => [s!"restoring verb state from {path}", reason.message]

/-- Take up the world of a saved text. -/
def loadText (path text : String) : Except LoadError Stage :=
  match World.parse? text with
  | none => .error (.parsing path)
  | some world => (Stage.ofWorld world).restore.mapError (.restoring path)

end Stagecraft
