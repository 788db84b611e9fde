import Stagecraft.Table
import Stagecraft.Verb.Action

/-!
# Verb tables

The world, every scene and every actor has a table of verbs.  A verb is looked for under up to four
keys, from the most specific to the one that holds for any state and target.  Keys of verbs that are
running, and so are out of their table for a while, can be made to count as present.
-/

namespace Stagecraft

/-- The verbs of one owner, in the order of their keys. -/
abbrev VerbTable := Table Key (Script Action)

namespace VerbTable

/-- The table of a list of verbs; of several with one key the last counts. -/
def ofVerbs (verbs : List Verb) : VerbTable :=
  Table.ofList (verbs.map fun v => (v.key, v.script))

/-- The verbs in the order of their keys. -/
def toVerbs (t : VerbTable) : List Verb := t.entries.map fun entry => ⟨entry.1, entry.2⟩

/-- The first of the candidate keys that is in the table or is `lent` out. -/
def resolve? (t : VerbTable) (id : String) (state target : Option String)
    (lent : List Key := []) : Option Key :=
  (Key.candidates id state target).find? fun key => t.contains key || lent.contains key

/-- Put a verb back, unless the table has got another one under its key in the meantime. -/
def restore (t : VerbTable) (key : Key) (script : Script Action) : VerbTable :=
  if t.contains key then t else t.insert key script

/-- The keys of the verbs that are parked. -/
def parkedKeys (t : VerbTable) : List Key :=
  (t.entries.filter fun entry => entry.2.isParked).map (·.1)

/-- One more than the number of actions in the table at any depth. -/
def weight (t : VerbTable) : Nat := t.values.foldr (fun script total => script.weight + total) 1

end VerbTable

end Stagecraft
