import Stagecraft.Toml.Value

/-!
# Tables under construction

A table comes into being by a heading or braces of its own, on the way to the heading of a table
inside it, or on the way to a name with points.  Which of these it was decides how it may be added
to later: no table is declared twice, and names with points do not reach into declared tables.
-/

namespace Stagecraft.Toml

/-- How a table came into being. -/
inductive Origin where
  | declared
  | implied
  | dotted
deriving DecidableEq, Inhabited

/-- What stands under a name of a table under construction. -/
inductive Item where
  | value (value : Value)
  | table (origin : Origin) (entries : List (String × Item))
  /-- A list of tables, each declared by a heading of its own. -/
  | tables (items : List (List (String × Item)))
deriving Inhabited

/-- The entries of a table under construction. -/
abbrev Entries := List (String × Item)

mutual

/-- The value of an item. -/
def Item.toValue : Item → Value
  | .value v => v
  | .table _ entries => .table (Entries.toValues entries)
  | .tables items => .array (Entries.toTables items)

/-- The values of a table's entries. -/
def Entries.toValues : List (String × Item) → List (String × Value)
  | [] => []
  | (name, item) :: rest => (name, item.toValue) :: Entries.toValues rest

/-- The values of a list of tables. -/
def Entries.toTables : List (List (String × Item)) → List Value
  | [] => []
  | entries :: rest => .table (Entries.toValues entries) :: Entries.toTables rest

end

namespace Entries

/-- Put an item under a name. -/
def put (name : String) (item : Item) : Entries → Entries
  | [] => [(name, item)]
  | (other, old) :: rest =>
    if other = name then (name, item) :: rest else (other, old) :: put name item rest

/-- Change the table at the end of a path.  Tables that are missing on the way come into being as
`fresh`; a list of tables stands for its last one.  The change is told the origin of the table. -/
def alter {α : Type} (fresh : Origin) (change : Origin → Entries → Option (Entries × α)) :
    List String → Origin → Entries → Option (Entries × α)
  | [], origin, entries => change origin entries
  | name :: path, _, entries =>
    match entries.lookup name with
    | none => do
      let (inner, answer) ← alter fresh change path fresh []
      return (put name (.table fresh inner) entries, answer)
    | some (.value _) => none
    | some (.tables items) => do
      let (inner, answer) ← alter fresh change path .declared (← items.getLast?)
      return (put name (.tables (items.dropLast ++ [inner])) entries, answer)
    | some (.table origin inner) =>
      if fresh = .dotted ∧ origin = .declared then none
      else do
        let (inner, answer) ← alter fresh change path origin inner
        return (put name (.table origin inner) entries, answer)

/-- Put a value under a name with points, unless the name is taken. -/
def assign (path : List String) (v : Value) (entries : Entries) : Option Entries :=
  match path.getLast? with
  | none => none
  | some name =>
    let way := path.dropLast
    let change := fun origin (inner : Entries) =>
      if (origin = .dotted ∨ way.isEmpty) ∧ (inner.lookup name).isNone then
        some (put name (.value v) inner, ())
      else none
    (alter .dotted change way .declared entries).map (·.1)

end Entries

end Stagecraft.Toml
