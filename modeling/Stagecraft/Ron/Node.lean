import Stagecraft.Number

/-!
# Object notation

A document in object notation is a tree of words, numbers, texts, lists, maps, tuples and records;
tuples and records may carry a name.  The numbers of a tree are of a type of their own: what was
written in a tree that has been read, and values in a tree that is to be written.
-/

namespace Stagecraft.Ron

/-- A word or the name of a tuple or record.  A raw one is marked as such, and is a name even if it
is spelled like a word that has a meaning in the notation. -/
structure Name where
  text : String
  raw : Bool
deriving DecidableEq, Inhabited

/-- A name without a mark. -/
@[match_pattern]
abbrev Name.plain (text : String) : Name := ⟨text, false⟩

instance : Coe String Name := ⟨.plain⟩

/-- What the parts between parentheses look like to somebody who does not read them. -/
inductive Outline where
  | single
  | several
  | unclear
deriving DecidableEq, Inhabited

/-- A tree of object notation with numbers of type `ν`. -/
inductive Node (ν : Type) where
  | word (name : Name)
  | number (value : ν)
  | text (value : String)
  | list (items : List (Node ν))
  | map (entries : List (Node ν × Node ν))
  /-- Parentheses with nothing between them, not even a blank. -/
  | unit
  | tuple (name : Option Name) (items : List (Node ν))
  | record (name : Option Name) (fields : List (String × Node ν))
  /-- The mark of a present value, with the parts in its parentheses. -/
  | marked (outline : Outline) (parts : List (Node ν))
  /-- A value after the mark of a present value, without parentheses around it. -/
  | present (part : Node ν)
  /-- A literal of a kind that nothing in this library is written as, such as a single character. -/
  | foreign
deriving Inhabited

/-- A number that is to be written. -/
inductive Number where
  | natural (n : Nat)
  | single (x : Single)
  | double (x : Double)
deriving DecidableEq, Inhabited

/-- A tree that is to be written. -/
abbrev Tree := Node Number

namespace Node

variable {ν : Type}

/-- A truth value. -/
def bool (b : Bool) : Node ν := .word (.plain (if b then "true" else "false"))

/-- The absent value. -/
def none : Node ν := .word "None"

/-- A present value. -/
def some (n : Node ν) : Node ν := .marked .single [n]

/-- An optional value. -/
def option {α : Type} (each : α → Node ν) : Option α → Node ν
  | Option.none => none
  | Option.some x => some (each x)

/-- A variant with one unnamed part. -/
def variant (name : String) (part : Node ν) : Node ν := .tuple (Option.some (.plain name)) [part]

/-- A record without a name. -/
def struct (fields : List (String × Node ν)) : Node ν := .record Option.none fields

/-- A variant with named parts. -/
def structVariant (name : String) (fields : List (String × Node ν)) : Node ν :=
  .record (Option.some (.plain name)) fields

end Node

end Stagecraft.Ron
