import Stagecraft.Toml.Item
import Stagecraft.Toml.Number
import Stagecraft.Toml.Text

/-!
# Reading settings files

A file is a row of lines.  A line gives a name a value, or it is the heading of the table to which
the following names belong.
-/

namespace Stagecraft.Toml

/-! ## Values -/

/-- Read the values of an array after its opening bracket, given how one value is read.  The fuel
counts values. -/
def readItems (read : List Char → Option (Value × List Char)) :
    Nat → List Char → Option (List Value × List Char)
  | 0, _ => none
  | fuel + 1, chars =>
    match skipVoid false chars with
    | ']' :: rest => some ([], rest)
    | chars => do
      let (item, rest) ← read chars
      match skipVoid false rest with
      | ',' :: rest =>
        let (items, rest) ← readItems read fuel rest
        return (item :: items, rest)
      | ']' :: rest => return ([item], rest)
      | _ => none

/-- Read a name, an equals sign and a value, given how a value is read. -/
def readPair (read : List Char → Option (Value × List Char)) (chars : List Char) :
    Option ((List String × Value) × List Char) := do
  let (path, rest) ← readPath? chars
  match rest with
  | '=' :: rest =>
    let (value, rest) ← read (skipSpace rest)
    return ((path, value), rest)
  | _ => none

/-- Read the pairs of a table in braces after the first one's beginning, given how a value is read.
The fuel counts pairs. -/
def readPairs (read : List Char → Option (Value × List Char)) :
    Nat → Entries → List Char → Option (Entries × List Char)
  | 0, _, _ => none
  | fuel + 1, entries, chars => do
    let ((path, value), rest) ← readPair read chars
    let entries ← entries.assign path value
    match skipSpace rest with
    | ',' :: rest => readPairs read fuel entries rest
    | '\x7d' :: rest => return (entries, rest)
    | _ => none

/-- Read the pairs of a table after its opening brace. -/
def readBraces (read : List Char → Option (Value × List Char)) (chars : List Char) :
    Option (Entries × List Char) :=
  match skipSpace chars with
  | '\x7d' :: rest => some ([], rest)
  | chars => readPairs read (chars.length + 1) [] chars

/-- Read a value that may hold others so many levels deep. -/
def readValue : Nat → List Char → Option (Value × List Char)
  | 0, chars => readPlain chars
  | levels + 1, chars =>
    match chars with
    | '[' :: rest =>
      (readItems (readValue levels) (rest.length + 1) rest).map fun (items, rest) =>
        (.array items, rest)
    | '\x7b' :: rest =>
      (readBraces (readValue levels) rest).map fun (entries, rest) =>
        (.table (Entries.toValues entries), rest)
    | chars => readPlain chars
where
  /-- Read a value that holds no others. -/
  readPlain : List Char → Option (Value × List Char)
    | 't' :: 'r' :: 'u' :: 'e' :: rest => some (.boolean true, rest)
    | 'f' :: 'a' :: 'l' :: 's' :: 'e' :: rest => some (.boolean false, rest)
    | chars =>
      match readText? chars with
      | some (text, rest) => some (.text (String.ofList text), rest)
      | none => readScalar chars

/-! ## Lines -/

/-- Where the lines of a file go: the tables that are complete, and the one that is being filled
with the path of its heading. -/
structure Filling where
  root : Entries
  current : Entries
  heading : List String
  /-- Whether the heading begins another table of a list. -/
  listed : Bool
deriving Inhabited

namespace Filling

/-- The beginning of a file. -/
def start : Filling := ⟨[], [], [], false⟩

/-- Put the current table where its heading says. -/
def close (f : Filling) : Option Entries :=
  match f.heading.getLast? with
  | none => some f.current
  | some name =>
    let change := fun (_ : Origin) (parent : Entries) =>
      match parent.lookup name, f.listed with
      | none, false => some (Entries.put name (.table .declared f.current) parent, ())
      | none, true => some (Entries.put name (.tables [f.current]) parent, ())
      | some (.tables items), true =>
        some (Entries.put name (.tables (items ++ [f.current])) parent, ())
      | _, _ => none
    (Entries.alter .implied change f.heading.dropLast .declared f.root).map (·.1)

/-- Begin a table with a heading.  A table that was only implied is taken out to be filled. -/
def openTable (f : Filling) (heading : List String) : Option Filling := do
  let root ← f.close
  let name ← heading.getLast?
  let change := fun (_ : Origin) (parent : Entries) =>
    match parent.lookup name with
    | none => some (parent, [])
    | some (.table .implied inner) => some (parent.filter (·.1 ≠ name), inner)
    | _ => none
  let (root, inner) ← Entries.alter .implied change heading.dropLast .declared root
  return ⟨root, inner, heading, false⟩

/-- Begin another table of a list. -/
def openListed (f : Filling) (heading : List String) : Option Filling := do
  let root ← f.close
  let name ← heading.getLast?
  let change := fun (_ : Origin) (parent : Entries) =>
    match parent.lookup name with
    | none => some (parent, ())
    | some (.tables _) => some (parent, ())
    | _ => none
  let (root, _) ← Entries.alter .implied change heading.dropLast .declared root
  return ⟨root, [], heading, true⟩

/-- Give a name of the current table a value. -/
def assign (f : Filling) (path : List String) (v : Value) : Option Filling :=
  (f.current.assign path v).map fun current => { f with current }

end Filling

/-- Read a line that is not blank, and its end. -/
def readLine (f : Filling) : List Char → Option (Filling × List Char)
  | '[' :: '[' :: rest => do
    let (path, rest) ← readPath? rest
    match rest with
    | ']' :: ']' :: rest => return (← f.openListed path, ← endLine? rest)
    | _ => none
  | '[' :: rest => do
    let (path, rest) ← readPath? rest
    match rest with
    | ']' :: rest => return (← f.openTable path, ← endLine? rest)
    | _ => none
  | chars => do
    let ((path, value), rest) ← readPair (readValue levelLimit) chars
    return (← f.assign path value, ← endLine? rest)

/-- Read lines to the end of a file.  The fuel counts lines. -/
def readLines : Nat → Filling → List Char → Option Filling
  | 0, _, _ => none
  | fuel + 1, f, chars =>
    match skipSpace chars with
    | [] => some f
    | '#' :: rest => (endLine? ('#' :: rest)).bind (readLines fuel f)
    | chars =>
      match newline? chars with
      | some rest => readLines fuel f rest
      | none => (readLine f chars).bind fun (f, rest) => readLines fuel f rest

/-- The mark that may stand before the first line of a file. -/
def byteOrderMark : Char := '\ufeff'

/-- Read a settings file. -/
def parse? (text : String) : Option (List (String × Value)) := do
  let chars := text.toList
  let chars := if chars.head? = some byteOrderMark then chars.tail else chars
  let filling ← readLines (chars.length + 1) .start chars
  return Entries.toValues (← filling.close)

end Stagecraft.Toml
