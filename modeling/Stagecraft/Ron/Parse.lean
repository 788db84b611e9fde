import Stagecraft.Ron.Outline

/-!
# Reading object notation

A document is a tree that may be preceded by attributes which enable variants of the notation.  The
parts of lists, maps, tuples and records are separated by commas, and a comma may stand after the
last part.  A tree that is nested too deeply for any reader is not read at all.
-/

namespace Stagecraft.Ron

/-- A tree as it was read, with its numbers as they were written. -/
abbrev Source := Node String

/-- How deep trees may be nested. -/
def nestingLimit : Nat := 128

/-- Go one level down. -/
def below {α : Type} (limit : Nat) (read : Nat → Option α) : Option α :=
  match limit with
  | 0 => none
  | left + 1 => read left

/-- Whether a token can be the first one of a tree that does not begin with a parenthesis. -/
def Token.beginsBareTree : Token → Bool
  | .word _ | .number _ | .text _ | .foreign => true
  | .mark c => c == '[' || c == '\x7b'
  | .unit | .opening .. => false

/-- A tuple with the given name, or the mark of a present value.  The outline of its parts is taken
from the text after the opening parenthesis, which is no longer than `bound`. -/
def tupleOf (name : Option Name) (bound : Nat) (after : List Char) (items : List Source) : Source :=
  if name = some (.plain "Some") then .marked (outline bound after) items else .tuple name items

mutual

/-- Read one tree that is nested at most so many levels deep.  The fuel counts steps of the
grammar. -/
def parseNode : Nat → Nat → List Token → Option (Source × List Token)
  | 0, _, _ => none
  | fuel + 1, levels, .word name :: .opening after bound :: rest =>
    below levels (parseGroup fuel · (some name) bound after rest)
  | _ + 1, _, .word name :: .unit :: rest => some (tupleOf (some name) 0 [] [], rest)
  | fuel + 1, levels, .word name :: rest =>
    if name = .plain "Some" ∧ rest.head?.any Token.beginsBareTree then
      below levels fun levels =>
        (parseNode fuel levels rest).map fun (part, rest) => (.present part, rest)
    else some (.word name, rest)
  | _ + 1, _, .number lexeme :: rest => some (.number lexeme, rest)
  | _ + 1, _, .text value :: rest => some (.text value, rest)
  | _ + 1, _, .foreign :: rest => some (.foreign, rest)
  | _ + 1, _, .unit :: rest => some (.unit, rest)
  | fuel + 1, levels, .opening after bound :: rest =>
    below levels (parseGroup fuel · none bound after rest)
  | fuel + 1, levels, .mark '[' :: rest =>
    below levels fun levels =>
      (parseItems fuel levels ']' rest).map fun (items, rest) => (.list items, rest)
  | fuel + 1, levels, .mark '\x7b' :: rest =>
    below levels fun levels =>
      (parseEntries fuel levels rest).map fun (entries, rest) => (.map entries, rest)
  | _ + 1, _, _ => none

/-- Read a tuple or a record after its opening parenthesis. -/
def parseGroup : Nat → Nat → Option Name → Nat → List Char → List Token →
    Option (Source × List Token)
  | 0, _, _, _, _, _ => none
  | fuel + 1, levels, name, _, _, .word field :: .mark ':' :: rest =>
    (parseFields fuel levels (.word field :: .mark ':' :: rest)).map fun (fields, rest) =>
      (.record name fields, rest)
  | fuel + 1, levels, name, bound, after, tokens =>
    (parseItems fuel levels ')' tokens).map fun (items, rest) =>
      (tupleOf name bound after items, rest)

/-- Read trees up to a closing mark. -/
def parseItems : Nat → Nat → Char → List Token → Option (List Source × List Token)
  | 0, _, _, _ => none
  | fuel + 1, levels, close, tokens =>
    match tokens with
    | .mark c :: rest =>
      if c = close then some ([], rest)
      else parseItem fuel levels close tokens
    | _ => parseItem fuel levels close tokens

/-- Read a tree, and then further ones up to a closing mark. -/
def parseItem : Nat → Nat → Char → List Token → Option (List Source × List Token)
  | 0, _, _, _ => none
  | fuel + 1, levels, close, tokens => do
    let (item, rest) ← parseNode fuel levels tokens
    match rest with
    | .mark ',' :: rest =>
      let (items, rest) ← parseItems fuel levels close rest
      some (item :: items, rest)
    | .mark c :: rest => if c = close then some ([item], rest) else none
    | _ => none

/-- Read named parts up to a closing parenthesis. -/
def parseFields : Nat → Nat → List Token → Option (List (String × Source) × List Token)
  | 0, _, _ => none
  | _ + 1, _, .mark ')' :: rest => some ([], rest)
  | fuel + 1, levels, .word name :: .mark ':' :: rest => do
    let (value, rest) ← parseNode fuel levels rest
    match rest with
    | .mark ',' :: rest =>
      let (fields, rest) ← parseFields fuel levels rest
      some ((name.text, value) :: fields, rest)
    | .mark ')' :: rest => some ([(name.text, value)], rest)
    | _ => none
  | _ + 1, _, _ => none

/-- Read the entries of a map up to the closing brace. -/
def parseEntries : Nat → Nat → List Token → Option (List (Source × Source) × List Token)
  | 0, _, _ => none
  | _ + 1, _, .mark '\x7d' :: rest => some ([], rest)
  | fuel + 1, levels, tokens => do
    match ← parseNode fuel levels tokens with
    | (key, .mark ':' :: rest) =>
      let (value, rest) ← parseNode fuel levels rest
      match rest with
      | .mark ',' :: rest =>
        let (entries, rest) ← parseEntries fuel levels rest
        some ((key, value) :: entries, rest)
      | .mark '\x7d' :: rest => some ([(key, value)], rest)
      | _ => none
    | _ => none

end

/-- The variants of the notation that a document can enable. -/
structure Extensions where
  implicitSome : Bool
  unwrapVariants : Bool
  explicitNames : Bool
deriving DecidableEq, Inhabited

/-- The plain notation. -/
def Extensions.plain : Extensions := ⟨false, false, false⟩

/-- Enable a variant by its name. -/
def Extensions.enable? (e : Extensions) (name : String) : Option Extensions :=
  if name = "implicit_some" then some { e with implicitSome := true }
  else if name = "unwrap_variant_newtypes" then some { e with unwrapVariants := true }
  else if name = "explicit_struct_names" then some { e with explicitNames := true }
  else if name = "unwrap_newtypes" then some e
  else none

/-- Read the names in an attribute up to its end. -/
def parseEnabled (e : Extensions) : List Token → Option (Extensions × List Token)
  | .word name :: .mark ',' :: .mark ')' :: .mark ']' :: rest =>
    (e.enable? name.text).map (·, rest)
  | .word name :: .mark ')' :: .mark ']' :: rest => (e.enable? name.text).map (·, rest)
  | .word name :: .mark ',' :: rest => (e.enable? name.text).bind (parseEnabled · rest)
  | _ => none

/-- Read the attributes at the beginning of a document.  The fuel counts attributes. -/
def parseAttributes : Nat → Extensions → List Token → Option (Extensions × List Token)
  | fuel + 1, e,
      .mark '#' :: .mark '!' :: .mark '[' :: .word (.plain "enable") :: .opening .. :: rest => do
    let (e, rest) ← parseEnabled e rest
    parseAttributes fuel e rest
  | _, e, tokens => some (e, tokens)

/-- A whole text in object notation. -/
structure Document where
  extensions : Extensions
  root : Source
deriving Inhabited

/-- Read a whole text: the attributes, one tree, and nothing after it. -/
def Document.parse? (text : String) : Option Document := do
  let tokens ← tokens? text
  let (extensions, tokens) ← parseAttributes tokens.length .plain tokens
  match ← parseNode (4 * tokens.length + 4) (nestingLimit + 2) tokens with
  | (root, []) => some ⟨extensions, root⟩
  | _ => none

end Stagecraft.Ron
