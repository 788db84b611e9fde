import Stagecraft.Decimal.Literal
import Stagecraft.Ron.Parse

/-!
# Values from object notation

A reader takes a value from a tree.  What is a good tree for a value depends on its type: a record
may leave out what has a standard value and may hold parts that nobody asks for, but no part may be
missing that is needed, and none that is asked for may stand in it twice.  Trees may be nested no
deeper than a limit, which every reader counts down.
-/

namespace Stagecraft.Ron

/-- What takes a value from a tree, given how many levels may still be below. -/
abbrev Reader (α : Type) := Nat → Source → Option α

/-! ## Plain values -/

/-- Read a text. -/
def readText : Reader String
  | _, .text value => some value
  | _, _ => none

/-- Read a truth value. -/
def readBool : Reader Bool
  | _, .word (.plain "true") => some true
  | _, .word (.plain "false") => some false
  | _, _ => none

/-- Whether each underscore of a number stands after a digit, underscore or exponent mark. -/
def goodUnderscores (allowed : Bool) : List Char → Bool
  | [] => true
  | c :: rest =>
    if c = '_' then allowed && goodUnderscores allowed rest
    else if c.isDigit ∨ c = 'e' ∨ c = 'E' then goodUnderscores true rest
    else if c = '.' then goodUnderscores false rest
    else goodUnderscores allowed rest

/-- The number that a lexeme writes, if it is one with a point or exponent or could be one.  Its
type may follow it and has then to be the given one. -/
def readLiteral? (type : String) (lexeme : String) : Option Decimal.Literal :=
  let chars := lexeme.toList
  let isFloatChar := fun (c : Char) => isNumberStart c || c == 'e' || c == 'E' || c == '_'
  let (sign, unsigned) := Decimal.splitSign chars
  let word := String.ofList unsigned
  if word = "inf" ∨ word = "inf" ++ type then some ⟨sign, .infinite⟩
  else if word = "NaN" ∨ word = "NaN" ++ type then some ⟨sign, .nan⟩
  else
    let body := chars.takeWhile isFloatChar
    let suffix := String.ofList (chars.dropWhile isFloatChar)
    if (suffix = "" ∨ suffix = type) ∧ goodUnderscores false body then
      Decimal.Literal.read? (String.ofList (body.filter (· ≠ '_')))
    else none

/-- The text in which a number or one of the words for a number stands. -/
def lexeme? : Source → Option String
  | .number lexeme => some lexeme
  | .word (.plain name) => some name
  | _ => none

/-- Read a 32-bit number. -/
def readSingle : Reader Single
  | _, node => ((lexeme? node).bind (readLiteral? "f32")).map (·.toSingle)

/-- Read a 64-bit number. -/
def readDouble : Reader Double
  | _, node => ((lexeme? node).bind (readLiteral? "f64")).map (·.toDouble)

/-- A type of integers. -/
structure IntegerType where
  signed : Bool
  bits : Nat
deriving DecidableEq, Inhabited

namespace IntegerType

/-- The integers of 64 bits. -/
def signed64 : IntegerType := ⟨true, 64⟩

/-- The natural numbers of 64 bits. -/
def unsigned64 : IntegerType := ⟨false, 64⟩

/-- The name of a type. -/
def name (t : IntegerType) : String := (if t.signed then "i" else "u") ++ toString t.bits

/-- The type with the given name. -/
def ofName? (name : String) : Option IntegerType :=
  [⟨true, 8⟩, ⟨true, 16⟩, ⟨true, 32⟩, signed64, ⟨false, 8⟩, ⟨false, 16⟩, ⟨false, 32⟩,
    unsigned64].find? (·.name = name)

/-- Whether an integer is one of a type. -/
def holds (t : IntegerType) (n : Int) : Bool :=
  let bound := Nat.pow 2 (if t.signed then t.bits - 1 else t.bits)
  (if t.signed then -bound ≤ n else 0 ≤ n) && n < bound

end IntegerType

/-- The base of an integer and its digits. -/
def splitBase : List Char → Nat × List Char
  | '0' :: 'x' :: rest => (16, rest)
  | '0' :: 'o' :: rest => (8, rest)
  | '0' :: 'b' :: rest => (2, rest)
  | chars => (10, chars)

/-- The number that digits of a base write.  Underscores may stand after the first digit. -/
def readDigits? (base : Nat) (chars : List Char) : Option Nat :=
  if chars.head?.all (· = '_') then none
  else
    (chars.filter (· ≠ '_')).foldlM
      (fun value c => ((Text.hexDigit? c).filter (· < base)).map (base * value + ·)) 0

/-- The digits of an integer without its sign, and the name of the type that follows them.  Only
the digits of the bases ten and two can be told apart from a type. -/
def splitType (unsigned : List Char) : List Char × Option String :=
  let isDigit := fun (c : Char) => (Text.hexDigit? c).isSome || c == '_'
  let rest := unsigned.dropWhile isDigit
  if rest.head? = some 'i' ∨ rest.head? = some 'u' then
    (unsigned.takeWhile isDigit, some (String.ofList rest))
  else (unsigned, none)

/-- The integer that a lexeme writes, and its type, which is the given one unless a type follows
the digits. -/
def readInteger? (standard : IntegerType) (lexeme : String) : Option (Int × IntegerType) := do
  let (negative, unsigned) := Decimal.splitSign lexeme.toList
  let (digits, name) := splitType unsigned
  let type ← match name with
    | none => some standard
    | some name => IntegerType.ofName? name
  let (base, digits) := splitBase digits
  let size ← readDigits? base digits
  let value : Int := if negative then -size else size
  if type.holds value then some (value, type) else none

/-- Read a count that fits into 64 bits. -/
def readCount : Reader Nat
  | _, .number lexeme =>
    match readInteger? .unsigned64 lexeme with
    | some (value, type) => if type = .unsigned64 then some value.toNat else none
    | none => none
  | _, _ => none

/-- Whether a lexeme writes a number of any type. -/
def isNumeral (lexeme : String) : Bool :=
  let standard : IntegerType := ⟨lexeme.toList.head? = some '-', 64⟩
  (readInteger? standard lexeme).isSome || (readLiteral? "f32" lexeme).isSome ||
    (readLiteral? "f64" lexeme).isSome

/-! ## Values made of values -/

/-- Read a list. -/
def readList {α : Type} (each : Reader α) : Reader (List α)
  | limit, .list items =>
    below limit fun limit => items.mapM fun item => below limit (each · item)
  | _, _ => none

/-- Read the entries of a map from texts. -/
def readMap {α : Type} (each : Reader α) : Reader (List (String × α))
  | limit, .map entries =>
    below limit fun limit => entries.mapM fun (key, value) =>
      below limit fun limit => do
        let key ← readText limit key
        let value ← each limit value
        some (key, value)
  | _, _ => none

/-- Whether a tree begins with a word for an optional value. -/
def Source.beginsOption : Source → Bool
  | .word name | .tuple (some name) _ | .record (some name) _ =>
    name = .plain "Some" || name = .plain "None"
  | .marked .. | .present _ => true
  | _ => false

/-- Read an optional value.  A value that is there has to be marked as such, unless the mark, or the
parentheses after it, may be left out. -/
def readOption {α : Type} (e : Extensions) (each : Reader α) : Reader (Option α)
  | _, .word (.plain "None") => some none
  | limit, .marked _ [part] => below limit fun limit => (each limit part).map some
  | limit, .present part =>
    if e.implicitSome then below limit fun limit => (each limit part).map some else none
  | limit, node =>
    if e.implicitSome ∧ ¬ node.beginsOption then
      below limit fun limit => (each limit node).map some
    else none

/-- Read an optional record of the given name.  If that is enabled, its parts stand in the mark
itself. -/
def readOptionRecord {α : Type} (e : Extensions) (name : String) (each : Reader α) :
    Reader (Option α)
  | limit, .record (some (.plain "Some")) fields =>
    if e.unwrapVariants then
      below limit fun limit => (each limit (.record (some name) fields)).map some
    else none
  | limit, .marked outline parts =>
    if e.unwrapVariants then
      below limit fun limit => (each limit (.tuple (some name) parts)).map some
    else readOption e each limit (.marked outline parts)
  | limit, node => readOption e each limit node

/-! ## Records -/

/-- Whether a name is a word for a value, which cannot have parts. -/
def Name.isValue (name : Name) : Bool :=
  !name.raw && ["true", "false", "None", "inf", "inff32", "inff64", "NaN", "NaNf32",
    "NaNf64"].contains name.text

mutual

/-- Whether a tree may stand where nobody asks for a value.  Of a value that is marked as present,
the parts may stand in the mark if that is enabled.  They have to be what they look like then: parts
that look like several are read as such, and lie a level deeper. -/
def Source.ignorable (e : Extensions) (limit : Nat) : Source → Bool
  | .word name => name ≠ .plain "Some"
  | .number lexeme => isNumeral lexeme
  | .text _ | .unit | .foreign => true
  | .list items => 0 < limit && Source.allIgnorable e (limit - 1) items
  | .map entries => 0 < limit && Source.entriesIgnorable e (limit - 1) entries
  | .tuple none items => 0 < limit && Source.allIgnorable e (limit - 1) items
  | .tuple (some name) items =>
    !name.isValue && 0 < limit && Source.allIgnorable e (limit - 1) items
  | .record none fields => 0 < limit && Source.fieldsIgnorable e (limit - 1) fields
  | .record (some name) fields =>
    if name = .plain "Some" then
      e.unwrapVariants && 1 < limit && Source.fieldsIgnorable e (limit - 2) fields
    else !name.isValue && 0 < limit && Source.fieldsIgnorable e (limit - 1) fields
  | .marked outline parts => 0 < limit && Source.partsIgnorable e (limit - 1) outline parts
  | .present part => e.implicitSome && 0 < limit && Source.ignorable e (limit - 1) part

/-- Whether trees may stand in the mark of a present value where nobody asks for them. -/
def Source.partsIgnorable (e : Extensions) (limit : Nat) (outline : Outline) :
    List Source → Bool
  | [] => e.unwrapVariants
  | part :: rest =>
    if !e.unwrapVariants || outline = .single then
      rest.isEmpty && Source.ignorable e limit part
    else
      outline = .several && 1 < limit && Source.ignorable e (limit - 2) part &&
        Source.allIgnorable e (limit - 1) rest

/-- Whether the members of a list may stand where nobody asks for them. -/
def Source.allIgnorable (e : Extensions) (limit : Nat) : List Source → Bool
  | [] => true
  | item :: rest =>
    0 < limit && Source.ignorable e (limit - 1) item && Source.allIgnorable e limit rest

/-- Whether the entries of a map may stand where nobody asks for them. -/
def Source.entriesIgnorable (e : Extensions) (limit : Nat) : List (Source × Source) → Bool
  | [] => true
  | (key, value) :: rest =>
    0 < limit && Source.ignorable e (limit - 1) key && Source.ignorable e (limit - 1) value &&
      Source.entriesIgnorable e limit rest

/-- Whether the parts of a record may stand where nobody asks for them. -/
def Source.fieldsIgnorable (e : Extensions) (limit : Nat) : List (String × Source) → Bool
  | [] => true
  | (_, value) :: rest =>
    0 < limit && Source.ignorable e (limit - 1) value && Source.fieldsIgnorable e limit rest

end

/-- The parts of a record that are asked for, and how many levels may be below each. -/
structure Fields where
  limit : Nat
  entries : List (String × Source)

namespace Fields

/-- Take the parts with known names from a list of parts: none may stand in it twice, and all others
have to be such that they may be ignored. -/
def ofEntries? (e : Extensions) (known : List String) (limit : Nat)
    (entries : List (String × Source)) : Option Fields :=
  let (asked, ignored) := entries.partition fun entry => known.contains entry.1
  if Source.fieldsIgnorable e limit ignored ∧ (asked.map (·.1)).eraseDups.length = asked.length ∧
      (limit = 0 → entries.isEmpty) then
    some ⟨limit - 1, asked⟩
  else none

/-- A part that has to be there. -/
def required {α : Type} (f : Fields) (name : String) (each : Reader α) : Option α :=
  (f.entries.lookup name).bind (each f.limit)

/-- A part that has a standard value. -/
def withDefault {α : Type} (f : Fields) (name : String) (each : Reader α) (standard : α) :
    Option α :=
  match f.entries.lookup name with
  | some node => each f.limit node
  | none => some standard

end Fields

/-- Read a record of the given name, which need not be written. -/
def readRecord {α : Type} (e : Extensions) (name : String) (known : List String)
    (build : Fields → Option α) : Reader α := fun limit node =>
  let fromParts (written : Option Name) (entries : List (String × Source)) : Option α :=
    if written.all (·.text = name) ∧ (e.explicitNames → written.isSome) then
      below limit fun limit => (Fields.ofEntries? e known limit entries).bind build
    else none
  match node with
  | .record written entries => fromParts written entries
  | .tuple written [] => fromParts written []
  | .unit => fromParts none []
  | _ => none

/-! ## Variants -/

/-- How a variant is written: by its name alone, with one part, or with named parts. -/
inductive VariantForm where
  | plain (name : String)
  | single (name : String) (part : Source)
  | fields (name : String) (entries : List (String × Source))

/-- The form of a variant.  Empty parentheses hold no named parts. -/
def variantForm? : Source → Option VariantForm
  | .word name => some (.plain name.text)
  | .tuple (some name) [part] => some (.single name.text part)
  | .tuple (some name) [] => some (.fields name.text [])
  | .record (some name) entries => some (.fields name.text entries)
  | _ => none

/-- Read a variant.  The level of the variant itself and that of its name are counted before its
parts are read. -/
def readVariant {α : Type} (build : Nat → VariantForm → Option α) : Reader α := fun limit node =>
  below limit fun limit =>
    if limit = 0 then none else (variantForm? node).bind (build limit)

/-- Read the one part of a variant. -/
def readPart {α : Type} (limit : Nat) (each : Reader α) (part : Source) : Option α :=
  below limit (each · part)

/-- Read the named parts of a variant. -/
def readParts {α : Type} (e : Extensions) (limit : Nat) (entries : List (String × Source))
    (known : List String) (build : Fields → Option α) : Option α :=
  below limit fun limit => (Fields.ofEntries? e known limit entries).bind build

/-- Read a whole text. -/
def Document.read {α : Type} (text : String) (reader : Extensions → Reader α) : Option α :=
  (Document.parse? text).bind fun d => reader d.extensions nestingLimit d.root

end Stagecraft.Ron
