import Stagecraft.Decimal.Literal
import Stagecraft.Text.Hex
import Stagecraft.Toml.Value

/-!
# Numbers, dates and times in settings files

Whole numbers are of 64 bits and may be written in base two, eight or sixteen.  Digits may be set
apart by single underscores.  Dates and times are checked, but only told apart from other values.
-/

namespace Stagecraft.Toml

/-! ## Digits -/

/-- Read the digits of a row after the first one. -/
def moreDigits (isDigit : Char → Bool) : List Char → Option (List Char × List Char)
  | [] => some ([], [])
  | '_' :: c :: rest =>
    if isDigit c then (moreDigits isDigit rest).map fun (digits, rest) => (c :: digits, rest)
    else none
  | c :: rest =>
    if isDigit c then (moreDigits isDigit rest).map fun (digits, rest) => (c :: digits, rest)
    else if c = '_' then none
    else some ([], c :: rest)

/-- Read a row of digits. -/
def readDigits (isDigit : Char → Bool) : List Char → Option (List Char × List Char)
  | [] => none
  | c :: rest =>
    if isDigit c then (moreDigits isDigit rest).map fun (digits, rest) => (c :: digits, rest)
    else none

/-- Read the whole part of a number, which has no leading zeros. -/
def readWhole : List Char → Option (List Char × List Char)
  | '0' :: rest => some (['0'], rest)
  | chars => readDigits Char.isDigit chars

/-! ## Numbers -/

/-- The whole numbers of 64 bits. -/
def inRange (n : Int) : Bool := -0x8000000000000000 ≤ n && n < 0x8000000000000000

/-- Read a number in another base after the mark of the base. -/
def readBase (base : Nat) (chars : List Char) : Option (Value × List Char) := do
  let isDigit := fun c =>
    match Text.hexDigit? c with
    | some value => value < base
    | none => false
  let (digits, rest) ← readDigits isDigit chars
  let value := digits.foldl (fun value c => base * value + (Text.hexDigit? c).getD 0) 0
  if inRange value then some (.integer value, rest) else none

/-- Read the part of a number after the point. -/
def readPlaces : List Char → Option (List Char × List Char)
  | '.' :: rest => (readDigits Char.isDigit rest).map fun (digits, rest) => ('.' :: digits, rest)
  | chars => some ([], chars)

/-- Read the exponent of a number. -/
def readExponent : List Char → Option (List Char × List Char)
  | [] => some ([], [])
  | c :: rest =>
    if c = 'e' ∨ c = 'E' then
      let (negative, rest) := Decimal.splitSign rest
      (readDigits Char.isDigit rest).map fun (digits, rest) =>
        ((if negative then ['e', '-'] else ['e']) ++ digits, rest)
    else some ([], c :: rest)

/-- Read a number in base ten after its sign.  One that is too large for every number is refused,
but not its negative. -/
def readDecimal (negative : Bool) (chars : List Char) : Option (Value × List Char) := do
  let (whole, rest) ← readWhole chars
  let (places, rest) ← readPlaces rest
  let (exponent, rest) ← readExponent rest
  let sign := if negative then ['-'] else []
  if places.isEmpty ∧ exponent.isEmpty then
    let size : Int := Decimal.digitsValue 0 whole
    let value := if negative then -size else size
    if inRange value then some (.integer value, rest) else none
  else
    let x ← readDouble? (String.ofList (sign ++ whole ++ places ++ exponent))
    if x.isInf ∧ ¬ negative then none else some (.float x, rest)

/-- Read a number. -/
def readNumber : List Char → Option (Value × List Char)
  | '0' :: 'x' :: rest => readBase 16 rest
  | '0' :: 'o' :: rest => readBase 8 rest
  | '0' :: 'b' :: rest => readBase 2 rest
  | chars =>
    match Decimal.splitSign chars with
    | (negative, 'i' :: 'n' :: 'f' :: rest) =>
      some (.float ⟨if negative then 0xfff0000000000000 else 0x7ff0000000000000⟩, rest)
    | (_, 'n' :: 'a' :: 'n' :: rest) => some (.float ⟨0x7ff8000000000000⟩, rest)
    | (negative, rest) => readDecimal negative rest

/-! ## Dates and times -/

/-- Read a number of exactly so many digits that lies within bounds. -/
def readBounded (count low high : Nat) (chars : List Char) : Option (Nat × List Char) :=
  let digits := chars.take count
  let value := Decimal.digitsValue 0 digits
  if digits.length = count ∧ digits.all Char.isDigit ∧ low ≤ value ∧ value ≤ high then
    some (value, chars.drop count)
  else none

/-- Read a mark. -/
def readMark (mark : Char) : List Char → Option (List Char)
  | c :: rest => if c = mark then some rest else none
  | [] => none

/-- Whether a year has a leap day. -/
def isLeapYear (year : Nat) : Bool := year % 4 == 0 && (year % 100 != 0 || year % 400 == 0)

/-- The number of days in a month. -/
def daysInMonth (year month : Nat) : Nat :=
  if month = 2 then if isLeapYear year then 29 else 28
  else if month = 4 ∨ month = 6 ∨ month = 9 ∨ month = 11 then 30
  else 31

/-- What follows a date. -/
def skipDate (chars : List Char) : Option (List Char) := do
  let (year, rest) ← readBounded 4 0 9999 chars
  let rest ← readMark '-' rest
  let (month, rest) ← readBounded 2 1 12 rest
  let rest ← readMark '-' rest
  let (_, rest) ← readBounded 2 1 (daysInMonth year month) rest
  return rest

/-- What follows the fraction of a second, if there is one. -/
def skipFraction : List Char → List Char
  | '.' :: c :: rest => if c.isDigit then rest.dropWhile Char.isDigit else '.' :: c :: rest
  | chars => chars

/-- What follows a time of the day. -/
def skipTime (chars : List Char) : Option (List Char) := do
  let (_, rest) ← readBounded 2 0 23 chars
  let rest ← readMark ':' rest
  let (_, rest) ← readBounded 2 0 59 rest
  let rest ← readMark ':' rest
  let (_, rest) ← readBounded 2 0 60 rest
  return skipFraction rest

/-- What follows the distance from universal time, if it is given. -/
def skipOffset : List Char → Option (List Char)
  | [] => some []
  | c :: rest =>
    if c = 'Z' ∨ c = 'z' then some rest
    else if c = '+' ∨ c = '-' then do
      let (_, rest) ← readBounded 2 0 23 rest
      let rest ← readMark ':' rest
      let (_, rest) ← readBounded 2 0 59 rest
      return rest
    else some (c :: rest)

/-- Whether a text begins like a date. -/
def startsDate (chars : List Char) : Bool :=
  ((readBounded 4 0 9999 chars).bind fun (_, rest) => readMark '-' rest).isSome

/-- Whether a text begins like a time. -/
def startsTime (chars : List Char) : Bool :=
  ((readBounded 2 0 23 chars).bind fun (_, rest) => readMark ':' rest).isSome

/-- What follows the time that belongs to a date, if there is one. -/
def skipTimeOfDate : List Char → Option (List Char)
  | [] => some []
  | c :: rest =>
    if (c = 'T' ∨ c = 't' ∨ c = ' ') ∧ startsTime rest then (skipTime rest).bind skipOffset
    else some (c :: rest)

/-- Read a number, a date or a time. -/
def readScalar (chars : List Char) : Option (Value × List Char) :=
  if startsDate chars then ((skipDate chars).bind skipTimeOfDate).map (.moment, ·)
  else if startsTime chars then (skipTime chars).map (.moment, ·)
  else readNumber chars

end Stagecraft.Toml
