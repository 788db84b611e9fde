import Stagecraft.Decimal.Binary
import Stagecraft.Number

/-!
# Reading numbers

The grammar of a number in running text: an optional sign, then a word for infinity or for "not a
number" in any case, or digits with an optional point and an optional exponent.  At least one digit
has to stand before the exponent.  The exact decimal value is rounded once, to the nearest number
of the wanted format.
-/

namespace Stagecraft.Decimal

/-- The size of a number as it was written. -/
inductive Magnitude where
  | nan
  | infinite
  | finite (digits : Nat) (exponent : Int)
deriving DecidableEq, Repr

/-- A number as it was written: its sign and its size. -/
structure Literal where
  negative : Bool
  magnitude : Magnitude
deriving DecidableEq, Repr

/-- The value of a row of digits, continuing from `start`. -/
def digitsValue (start : Nat) (digits : List Char) : Nat :=
  digits.foldl (fun value c => 10 * value + (c.toNat - '0'.toNat)) start

/-- The leading sign of a text, if it has one, and the rest. -/
def splitSign : List Char → Bool × List Char
  | '-' :: rest => (true, rest)
  | '+' :: rest => (false, rest)
  | chars => (false, chars)

/-- The value of an optional exponent part that reaches to the end of the text. -/
def readExponent? : List Char → Option Int
  | [] => some 0
  | mark :: rest =>
    if mark = 'e' ∨ mark = 'E' then
      let (negative, digits) := splitSign rest
      if digits.isEmpty ∨ ¬ digits.all Char.isDigit then none
      else
        let value : Int := digitsValue 0 digits
        some (if negative then -value else value)
    else none

/-- Digits with an optional point and an optional exponent, and nothing else. -/
def readDigits? (chars : List Char) : Option Magnitude :=
  let whole := chars.takeWhile Char.isDigit
  let afterWhole := chars.dropWhile Char.isDigit
  let (places, rest) :=
    match afterWhole with
    | '.' :: more => (more.takeWhile Char.isDigit, more.dropWhile Char.isDigit)
    | _ => ([], afterWhole)
  if whole.isEmpty ∧ places.isEmpty then none
  else
    (readExponent? rest).map fun exponent =>
      .finite (digitsValue (digitsValue 0 whole) places) (exponent - places.length)

/-- The number that a whole text writes. -/
def Literal.read? (text : String) : Option Literal :=
  let (negative, chars) := splitSign text.toList
  let word := String.ofList (chars.map Char.toLower)
  if word = "inf" ∨ word = "infinity" then some ⟨negative, .infinite⟩
  else if word = "nan" then some ⟨negative, .nan⟩
  else (readDigits? chars).map (⟨negative, ·⟩)

/-- The word of the format nearest to `digits * 10 ^ exponent`.  Exponents far beyond the range of
every format are decided without computing the power. -/
def Format.ofScientific (f : Format) (digits : Nat) (exponent : Int) : Nat :=
  if digits = 0 then 0
  else
    let top := ((Nat.toDigits 10 digits).length : Int) + exponent
    if 400 < top then f.infinityBits
    else if top < -400 then 0
    else
      let (num, den) := scaleTen digits 1 exponent
      f.round num den

/-- The word of the format nearest to a written number. -/
def Literal.bits (f : Format) (l : Literal) : Nat :=
  let magnitude :=
    match l.magnitude with
    | .nan => f.infinityBits + Nat.pow 2 (f.fractionBits - 1)
    | .infinite => f.infinityBits
    | .finite digits exponent => f.ofScientific digits exponent
  if l.negative then magnitude + Nat.pow 2 (f.fractionBits + f.exponentBits) else magnitude

/-- The 32-bit number nearest to a written number. -/
def Literal.toSingle (l : Literal) : Single := ⟨(l.bits .single).toUInt32⟩

/-- The 64-bit number nearest to a written number. -/
def Literal.toDouble (l : Literal) : Double := ⟨(l.bits .double).toUInt64⟩

end Stagecraft.Decimal

namespace Stagecraft

/-- The 32-bit number that a whole text writes. -/
def readSingle? (text : String) : Option Single :=
  (Decimal.Literal.read? text).map (·.toSingle)

/-- The 64-bit number that a whole text writes. -/
def readDouble? (text : String) : Option Double :=
  (Decimal.Literal.read? text).map (·.toDouble)

end Stagecraft
