import Stagecraft.Decimal.Binary
import Stagecraft.Number

/-!
# Decimal texts of binary numbers

Two texts are given.  The shortest text has the fewest significant digits that read back to the
same number, and of those the digits nearest to it.  The fixed text has a given number of places
and rounds the exact value, a half going to the even neighbour.  Neither ever uses an exponent.
-/

namespace Stagecraft.Decimal

/-- The number `digits * 10 ^ exponent`. -/
structure Scientific where
  digits : Nat
  exponent : Int
deriving DecidableEq, Repr

/-- The decimal digits of a natural number, most significant first. -/
def digitText (n : Nat) : String := String.ofList (Nat.toDigits 10 n)

/-- The greatest `e` with `10 ^ e ≤ num / den`, for positive arguments. -/
def floorLogTen (num den : Nat) : Int :=
  if den ≤ num then (digitText (num / den)).length - 1
  else
    let ratio := (den + num - 1) / num
    Int.negOfNat (digitText (ratio - 1)).length

/-- The reals that read back to one number: everything between `low` and `high`, in units of
`1 / scale`, together with the two ends if `closed`. -/
structure Interval where
  low : Nat
  value : Nat
  high : Nat
  scale : Nat
  closed : Bool
deriving DecidableEq, Repr

/-- The interval of the positive number `mantissa * 2 ^ exponent`: half way to each neighbour in
the format, where the lower neighbour of a power of two is nearer. -/
def Interval.around (f : Format) (mantissa : Nat) (exponent : Int) : Interval :=
  let below := if mantissa = Nat.pow 2 f.fractionBits ∧ f.minExponent < exponent then 1 else 2
  let (up, scale) := scaleTwo 1 1 (exponent - 2)
  { low := (4 * mantissa - below) * up
    value := 4 * mantissa * up
    high := (4 * mantissa + 2) * up
    scale := scale
    closed := mantissa % 2 == 0 }

/-- The point of the grid of multiples of `10 ^ exponent` that lies in the interval and is nearest
to its value, if one of the value's two neighbours on the grid lies in the interval. -/
def Interval.nearest? (i : Interval) (exponent : Int) : Option Nat :=
  let up := Nat.pow 10 (-exponent).toNat
  let unit := i.scale * Nat.pow 10 exponent.toNat
  let floor := i.value * up / unit
  let below := floor * unit
  let above := below + unit
  let belowHits := i.low * up < below || i.closed && i.low * up == below
  let aboveHits := above < i.high * up || i.closed && above == i.high * up
  if belowHits && (!aboveHits || 2 * (i.value * up - below) < unit) then some floor
  else if aboveHits then some (floor + 1)
  else none

/-- The first hit on the grids of `count`, `count + 1`, … significant digits; `top` is the
exponent of the value's first digit. -/
def Interval.shortestFrom (i : Interval) (top : Int) : Nat → Nat → Scientific
  | 0, _ => ⟨i.value / i.scale, 0⟩
  | more + 1, count =>
    let exponent := top - count + 1
    match i.nearest? exponent with
    | some digits =>
      if digits = Nat.pow 10 count then ⟨1, exponent + count⟩ else ⟨digits, exponent⟩
    | none => i.shortestFrom top more (count + 1)

/-- The fewest digits that read back to `mantissa * 2 ^ exponent`; seventeen always suffice. -/
def shortestDigits (f : Format) (mantissa : Nat) (exponent : Int) : Scientific :=
  if mantissa = 0 then ⟨0, 0⟩
  else
    let i := Interval.around f mantissa exponent
    i.shortestFrom (floorLogTen i.value i.scale) 17 1

/-- A number without an exponent: zeros are added after its digits, or a point is set among or
before them. -/
def Scientific.positional (s : Scientific) : String :=
  let text := digitText s.digits
  match s.exponent with
  | .ofNat zeros => if s.digits = 0 then text else text ++ String.ofList (List.replicate zeros '0')
  | .negSucc places =>
    let places := places + 1
    let chars := text.toList
    let padded := List.replicate (places + 1 - chars.length) '0' ++ chars
    String.ofList (padded.take (padded.length - places)) ++ "." ++
      String.ofList (padded.drop (padded.length - places))

/-- The text of a decoded number, with `finite` giving the text of a magnitude. -/
def Binary.text (finite : Nat → Int → String) : Binary → String
  | .nan _ => "NaN"
  | .infinite negative => if negative then "-inf" else "inf"
  | .finite negative mantissa exponent =>
    (if negative then "-" else "") ++ finite mantissa exponent

/-- The shortest positional text of a decoded number of the format. -/
def Binary.shortest (f : Format) : Binary → String :=
  Binary.text fun mantissa exponent => (shortestDigits f mantissa exponent).positional

/-- The text with exactly `places` digits after the point. -/
def Binary.fixed (places : Nat) : Binary → String :=
  Binary.text fun mantissa exponent =>
    let (num, den) := scaleTwo (mantissa * Nat.pow 10 places) 1 exponent
    (Scientific.mk (roundDiv num den) (-places)).positional

/-- The text of a decoded number that always shows a point if it is finite, and always the sign. -/
def Binary.pointed (f : Format) (b : Binary) : String :=
  match b with
  | .nan negative => if negative then "-NaN" else "NaN"
  | .finite .. =>
    let text := b.shortest f
    if text.contains '.' then text else text ++ ".0"
  | _ => b.shortest f

end Stagecraft.Decimal

namespace Stagecraft

/-- The exact value of a 32-bit number. -/
def decodeSingle (x : Single) : Decimal.Binary := Decimal.Format.single.decode x.bits.toNat

/-- The exact value of a 64-bit number. -/
def decodeDouble (x : Double) : Decimal.Binary := Decimal.Format.double.decode x.bits.toNat

/-- The shortest digits of a 32-bit number that read back, without an exponent. -/
def showSingle (x : Single) : String := (decodeSingle x).shortest .single

/-- A 32-bit number with a fixed number of places, its exact value rounded half to even. -/
def fixedSingle (places : Nat) (x : Single) : String := (decodeSingle x).fixed places

/-- A 64-bit number with a fixed number of places, its exact value rounded half to even. -/
def fixedDouble (places : Nat) (x : Double) : String := (decodeDouble x).fixed places

end Stagecraft
