/-!
# Binary floating-point formats

A format gives the number of fraction bits and exponent bits of a binary interchange encoding.
Encoded words are decoded to an exact sign, mantissa and exponent, and a positive rational is
rounded to the nearest encoded word, a half going to the even neighbour.  Everything is exact
arithmetic on natural numbers, so that the text of a number never depends on rounding on the way.
-/

namespace Stagecraft.Decimal

/-- The layout of a binary interchange encoding: a sign bit, then `exponentBits`, then
`fractionBits`. -/
structure Format where
  fractionBits : Nat
  exponentBits : Nat
deriving DecidableEq, Repr

/-- What an encoded word denotes; a finite one is `mantissa * 2 ^ exponent`, negated if
`negative`.  Also a word for no number has a sign. -/
inductive Binary where
  | nan (negative : Bool)
  | infinite (negative : Bool)
  | finite (negative : Bool) (mantissa : Nat) (exponent : Int)
deriving DecidableEq, Repr

namespace Format

/-- The 32-bit format. -/
def single : Format := ⟨23, 8⟩

/-- The 64-bit format. -/
def double : Format := ⟨52, 11⟩

/-- The exponent of the least significant bit of the smallest numbers of the format. -/
def minExponent (f : Format) : Int :=
  2 - Nat.pow 2 (f.exponentBits - 1) - f.fractionBits

/-- The word of positive infinity: every exponent bit is set and no fraction bit. -/
def infinityBits (f : Format) : Nat :=
  (Nat.pow 2 f.exponentBits - 1) * Nat.pow 2 f.fractionBits

/-- The exact value of an encoded word. -/
def decode (f : Format) (bits : Nat) : Binary :=
  let fraction := bits % Nat.pow 2 f.fractionBits
  let field := bits / Nat.pow 2 f.fractionBits % Nat.pow 2 f.exponentBits
  let negative := bits / Nat.pow 2 (f.fractionBits + f.exponentBits) % 2 == 1
  if field = Nat.pow 2 f.exponentBits - 1 then
    if fraction = 0 then .infinite negative else .nan negative
  else if field = 0 then
    .finite negative fraction f.minExponent
  else
    .finite negative (fraction + Nat.pow 2 f.fractionBits) (f.minExponent + (field - 1))

end Format

/-- The quotient `num / den` rounded to the nearest natural number, a half going to the even
one. -/
def roundDiv (num den : Nat) : Nat :=
  let floor := num / den
  let twice := 2 * (num % den)
  if twice < den then floor
  else if den < twice then floor + 1
  else floor + floor % 2

/-- Multiply by `2 ^ e`, on the numerator for a positive `e` and on the denominator for a
negative one. -/
def scaleTwo (num den : Nat) (e : Int) : Nat × Nat :=
  (num * Nat.pow 2 e.toNat, den * Nat.pow 2 (-e).toNat)

/-- Multiply by `10 ^ e`, on the numerator for a positive `e` and on the denominator for a
negative one. -/
def scaleTen (num den : Nat) (e : Int) : Nat × Nat :=
  (num * Nat.pow 10 e.toNat, den * Nat.pow 10 (-e).toNat)

/-- The greatest `e` with `2 ^ e ≤ num / den`, for positive arguments. -/
def floorLogTwo (num den : Nat) : Int :=
  let e : Int := (num.log2 : Int) - den.log2
  let (n, d) := scaleTwo num den (-e)
  if n < d then e - 1 else e

/-- The word of the format that is nearest to `num / den`, a tie going to the even mantissa;
quotients beyond the largest finite number become infinity. -/
def Format.round (f : Format) (num den : Nat) : Nat :=
  if num = 0 then 0
  else
    let exponent := max (floorLogTwo num den - f.fractionBits) f.minExponent
    let (n, d) := scaleTwo num den (-exponent)
    let bits := (exponent - f.minExponent).toNat * Nat.pow 2 f.fractionBits + roundDiv n d
    min bits f.infinityBits

end Stagecraft.Decimal
