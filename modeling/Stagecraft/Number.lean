/-!
# Numbers

A number is kept as the word that encodes it, in 32 or in 64 bits.  Arithmetic and order are those
of the encoded values, with one addition: "not a number" comes with a sign, which operations hand on
from their first operand that is none.  An operation that has no answer gives the negative one.  So
what has been read can be written again as it was.
-/

namespace Stagecraft

/-- A 32-bit number. -/
structure Single where
  bits : UInt32
deriving DecidableEq, Inhabited

/-- A 64-bit number. -/
structure Double where
  bits : UInt64
deriving DecidableEq, Inhabited

namespace Single

/-- The value of a number, without the sign of what is none. -/
def value (x : Single) : Float32 := Float32.ofBits x.bits

/-- The number of a value. -/
def ofValue (x : Float32) : Single := ⟨x.toBits⟩

/-- The number nearest to a natural number. -/
def ofNat (n : Nat) : Single := ofValue (Float32.ofNat n)

/-- The number nearest to an integer. -/
def ofInt (n : Int) : Single := ofValue (Float32.ofInt n)

instance (n : Nat) : OfNat Single n := ⟨ofNat n⟩

/-- Whether a number is none. -/
def isNaN (x : Single) : Bool := x.value.isNaN

/-- Whether a number is one of the infinite ones. -/
def isInf (x : Single) : Bool := x.value.isInf

/-- Whether a number is a number and not infinite. -/
def isFinite (x : Single) : Bool := x.value.isFinite

/-- The infinite number above all others. -/
def infinity : Single := ⟨0x7f800000⟩

/-- The answer of an operation that has none. -/
def invalid : Single := ⟨0xffc00000⟩

/-- An operation on two values as one on numbers. -/
def lift (op : Float32 → Float32 → Float32) (x y : Single) : Single :=
  if x.isNaN then x
  else if y.isNaN then y
  else
    let z := op x.value y.value
    if z.isNaN then invalid else ofValue z

instance : Add Single := ⟨lift (· + ·)⟩
instance : Sub Single := ⟨lift (· - ·)⟩
instance : Mul Single := ⟨lift (· * ·)⟩
instance : Div Single := ⟨lift (· / ·)⟩

instance : LT Single := ⟨fun x y => x.value < y.value⟩
instance : LE Single := ⟨fun x y => x.value ≤ y.value⟩

instance (x y : Single) : Decidable (x < y) := inferInstanceAs (Decidable (x.value < y.value))
instance (x y : Single) : Decidable (x ≤ y) := inferInstanceAs (Decidable (x.value ≤ y.value))

/-- Whether two numbers have one value: the two zeros have, and what is none has no value. -/
def sameValue (x y : Single) : Bool := x.value == y.value

/-- The same number in 64 bits. -/
def toDouble (x : Single) : Double :=
  if x.isNaN then if x.bits < 0x80000000 then ⟨0x7ff8000000000000⟩ else ⟨0xfff8000000000000⟩
  else ⟨x.value.toFloat.toBits⟩

/-- The place of a number in the total order of all numbers, in which the negative zero is below
the positive one and what is no number is at the two ends. -/
def orderKey (x : Single) : Int :=
  let bits := x.bits.toNat
  if bits < 0x80000000 then bits else 0x7fffffff - bits

end Single

namespace Double

/-- The value of a number, without the sign of what is none. -/
def value (x : Double) : Float := Float.ofBits x.bits

/-- The number of a value. -/
def ofValue (x : Float) : Double := ⟨x.toBits⟩

instance (n : Nat) : OfNat Double n := ⟨ofValue (Float.ofNat n)⟩

/-- Whether a number is none. -/
def isNaN (x : Double) : Bool := x.value.isNaN

/-- Whether a number is one of the infinite ones. -/
def isInf (x : Double) : Bool := x.value.isInf

/-- The answer of an operation that has none. -/
def invalid : Double := ⟨0xfff8000000000000⟩

/-- An operation on two values as one on numbers. -/
def lift (op : Float → Float → Float) (x y : Double) : Double :=
  if x.isNaN then x
  else if y.isNaN then y
  else
    let z := op x.value y.value
    if z.isNaN then invalid else ofValue z

instance : Add Double := ⟨lift (· + ·)⟩

/-- The nearest number in 32 bits. -/
def toSingle (x : Double) : Single :=
  if x.isNaN then if x.bits < 0x8000000000000000 then ⟨0x7fc00000⟩ else ⟨0xffc00000⟩
  else .ofValue x.value.toFloat32

end Double

end Stagecraft
