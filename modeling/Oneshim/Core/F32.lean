/-
  `f32` as bits.

  A float that is stored or moved is its bit pattern; what the arithmetic does is left to whoever
  computes with it.
-/
import Mathlib.Algebra.Group.Int.Defs
import Mathlib.Algebra.Group.Nat.Defs

namespace Oneshim

/-- An `f32` as its IEEE 754 bit pattern. -/
structure F32 where
  bits : UInt32
deriving DecidableEq

namespace F32

def infinity : F32 := ⟨0x7F800000⟩
def negInfinity : F32 := ⟨0xFF800000⟩
/-- `f32::EPSILON`. -/
def epsilon : F32 := ⟨0x34000000⟩
def zero : F32 := ⟨0⟩
def one : F32 := ⟨0x3F800000⟩
/-- `255.0`. -/
def byteRange : F32 := ⟨0x437F0000⟩

/-- `is_finite`: the exponent is not all ones. -/
def isFinite (x : F32) : Bool := x.bits.toNat / 2 ^ 23 % 256 != 255

/-- `to_le_bytes`. -/
def toLeBytes (x : F32) : List UInt8 :=
  [UInt8.ofNat x.bits.toNat, UInt8.ofNat (x.bits.toNat / 2 ^ 8),
    UInt8.ofNat (x.bits.toNat / 2 ^ 16), UInt8.ofNat (x.bits.toNat / 2 ^ 24)]

/-- `from_le_bytes`. -/
def fromLeBytes (a b c d : UInt8) : F32 :=
  ⟨UInt32.ofNat (a.toNat + 2 ^ 8 * b.toNat + 2 ^ 16 * c.toNat + 2 ^ 24 * d.toNat)⟩

/-- Where a float stands in the order of the finite ones. -/
def place (x : F32) : Int :=
  if x.bits.toNat < 2 ^ 31 then x.bits.toNat else 2 ^ 31 - x.bits.toNat

end F32

end Oneshim
