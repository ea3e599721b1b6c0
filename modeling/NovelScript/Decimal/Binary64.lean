/-!
# Binary64 — a decimal literal, by its bits

A decimal literal of a compiled script is eight bytes, and all of them count: the sign of a zero,
the payload of a NaN. So a literal is kept as its bits. Equality is equality of bits, which is
decidable and has none of the surprises of comparing numbers, and negation flips one bit, so it
undoes itself on every pattern, NaN included (`negate_negate`).

What the bits stand for is read off on demand: `magnitude` gives the absolute value as a NaN, an
infinity, or a whole significand times a power of two.
-/

set_option autoImplicit false

namespace NovelScript

/-- A 64-bit binary floating-point number, told apart by its bits. -/
structure Binary64 where
  bits : UInt64
  deriving DecidableEq, Repr, Inhabited

/-- The absolute value that a bit pattern stands for. -/
inductive Magnitude where
  | nan
  | infinite
  /-- The value `significand * 2 ^ exponent`. -/
  | finite (significand : Nat) (exponent : Int)
  deriving DecidableEq, Repr

namespace Binary64

/-- The bit that carries the sign. -/
def signBit : UInt64 := 0x8000000000000000

/-- Whether the sign bit is set; a zero and a NaN have a sign too. -/
def isNegative (x : Binary64) : Bool := x.bits &&& signBit != 0

/-- The same pattern with the other sign. -/
def negate (x : Binary64) : Binary64 := ⟨x.bits ^^^ signBit⟩

/-- Negation undoes itself on every pattern. -/
theorem negate_negate (x : Binary64) : x.negate.negate = x := by
  show Binary64.mk (x.bits ^^^ signBit ^^^ signBit) = x
  rw [UInt64.xor_assoc, UInt64.xor_self, UInt64.xor_zero]

/-- How many values the fifty-two bits of the fraction field have. -/
def fractionCount : Nat := 0x10000000000000

/-- The eleven bits of the exponent field. -/
def exponentField (x : Binary64) : Nat := x.bits.toNat / fractionCount % 2048

/-- The fifty-two bits of the fraction field. -/
def fractionField (x : Binary64) : Nat := x.bits.toNat % fractionCount

/-- The absolute value. The top exponent holds the infinity and the NaNs; exponent zero holds the
values without a leading one, at the scale of exponent one. -/
def magnitude (x : Binary64) : Magnitude :=
  if x.exponentField = 2047 then
    if x.fractionField = 0 then .infinite else .nan
  else if x.exponentField = 0 then .finite x.fractionField (-1074)
  else .finite (fractionCount + x.fractionField) (x.exponentField - 1075 : Int)

/-- Whether the value below in absolute value is only half as far as the one above: the least
significand of every exponent but the lowest. -/
def isLowerEdge (x : Binary64) : Bool :=
  x.fractionField == 0 && decide (1 < x.exponentField)

end Binary64

end NovelScript
