import NovelScript.Decimal.Binary64
import NovelScript.Decimal.Power

/-!
# The nearest binary64 — rounding a ratio of whole numbers

`Binary64.nearest num den` is the non-negative binary64 nearest to `num / den`, a tie going to the
even significand and a value past the largest finite one going to infinity. All of it is whole
number arithmetic: the ratio is scaled by a power of two until its quotient has fifty-three bits
(fewer only at the lowest exponent), and the quotient is rounded.

With `k = exponent + 1074` the bits of `m * 2 ^ exponent` are `k * 2 ^ 52 + m` for every
significand of at most fifty-three bits: a significand without its leading one has `k = 0`, and one
that rounds up to `2 ^ 53` carries into the exponent field, as it should.

Products and quotients of binary64 values are ratios too, so they are rounded by the same function.
-/

set_option autoImplicit false

namespace NovelScript

/-- The whole number nearest to `num / den`; a half goes to the even neighbour. -/
def roundHalfEven (num den : Nat) : Nat :=
  let quotient := num / den
  let twice := 2 * (num % den)
  if twice < den then quotient
  else if den < twice then quotient + 1
  else quotient + quotient % 2

/-- A ratio times a power of two, as numerator and denominator. -/
def scaleByPowerOfTwo (num den : Nat) : Int → Nat × Nat
  | .ofNat n => (num <<< n, den)
  | .negSucc n => (num, den <<< (n + 1))

/-- The exponent at which the quotient of `num / den` by its power of two has fifty-three bits,
but never below the lowest exponent. -/
def binaryExponent (num den : Nat) : Int :=
  let guess : Int := (num.log2 : Int) - (den.log2 : Int) - 53
  let scaled := scaleByPowerOfTwo num den (-guess)
  max (if 2 * Binary64.fractionCount * scaled.2 ≤ scaled.1 then guess + 1 else guess) (-1074)

namespace Binary64

/-- Positive infinity. -/
def infinity : Binary64 := ⟨0x7FF0000000000000⟩

/-- Positive zero. -/
def zero : Binary64 := ⟨0⟩

/-- The binary64 nearest to `num / den`. -/
def nearest (num den : Nat) : Binary64 :=
  if num = 0 then zero
  else
    let exponent := binaryExponent num den
    let scaled := scaleByPowerOfTwo num den (-exponent)
    let bits := (exponent + 1074).toNat * fractionCount + roundHalfEven scaled.1 scaled.2
    if bits < infinity.bits.toNat then ⟨bits.toUInt64⟩ else infinity

/-- The absolute value as a ratio; the two patterns that are no number give zero. -/
def ratio (x : Binary64) : Nat × Nat :=
  match x.magnitude with
  | .finite significand exponent => scaleByPowerOfTwo significand 1 exponent
  | _ => (0, 1)

/-- The product of two absolute values, rounded. -/
def times (x y : Binary64) : Binary64 :=
  let a := x.ratio
  let b := y.ratio
  nearest (a.1 * b.1) (a.2 * b.2)

/-- The quotient of two absolute values, rounded. -/
def dividedBy (x y : Binary64) : Binary64 :=
  let a := x.ratio
  let b := y.ratio
  nearest (a.1 * b.2) (a.2 * b.1)

/-- The binary64 nearest to `10 ^ n`. -/
def powerOfTen (n : Nat) : Binary64 := nearest (tenTo n) 1

end Binary64

end NovelScript
