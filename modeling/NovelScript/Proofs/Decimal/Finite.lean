import Mathlib.Data.Nat.Bitwise
import NovelScript.Json.Value

/-!
# Finite decimals — the patterns that have a number

A pattern stands for a number unless its exponent field is the top one. The finite patterns are the
ones that JSON can write; a sign and an absolute value belong to one of them at most. What the
significand and the exponent of such a value can be is collected in `Scaled`, which is all that
rounding needs to know of them.

## What is proved

`Binary64.eq_of_magnitude_eq`: finite patterns of one sign and one absolute value are equal.
`Json.ofDecimal_of_isFinite`, `Json.ofDecimal_of_not_isFinite`: the JSON value of a decimal is the
decimal where that is a number, and `null` elsewhere.
-/

set_option autoImplicit false

namespace NovelScript

namespace Binary64

/-- Whether a pattern stands for a number. -/
def isFinite (x : Binary64) : Bool := x.exponentField != 2047

theorem isFinite_iff {x : Binary64} : x.isFinite = true ↔ x.exponentField ≠ 2047 := by
  simp [isFinite]

/-- The significand and the exponent of a finite pattern. -/
theorem magnitude_of_isFinite {x : Binary64} (h : x.isFinite = true) :
    x.magnitude = .finite
      (if x.exponentField = 0 then x.fractionField else fractionCount + x.fractionField)
      (if x.exponentField = 0 then -1074 else (x.exponentField : Int) - 1075) := by
  unfold magnitude
  rw [if_neg (isFinite_iff.mp h)]
  split <;> rfl

/-- A zero has the lowest exponent. -/
theorem exists_magnitude {x : Binary64} (h : x.isFinite = true) :
    ∃ significand exponent, x.magnitude = .finite significand exponent ∧
      (significand = 0 → exponent = -1074) := by
  refine ⟨_, _, magnitude_of_isFinite h, fun zero => ?_⟩
  have leading : 0 < fractionCount := by decide
  split at zero
  next lowest => rw [if_pos lowest]
  next => omega

/-- A pattern that is no number has no significand. -/
theorem magnitude_of_not_isFinite {x : Binary64} (h : x.isFinite = false) :
    x.magnitude = .infinite ∨ x.magnitude = .nan := by
  have top : x.exponentField = 2047 := by simpa [isFinite] using h
  unfold magnitude
  rw [if_pos top]
  split
  · exact .inl rfl
  · exact .inr rfl

/-! ## Fields -/

theorem fractionField_lt (x : Binary64) : x.fractionField < fractionCount :=
  Nat.mod_lt _ (by decide)

theorem isNegative_iff {x : Binary64} : x.isNegative = true ↔ 2 ^ 63 ≤ x.bits.toNat := by
  have sign : (x.bits &&& signBit).toNat = (x.bits.toNat.testBit 63).toNat * 2 ^ 63 := by
    rw [UInt64.toNat_and]
    exact Nat.and_two_pow x.bits.toNat 63
  have top : x.bits.toNat.testBit 63 = true ↔ 2 ^ 63 ≤ x.bits.toNat := by
    have bound := x.bits.toNat_lt
    rw [Nat.testBit_eq_decide_div_mod_eq, decide_eq_true_eq]
    omega
  rw [isNegative, bne_iff_ne, ne_eq, ← UInt64.toNat_inj, sign, ← top]
  cases x.bits.toNat.testBit 63 <;> simp

/-- A pattern is its sign, its exponent field and its fraction field. -/
theorem toNat_bits (x : Binary64) : x.bits.toNat =
    (if x.isNegative then 2 ^ 63 else 0) + x.exponentField * fractionCount + x.fractionField := by
  have bound := x.bits.toNat_lt
  have sign : x.isNegative = true ↔ 2 ^ 63 ≤ x.bits.toNat := isNegative_iff
  simp only [exponentField, fractionField, fractionCount]
  split
  next negative =>
    rw [sign] at negative
    omega
  next positive =>
    rw [sign] at positive
    omega

/-- A sign and an absolute value belong to one finite pattern at most. -/
theorem eq_of_magnitude_eq {x y : Binary64} (hx : x.isFinite = true) (hy : y.isFinite = true)
    (sign : x.isNegative = y.isNegative) (magnitude : x.magnitude = y.magnitude) : x = y := by
  have fields : x.exponentField = y.exponentField ∧ x.fractionField = y.fractionField := by
    have fx := x.fractionField_lt
    have fy := y.fractionField_lt
    rw [magnitude_of_isFinite hx, magnitude_of_isFinite hy, Magnitude.finite.injEq] at magnitude
    obtain ⟨significand, exponent⟩ := magnitude
    by_cases low : x.exponentField = 0 <;> by_cases low' : y.exponentField = 0 <;>
      simp only [low, low', if_true, if_false] at significand exponent <;> omega
  have bits : x.bits.toNat = y.bits.toNat := by
    rw [toNat_bits x, toNat_bits y, sign, fields.1, fields.2]
  exact congrArg Binary64.mk (UInt64.toNat_inj.mp bits)

end Binary64

/-- What the significand, the exponent and the edge of a finite value other than zero can be: only
at the lowest exponent the significand may lack its leading one, and an edge is the least
significand of any other exponent. -/
structure Scaled (significand : Nat) (exponent : Int) (lowerEdge : Bool) : Prop where
  pos : 0 < significand
  lt : significand < 2 * Binary64.fractionCount
  normal : -1074 < exponent → Binary64.fractionCount ≤ significand
  lowest : -1074 ≤ exponent
  highest : exponent ≤ 971
  edge : lowerEdge = true ↔ significand = Binary64.fractionCount ∧ -1074 < exponent

theorem Binary64.scaled_of_magnitude {x : Binary64} {significand : Nat} {exponent : Int}
    (h : x.magnitude = .finite significand exponent) (pos : significand ≠ 0) :
    Scaled significand exponent x.isLowerEdge := by
  have fraction := x.fractionField_lt
  have field : x.exponentField < 2048 := Nat.mod_lt _ (by decide)
  have edge : x.isLowerEdge = true ↔ x.fractionField = 0 ∧ 1 < x.exponentField := by
    rw [isLowerEdge, Bool.and_eq_true, beq_iff_eq, decide_eq_true_eq]
  unfold magnitude at h
  split at h
  · split at h <;> cases h
  · split at h
    · cases h
      exact ⟨by omega, by omega, by omega, by omega, by omega, by rw [edge]; omega⟩
    · cases h
      exact ⟨by omega, by omega, by omega, by omega, by omega, by rw [edge]; omega⟩

namespace Json

theorem ofDecimal_of_isFinite {x : Binary64} (h : x.isFinite = true) :
    ofDecimal x = .decimal x := by
  rw [ofDecimal, Binary64.magnitude_of_isFinite h]

theorem ofDecimal_of_not_isFinite {x : Binary64} (h : x.isFinite = false) :
    ofDecimal x = .null := by
  unfold ofDecimal
  rcases Binary64.magnitude_of_not_isFinite h with infinite | nan
  · rw [infinite]
  · rw [nan]

end Json

end NovelScript
