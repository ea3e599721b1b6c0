import Mathlib.Algebra.Order.Field.Power
import Mathlib.Data.Rat.Cast.Order
import Mathlib.Tactic.Linarith
import Mathlib.Tactic.NormNum
import Mathlib.Tactic.Positivity
import Mathlib.Tactic.Ring
import NovelScript.Decimal.Shortest
import NovelScript.Proofs.Decimal.Finite

/-!
# Rounding — shortest digits belong to one value

The search for shortest digits compares whole numbers. What it compares are rational numbers: the
point `d * 10 ^ k` of a grid and the ends of an interval in units of `2 ^ scale`, both brought to
one scale. So a search says of the number that its digits stand for in which interval it lies.

* Twenty-four grids are enough. The last of them is finer than half a unit in the last place, so a
  point of it lies between the value and the upper end (`ten_zpow_lt_two_zpow`: this needs no more
  of the two powers than `10 ^ 3 < 2 ^ 10` and `2 ^ 93 < 10 ^ 28`).
* The intervals of two values have nothing in common. Neighbours share an end, but that end belongs
  to the even one of them alone; and at a lower edge the interval is cut to fit the one below.

## What is proved

`eq_of_shortestDigits_value_eq`: shortest digits that stand for one number are of one value.
-/

set_option autoImplicit false

namespace NovelScript

/-! ## Powers of two and ten -/

/-- A thousand is less than two to the tenth, so three decimal places take at most ten binary
ones. -/
theorem ten_pow_lt_two_pow {k n : Nat} (h : 10 * (k / 3) + 4 * (k % 3) < n) : 10 ^ k < 2 ^ n :=
  calc 10 ^ k = (10 ^ 3) ^ (k / 3) * 10 ^ (k % 3) := by
        rw [← pow_mul, ← pow_add, Nat.div_add_mod]
    _ ≤ (2 ^ 10) ^ (k / 3) * (2 ^ 4) ^ (k % 3) :=
        Nat.mul_le_mul (Nat.pow_le_pow_left (by decide) _) (Nat.pow_le_pow_left (by decide) _)
    _ = 2 ^ (10 * (k / 3) + 4 * (k % 3)) := by rw [← pow_mul, ← pow_mul, ← pow_add]
    _ < 2 ^ n := Nat.pow_lt_pow_right (by decide) h

/-- Two to the ninety-third is less than ten to the twenty-eighth. -/
theorem two_pow_lt_ten_pow {n k : Nat} (h : 28 * (n / 93) + (n % 93 / 3 + 1) ≤ k) :
    2 ^ n < 10 ^ k :=
  calc 2 ^ n = (2 ^ 93) ^ (n / 93) * 2 ^ (n % 93) := by
        rw [← pow_mul, ← pow_add, Nat.div_add_mod]
    _ < (10 ^ 28) ^ (n / 93) * (2 ^ 3) ^ (n % 93 / 3 + 1) := by
        refine Nat.mul_lt_mul_of_le_of_lt (Nat.pow_le_pow_left (by decide) _) ?_ (by positivity)
        rw [← pow_mul]
        exact Nat.pow_lt_pow_right (by decide) (Nat.lt_mul_div_succ _ (by decide))
    _ ≤ (10 ^ 28) ^ (n / 93) * 10 ^ (n % 93 / 3 + 1) :=
        Nat.mul_le_mul_left _ (Nat.pow_le_pow_left (by decide) _)
    _ = 10 ^ (28 * (n / 93) + (n % 93 / 3 + 1)) := by rw [← pow_mul, ← pow_add]
    _ ≤ 10 ^ k := Nat.pow_le_pow_right (by decide) h

theorem ten_zpow_lt_two_zpow {k t : Int} (h : 100000 * k ≤ 30103 * t - 474438) (low : -1075 ≤ t)
    (high : t ≤ 970) : (10 : ℚ) ^ k < 2 ^ t := by
  rcases le_or_gt t 0 with fraction | whole
  · obtain ⟨n, rfl⟩ : ∃ n : Nat, t = -n := ⟨(-t).toNat, by omega⟩
    obtain ⟨m, rfl⟩ : ∃ m : Nat, k = -m := ⟨(-k).toNat, by omega⟩
    rw [zpow_neg, zpow_neg, inv_lt_inv₀ (by positivity) (by positivity), zpow_natCast, zpow_natCast]
    exact_mod_cast @two_pow_lt_ten_pow n m (by omega)
  · obtain ⟨n, rfl⟩ := Int.eq_ofNat_of_zero_le whole.le
    have whole : (10 : ℚ) ^ k ≤ 10 ^ (k.toNat : Int) :=
      zpow_le_zpow_right₀ (by norm_num) (Int.self_le_toNat k)
    refine whole.trans_lt ?_
    rw [zpow_natCast, zpow_natCast]
    exact_mod_cast @ten_pow_lt_two_pow k.toNat n (by omega)

/-! ## Grids -/

/-- The number that digits stand for. -/
def Digits.value (d : Digits) : ℚ := d.coefficient * 10 ^ d.exponent

theorem tenTo_eq (n : Nat) : tenTo n = 10 ^ n := rfl

/-- A unit of the scale and a grid step compare as the factors of the grid do. -/
theorem Grid.up_mul (scale k : Int) :
    ((Grid.of scale k).up : ℚ) * 10 ^ k = (Grid.of scale k).down * 2 ^ scale := by
  have ten : (10 : ℚ) ^ k * 10 ^ ((-k).toNat : Int) = 10 ^ (k.toNat : Int) := by
    rw [← zpow_add₀ (by norm_num)]
    congr 1
    omega
  have two : (2 : ℚ) ^ scale * 2 ^ ((-scale).toNat : Int) = 2 ^ (scale.toNat : Int) := by
    rw [← zpow_add₀ (by norm_num)]
    congr 1
    omega
  rw [zpow_natCast, zpow_natCast] at ten two
  simp only [Grid.of, tenTo_eq, Nat.shiftLeft_eq, Nat.cast_mul, Nat.cast_pow, Nat.cast_ofNat]
  rw [← ten, ← two]
  ring

theorem Grid.down_pos (scale k : Int) : 0 < (Grid.of scale k).down := by
  simp only [Grid.of, Nat.shiftLeft_eq]
  exact Nat.mul_pos (tenTo_pos _) (Nat.two_pow_pos _)

/-- Both factors of a grid are its numbers in one unit. -/
theorem Grid.exists_unit (scale k : Int) : ∃ unit : ℚ, 0 < unit ∧
    (∀ n : Nat, ((n * (Grid.of scale k).up : Nat) : ℚ) * unit = n * 2 ^ scale) ∧
      ∀ d : Nat, ((d * (Grid.of scale k).down : Nat) : ℚ) * unit = d * 10 ^ k := by
  have down : (0 : ℚ) < (Grid.of scale k).down := Nat.cast_pos.mpr (Grid.down_pos scale k)
  refine ⟨10 ^ k / (Grid.of scale k).down, by positivity, fun n => ?_, fun d => ?_⟩
  · rw [Nat.cast_mul, mul_assoc, ← mul_div_assoc, Grid.up_mul, mul_div_cancel_left₀ _ down.ne']
  · rw [Nat.cast_mul, mul_assoc, mul_div_cancel₀ _ down.ne']

/-! ## Intervals -/

namespace RoundingInterval

/-- Whether a number lies in the interval. -/
def Contains (i : RoundingInterval) (q : ℚ) : Prop :=
  if i.closed then i.low * 2 ^ i.scale ≤ q ∧ q ≤ i.high * 2 ^ i.scale
  else i.low * 2 ^ i.scale < q ∧ q < i.high * 2 ^ i.scale

/-- The comparison of whole numbers tells whether a grid point lies in the interval. -/
theorem holds_iff (i : RoundingInterval) (k : Int) (d : Nat) :
    i.holds (Grid.of i.scale k) d = true ↔ i.Contains (d * 10 ^ k) := by
  obtain ⟨unit, pos, units, points⟩ := Grid.exists_unit i.scale k
  have le : ∀ m n : Nat, m ≤ n ↔ (m : ℚ) * unit ≤ n * unit := fun m n => by
    rw [mul_le_mul_iff_of_pos_right pos, Nat.cast_le]
  have lt : ∀ m n : Nat, m < n ↔ (m : ℚ) * unit < n * unit := fun m n => by
    rw [mul_lt_mul_iff_of_pos_right pos, Nat.cast_lt]
  unfold holds Contains
  split
  · simp only [Bool.and_eq_true, decide_eq_true_eq]
    rw [le, le, units, units, points]
  · simp only [Bool.and_eq_true, decide_eq_true_eq]
    rw [lt, lt, units, units, points]

/-- A grid point that was picked lies in the interval. -/
theorem contains_of_pick? {i : RoundingInterval} {tie : Tie} {k : Int} {d : Nat}
    (h : i.pick? tie k = some d) : i.Contains (d * 10 ^ k) := by
  rw [← holds_iff]
  unfold pick? at h
  dsimp only at h
  split at h
  next => cases h
  next below _ => cases h; exact below
  next _ above => cases h; exact above
  next below above =>
    split at h
    · cases h; exact below
    · split at h
      · cases h; exact above
      · cases tie with
        | up => cases h; exact above
        | toEven =>
          cases h
          rcases Nat.mod_two_eq_zero_or_one
            (i.value * (Grid.of i.scale k).up / (Grid.of i.scale k).down) with even | odd
          · rw [even]; exact below
          · rw [odd]; exact above

/-- A grid that is finer than the way from the value to the upper end has a point in the
interval. -/
theorem pick?_isSome {i : RoundingInterval} (tie : Tie) {k : Int} (low : i.low ≤ i.value)
    (fine : i.value * (2 : ℚ) ^ i.scale + 10 ^ k < i.high * 2 ^ i.scale) :
    (i.pick? tie k).isSome = true := by
  obtain ⟨unit, pos, units, points⟩ := Grid.exists_unit i.scale k
  let g := Grid.of i.scale k
  let below := i.value * g.up / g.down
  -- The point above the value is past it by one step at most.
  have above : i.holds g (below + 1) = true := by
    rw [holds_iff]
    have before : (below : ℚ) * 10 ^ k ≤ i.value * 2 ^ i.scale := by
      rw [← units, ← points, mul_le_mul_iff_of_pos_right pos, Nat.cast_le]
      exact Nat.div_mul_le_self _ _
    have after : i.value * 2 ^ i.scale < ((below + 1 : Nat) : ℚ) * 10 ^ k := by
      rw [← units, ← points, mul_lt_mul_iff_of_pos_right pos, Nat.cast_lt, Nat.mul_comm (below + 1)]
      exact Nat.lt_mul_div_succ _ (Grid.down_pos _ _)
    have start : (i.low : ℚ) * 2 ^ i.scale ≤ i.value * 2 ^ i.scale :=
      mul_le_mul_of_nonneg_right (Nat.cast_le.mpr low) (by positivity)
    have high : ((below + 1 : Nat) : ℚ) * 10 ^ k < i.high * 2 ^ i.scale := by
      push_cast
      linarith
    unfold Contains
    split
    · exact ⟨(start.trans_lt after).le, high.le⟩
    · exact ⟨start.trans_lt after, high⟩
  unfold pick?
  dsimp only
  rw [above]
  cases i.holds g below <;> dsimp only
  · rfl
  · split
    · rfl
    · split
      · rfl
      · cases tie <;> rfl

/-- If the last grid of a search has a point in the interval, then the search ends with digits whose
number lies in it. -/
theorem contains_search {i : RoundingInterval} {tie : Tie} {steps : Nat} {k : Int}
    (last : (i.pick? tie (k - steps)).isSome = true) :
    i.Contains (i.search tie (steps + 1) k).value := by
  -- The last grid stays where it is while the search comes nearer to it.
  induction steps generalizing k with
  | zero =>
    obtain ⟨d, hit⟩ := Option.isSome_iff_exists.mp last
    rw [Int.natCast_zero, sub_zero] at hit
    rw [search, hit]
    exact contains_of_pick? hit
  | succ steps ih =>
    rw [search]
    split
    next d hit => exact contains_of_pick? hit
    next =>
      refine ih ?_
      rw [show k - 1 - (steps : Int) = k - (steps + 1 : Nat) by push_cast; ring]
      exact last

/-- What two intervals have in common lies above the lower end of the second and below the upper end
of the first; both ends can be one number only if both intervals are closed. -/
theorem ends_of_common {i j : RoundingInterval} {q : ℚ} {n : Nat} (scale : j.scale = i.scale + n)
    (inFirst : i.Contains q) (inSecond : j.Contains q) :
    j.low * 2 ^ n ≤ i.high ∧ (j.low * 2 ^ n = i.high → i.closed = true ∧ j.closed = true) := by
  -- All ends are brought to the unit of the first interval, which is the finer one.
  have unit : (0 : ℚ) < 2 ^ i.scale := by positivity
  have finer : (2 : ℚ) ^ j.scale = 2 ^ n * 2 ^ i.scale := by
    rw [scale, zpow_add₀ (by norm_num), zpow_natCast, mul_comm]
  have le_of : ∀ {m : Nat}, j.low * (2 : ℚ) ^ j.scale ≤ m * 2 ^ i.scale → j.low * 2 ^ n ≤ m := by
    intro m h
    rw [finer, ← mul_assoc, mul_le_mul_iff_of_pos_right unit] at h
    exact_mod_cast h
  have lt_of : ∀ {m : Nat}, j.low * (2 : ℚ) ^ j.scale < m * 2 ^ i.scale → j.low * 2 ^ n < m := by
    intro m h
    rw [finer, ← mul_assoc, mul_lt_mul_iff_of_pos_right unit] at h
    exact_mod_cast h
  unfold Contains at inFirst inSecond
  split at inFirst <;> split at inSecond
  next first second => exact ⟨le_of (inSecond.1.trans inFirst.2), fun _ => ⟨first, second⟩⟩
  all_goals
    have strict := lt_of (by linarith [inFirst.2, inSecond.1] :
      j.low * (2 : ℚ) ^ j.scale < i.high * 2 ^ i.scale)
    exact ⟨strict.le, fun equal => absurd equal strict.ne⟩

end RoundingInterval

/-! ## Values -/

/-- Above the lowest exponent the lower end is at least that of the least significand. -/
theorem Scaled.low_ge {m : Nat} {e : Int} {edge : Bool} (h : Scaled m e edge) (above : -1074 < e) :
    4 * Binary64.fractionCount - 1 ≤ (RoundingInterval.of m e edge).low := by
  have normal := h.normal above
  have least := h.edge
  simp only [RoundingInterval.of]
  split
  next => omega
  next inner =>
    have : m ≠ Binary64.fractionCount := fun equal => inner (least.mpr ⟨equal, above⟩)
    omega

/-- The intervals of two values have nothing in common. -/
theorem Scaled.not_common {m m' : Nat} {e e' : Int} {edge edge' : Bool} (h : Scaled m e edge)
    (h' : Scaled m' e' edge') (order : e < e' ∨ e = e' ∧ m < m') {q : ℚ}
    (first : (RoundingInterval.of m e edge).Contains q)
    (second : (RoundingInterval.of m' e' edge').Contains q) : False := by
  obtain ⟨n, rfl⟩ : ∃ n : Nat, e' = e + n := ⟨(e' - e).toNat, by omega⟩
  obtain ⟨ends, closed⟩ := RoundingInterval.ends_of_common
    (by simp only [RoundingInterval.of]; ring) first second
  have lowest := h.lowest
  have most := h.lt
  rcases order with finer | ⟨same, less⟩
  · -- Twice the least lower end is the greatest upper end, and that one belongs to an odd number.
    have least := h'.low_ge (by omega)
    have twice : (RoundingInterval.of m' (e + n) edge').low * 2 ≤
        (RoundingInterval.of m' (e + n) edge').low * 2 ^ n :=
      Nat.mul_le_mul_left _ (Nat.le_self_pow (by omega) 2)
    have equal := le_antisymm ends (by simp only [RoundingInterval.of] at *; omega)
    have even := (closed equal).1
    simp only [RoundingInterval.of, beq_iff_eq, Binary64.fractionCount] at *
    omega
  · obtain rfl : n = 0 := by omega
    rw [pow_zero, mul_one] at ends closed
    have least : 4 * m' - 2 ≤ (RoundingInterval.of m' (e + (0 : Nat)) edge').low := by
      simp only [RoundingInterval.of]
      split <;> omega
    have equal := le_antisymm ends (by simp only [RoundingInterval.of] at *; omega)
    obtain ⟨even, even'⟩ := closed equal
    simp only [RoundingInterval.of, beq_iff_eq] at *
    omega

/-- A number lies in the interval of one value at most. -/
theorem Scaled.eq_of_common {m m' : Nat} {e e' : Int} {edge edge' : Bool} (h : Scaled m e edge)
    (h' : Scaled m' e' edge') {q : ℚ} (first : (RoundingInterval.of m e edge).Contains q)
    (second : (RoundingInterval.of m' e' edge').Contains q) : m = m' ∧ e = e' := by
  have below : ¬(e < e' ∨ e = e' ∧ m < m') := fun order => h.not_common h' order first second
  have above : ¬(e' < e ∨ e' = e ∧ m' < m) := fun order => h'.not_common h order second first
  omega

/-- The interval of a value other than zero holds no zero. -/
theorem Scaled.pos_of_contains {m : Nat} {e : Int} {edge : Bool} (h : Scaled m e edge) {q : ℚ}
    (inside : (RoundingInterval.of m e edge).Contains q) : 0 < q := by
  have low : 0 < (RoundingInterval.of m e edge).low := by
    have pos := h.pos
    simp only [RoundingInterval.of]
    split <;> omega
  have start : (0 : ℚ) <
      (RoundingInterval.of m e edge).low * 2 ^ (RoundingInterval.of m e edge).scale :=
    mul_pos (Nat.cast_pos.mpr low) (by positivity)
  unfold RoundingInterval.Contains at inside
  split at inside
  · exact start.trans_le inside.1
  · exact start.trans inside.1

/-! ## Shortest digits -/

theorem decimalCeiling_le {significand : Nat} {exponent : Int} {edge : Bool}
    (h : Scaled significand exponent edge) :
    100000 * (decimalCeiling significand exponent - 23) ≤ 30103 * (exponent - 1) - 474438 := by
  have log : significand.log2 < 53 := (Nat.log2_lt h.pos.ne').mpr h.lt
  unfold decimalCeiling
  omega

/-- The number of the shortest digits of a value lies in its interval. -/
theorem contains_shortestDigits {m : Nat} {e : Int} {edge : Bool} (h : Scaled m e edge)
    (tie : Tie) :
    (RoundingInterval.of m e edge).Contains (shortestDigits m e edge tie).value := by
  refine RoundingInterval.contains_search (RoundingInterval.pick?_isSome tie ?_ ?_)
  · simp only [RoundingInterval.of]
    omega
  · have half : (2 : ℚ) ^ (e - 1) = 2 * 2 ^ (e - 2) := by
      rw [show e - 1 = 1 + (e - 2) by ring, zpow_add₀ (by norm_num), zpow_one]
    have fine := ten_zpow_lt_two_zpow (decimalCeiling_le h)
      (by linarith [h.lowest]) (by linarith [h.highest])
    rw [half] at fine
    simp only [RoundingInterval.of]
    push_cast
    linarith

/-- Digits of one number belong to one value. -/
theorem eq_of_shortestDigits_value_eq {m m' : Nat} {e e' : Int} {edge edge' : Bool}
    {tie tie' : Tie} (h : Scaled m e edge) (h' : Scaled m' e' edge')
    (same : (shortestDigits m e edge tie).value = (shortestDigits m' e' edge' tie').value) :
    m = m' ∧ e = e' := by
  have first := contains_shortestDigits h tie
  rw [same] at first
  exact h.eq_of_common h' first (contains_shortestDigits h' tie')

end NovelScript
