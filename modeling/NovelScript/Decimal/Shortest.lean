import NovelScript.Decimal.Binary64
import NovelScript.Decimal.Power

/-!
# Shortest digits — the fewest decimal digits that read back

A binary64 value owns an interval of reals: those that round to it, the ends included exactly when
its significand is even. The shortest decimal form of the value is a point of that interval on the
coarsest grid of powers of ten that has one. If a grid has a point in the interval, then so has one
of the value's two neighbours on that grid, so two candidates per grid are enough; of two hits the
nearer wins, and which way an exact tie goes is for the writer to say (`Tie`).

All comparisons are of whole numbers. The value is `4 * m * 2 ^ (q - 2)`, its interval reaches two
units of that scale up and two down (one down at a lower edge), and both it and a grid point
`d * 10 ^ k` are brought to one scale by `Grid.up` and `Grid.down`.
-/

set_option autoImplicit false

namespace NovelScript

/-- Where a decimal exactly between two others goes. -/
inductive Tie where
  | toEven
  | up
  deriving DecidableEq, Repr

/-- The decimal `coefficient * 10 ^ exponent`. -/
structure Digits where
  coefficient : Nat
  exponent : Int
  deriving DecidableEq, Repr

/-- The reals that round to a value, in units of a power of two: the value is `value * 2 ^ scale`
and the interval runs from `low` to `high` units. -/
structure RoundingInterval where
  low : Nat
  value : Nat
  high : Nat
  closed : Bool
  scale : Int

/-- The interval of `significand * 2 ^ exponent`; at a lower edge its lower half is half as wide. -/
def RoundingInterval.of (significand : Nat) (exponent : Int) (lowerEdge : Bool) :
    RoundingInterval where
  low := 4 * significand - if lowerEdge then 1 else 2
  value := 4 * significand
  high := 4 * significand + 2
  closed := significand % 2 == 0
  scale := exponent - 2

/-- What brings units of a power of two and points of a grid of powers of ten to one scale:
`x` units and the grid point `d` compare as `x * up` and `d * down`. -/
structure Grid where
  up : Nat
  down : Nat

/-- The grid of multiples of `10 ^ k` beside units of `2 ^ scale`. -/
def Grid.of (scale k : Int) : Grid where
  up := tenTo (-k).toNat <<< scale.toNat
  down := tenTo k.toNat <<< (-scale).toNat

/-- Whether grid point `d` lies in the interval. -/
def RoundingInterval.holds (i : RoundingInterval) (g : Grid) (d : Nat) : Bool :=
  if i.closed then decide (i.low * g.up ≤ d * g.down) && decide (d * g.down ≤ i.high * g.up)
  else decide (i.low * g.up < d * g.down) && decide (d * g.down < i.high * g.up)

/-- The point of grid `10 ^ k` that stands for the value, if the interval has one. -/
def RoundingInterval.pick? (i : RoundingInterval) (tie : Tie) (k : Int) : Option Nat :=
  let g := Grid.of i.scale k
  let below := i.value * g.up / g.down
  match i.holds g below, i.holds g (below + 1) with
  | false, false => none
  | true, false => some below
  | false, true => some (below + 1)
  | true, true =>
    let toBelow := i.value * g.up - below * g.down
    let toAbove := (below + 1) * g.down - i.value * g.up
    if toBelow < toAbove then some below
    else if toAbove < toBelow then some (below + 1)
    else match tie with
      | .up => some (below + 1)
      | .toEven => some (below + below % 2)

/-- The first hit on the grids `10 ^ k`, `10 ^ (k - 1)`, and so on, `steps` grids at most. -/
def RoundingInterval.search (i : RoundingInterval) (tie : Tie) : (steps : Nat) → Int → Digits
  | 0, k => ⟨0, k⟩
  | steps + 1, k =>
    match i.pick? tie k with
    | some d => ⟨d, k⟩
    | none => i.search tie steps (k - 1)

/-- A power of ten that lies above `significand * 2 ^ exponent`, and above it by a few powers at
most: `30103 / 100000` is the decimal logarithm of two, rounded up. -/
def decimalCeiling (significand : Nat) (exponent : Int) : Int :=
  ((significand.log2 : Int) + exponent + 1) * 30103 / 100000 + 2

/-- The shortest digits of a non-zero finite value. Seventeen digits always read back, so the grids
from three above the leading digit down to the seventeenth are enough. -/
def shortestDigits (significand : Nat) (exponent : Int) (lowerEdge : Bool) (tie : Tie) : Digits :=
  (RoundingInterval.of significand exponent lowerEdge).search tie 24
    (decimalCeiling significand exponent)

end NovelScript
