/-!
# Powers of ten — the scale of decimal places

A decimal is a whole number and a power of ten, so exact work on decimals multiplies by powers of
ten. `tenTo` is that power as a whole number. Powers of two are shifts and need no name.
-/

set_option autoImplicit false

namespace NovelScript

/-- Ten times itself, `n` times over. -/
def tenTo (n : Nat) : Nat := Nat.pow 10 n

theorem tenTo_succ (n : Nat) : tenTo (n + 1) = tenTo n * 10 := rfl

/-- A power of ten is no zero, so a scale can be divided by. -/
theorem tenTo_pos (n : Nat) : 0 < tenTo n := by
  induction n with
  | zero => decide
  | succ n ih => rw [tenTo_succ]; omega

end NovelScript
