import NovelScript.Json.Printer
import NovelScript.Proofs.Decimal.ReadBack

/-!
# Forms — JSON values by what is written

Whether two JSON values are the same is here a question of what is written: strings, truth values
and the layout of lists and objects are compared as they are, and numbers by their texts. The form
of a value is the value with its numbers replaced by these texts, and forms are compared with `=`.

## What is proved

`Json.wholeText_inj` and `Json.ofDecimal_form_inj`: a whole number is determined by its form, and a
decimal is as far as it is finite.
-/

set_option autoImplicit false

namespace NovelScript

/-- A JSON value with the texts of its numbers. -/
inductive JsonForm where
  | null
  | bool (value : Bool)
  | number (text : String)
  | string (value : String)
  | array (items : List JsonForm)
  | object (members : List (String × JsonForm))
  deriving Inhabited

namespace JsonForm

/-- The member of an object under a key. -/
def get? : JsonForm → String → Option JsonForm
  | .object members, key => members.lookup key
  | _, _ => none

end JsonForm

namespace Json

mutual

/-- The form of a value. -/
def form : Json → JsonForm
  | .null => .null
  | .bool b => .bool b
  | .int n => .number (wholeText n)
  | .decimal x => .number (DecimalStyle.json.write x)
  | .string s => .string s
  | .array items => .array (itemForms items)
  | .object members => .object (memberForms members)

/-- The forms of items. -/
def itemForms : List Json → List JsonForm
  | [] => []
  | item :: rest => item.form :: itemForms rest

/-- The forms of members. -/
def memberForms : List (String × Json) → List (String × JsonForm)
  | [] => []
  | (key, value) :: rest => (key, value.form) :: memberForms rest

end

theorem itemForms_eq_map (items : List Json) : itemForms items = items.map form := by
  induction items with
  | nil => rfl
  | cons item rest ih => rw [itemForms, List.map_cons, ih]

/-- No two whole numbers are written alike. -/
theorem wholeText_inj {m n : Int} (same : wholeText m = wholeText n) : m = n := by
  have signed : ∀ n : Int,
      wholeText n = (if decide (n < 0) then "-" else "") ++ Nat.repr n.natAbs := by
    intro n
    cases n with
    | ofNat n =>
      have positive : decide (Int.ofNat n < 0) = false := by simp
      rw [positive]
      exact String.empty_append.symm
    | negSucc n =>
      rw [decide_eq_true (Int.negSucc_lt_zero n)]
      rfl
  have head : ∀ n, (Nat.repr n).toList.head? ≠ some '-' := by
    intro n minus
    obtain ⟨first, others, shape, digits⟩ := exists_repr_eq_cons n
    rw [shape, List.head?_cons, Option.some.injEq] at minus
    exact absurd (digits first List.mem_cons_self) (by rw [minus]; decide)
  rw [signed m, signed n] at same
  obtain ⟨sign, digits⟩ := DecimalStyle.sign_inj (head _) (head _) same
  have size : m.natAbs = n.natAbs := by
    rw [← digitsNumber_repr m.natAbs, digits, digitsNumber_repr]
  rw [decide_eq_decide] at sign
  omega

/-- The form of a decimal determines it, or tells that it is no number. -/
theorem ofDecimal_form_inj {x y : Binary64} (same : (ofDecimal x).form = (ofDecimal y).form) :
    x = y ∨ x.isFinite = false ∧ y.isFinite = false := by
  cases hx : x.isFinite <;> cases hy : y.isFinite
  · exact .inr ⟨rfl, rfl⟩
  · rw [ofDecimal_of_not_isFinite hx, ofDecimal_of_isFinite hy, form, form] at same
    cases same
  · rw [ofDecimal_of_isFinite hx, ofDecimal_of_not_isFinite hy, form, form] at same
    cases same
  · rw [ofDecimal_of_isFinite hx, ofDecimal_of_isFinite hy, form, form, JsonForm.number.injEq]
      at same
    exact .inl (DecimalStyle.eq_of_write_eq (.inr rfl) hx hy same)

end Json

end NovelScript
