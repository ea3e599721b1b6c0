import NovelScript.Proofs.Json.Layout
import NovelScript.Proofs.Text.Lines

/-!
# One line — the compact text of a value has no line break

Between tokens the compact form puts nothing, and inside them there is no break either: strings and
keys have theirs escaped, and numbers are digits, points, signs and the mark of an exponent.

## What is proved

`DecimalStyle.breaks_write`: a decimal has no break in a style whose own words have none.
`Json.breaks_quote` and `Json.breaks_compact`: neither have strings in quotes and compact texts.
-/

set_option autoImplicit false

namespace NovelScript

/-! ## Decimals -/

theorem breaks_repr (n : Nat) : breaks (Nat.repr n) = 0 := breaks_word (Source.word_repr n)

theorem breaks_zeros (n : Nat) : breaks (zeros n) = 0 := by
  refine breaks_eq_zero_iff.mpr fun mem => ?_
  exact absurd (Source.isWordChar_of_mem_zeros _ mem) (by decide)

namespace Digits

theorem breaks_positional (d : Digits) {whole : String} (free : breaks whole = 0) :
    breaks (d.positional whole) = 0 := by
  have digits := breaks_repr d.coefficient
  have point : breaks "." = 0 := rfl
  have zeroPoint : breaks "0." = 0 := rfl
  unfold positional
  split
  next =>
    simp only [breaks_append, breaks_part digits (List.Subset.refl _), breaks_zeros, free]
  next =>
    dsimp only
    split
    next =>
      simp only [breaks_append, breaks_part digits (List.take_subset _ _), point,
        breaks_part digits (List.drop_subset _ _)]
    next =>
      simp only [breaks_append, zeroPoint, breaks_zeros,
        breaks_part digits (List.Subset.refl _)]

theorem breaks_scientific (d : Digits) : breaks d.scientific = 0 := by
  have digits := breaks_repr d.coefficient
  have fraction : ∀ part : List Char, part ⊆ (Nat.repr d.coefficient).toList →
      breaks (if part.isEmpty then "" else "." ++ String.ofList part) = 0 := by
    intro part within
    split
    next => rfl
    next => rw [breaks_append, breaks_part digits within]; rfl
  have sign : ∀ negative : Prop, [Decidable negative] →
      breaks (if negative then "e-" else "e+") = 0 := by
    intro negative _
    split <;> rfl
  unfold scientific
  simp only [breaks_append, breaks_part digits (List.take_subset _ _),
    fraction _ (List.drop_subset _ _), sign, breaks_repr]

end Digits

/-- A decimal has no break in a style whose own words have none. -/
theorem DecimalStyle.breaks_write (style : DecimalStyle) (whole : breaks style.whole = 0)
    (nan : breaks style.nan = 0) (infinity : breaks style.infinity = 0) (x : Binary64) :
    breaks (style.write x) = 0 := by
  have unsigned : breaks (style.unsigned x) = 0 := by
    unfold unsigned
    split
    next => exact nan
    next => exact infinity
    next => rw [breaks_append, whole]; rfl
    next =>
      dsimp only
      split
      next => exact Digits.breaks_positional _ whole
      next => exact Digits.breaks_scientific _
  unfold write
  split
  next => exact nan
  next =>
    rw [breaks_append, unsigned]
    split <;> rfl

/-! ## Values -/

namespace Json

/-- A break is escaped, and no escape has one. -/
theorem not_mem_escape (c : Char) : '\n' ∉ escape c := by
  by_cases control : c.toNat < 32
  · have all : ∀ code < 32, '\n' ∉ escape (Char.ofNat code) := by decide
    have here := all c.toNat control
    rwa [Char.ofNat_toNat] at here
  · have printed : c ≠ '\n' := by
      rintro rfl
      exact control (by decide)
    rw [escape, if_neg printed, if_neg control]
    iterate 6
      split
      next => decide
    exact fun mem => printed (List.mem_singleton.mp mem).symm

theorem breaks_quote (text : String) : breaks (quote text) = 0 := by
  refine breaks_eq_zero_iff.mpr fun mem => ?_
  rw [toList_quote, List.mem_cons, List.mem_append, List.mem_flatMap] at mem
  rcases mem with opening | ⟨c, -, inside⟩ | closing
  · exact absurd opening (by decide)
  · exact not_mem_escape c inside
  · exact absurd (List.mem_singleton.mp closing) (by decide)

/-- The compact text of a value is one line. -/
theorem breaks_compact (value : Json) : breaks value.compact = 0 := by
  induction value using induct with
  | null => rfl
  | bool b => cases b <;> rfl
  | int n => exact breaks_numeral (Source.numeral_wholeText n)
  | decimal x => exact DecimalStyle.json.breaks_write rfl rfl rfl x
  | string s => exact breaks_quote s
  | array items ih =>
    have parts : allBreaks (items.map compact) = 0 := allBreaks_map_eq_zero ih
    rw [compact, compactItems_eq_map, breaks_append, breaks_append,
      breaks_intercalate (show breaks "," = 0 from rfl), parts]
    rfl
  | object members ih =>
    have parts : allBreaks (members.map fun m => quote m.1 ++ ":" ++ m.2.compact) = 0 := by
      refine allBreaks_map_eq_zero fun m mem => ?_
      rw [breaks_append, breaks_append, breaks_quote, ih m mem]
      rfl
    rw [compact, compactMembers_eq_map, breaks_append, breaks_append,
      breaks_intercalate (show breaks "," = 0 from rfl), parts]
    rfl

end Json

end NovelScript
