/-!
# Results — what a mapped result says about the one it was made from

Most functions of the library may fail, and many change the value that another one succeeded with.
Such a function fails as the other one does, and if it succeeds the other one did.

## What is proved

`map_eq_ok_iff` and its companions: what a mapped result is, said of the result that was mapped.
`map_eq_map_cases`: two results that are one after mapping fail alike or succeed together.
-/

set_option autoImplicit false

namespace NovelScript

/-- A result that was mapped without failing. -/
theorem exists_of_map_eq_ok {ε α β : Type} {f : α → β} {x : Except ε α} {b : β}
    (h : x.map f = .ok b) : ∃ a, x = .ok a ∧ f a = b := by
  cases x with
  | error e => cases h
  | ok a => cases h; exact ⟨a, rfl, rfl⟩

theorem map_eq_ok_iff {ε α β : Type} {f : α → β} {x : Except ε α} {b : β} :
    x.map f = .ok b ↔ ∃ a, x = .ok a ∧ f a = b := by
  refine ⟨exists_of_map_eq_ok, ?_⟩
  rintro ⟨a, rfl, rfl⟩
  rfl

/-- Mapping makes no difference to whether there is a success. -/
theorem exists_map_eq_ok_iff {ε α β : Type} {f : α → β} {x : Except ε α} :
    (∃ b, x.map f = .ok b) ↔ ∃ a, x = .ok a := by
  simp only [map_eq_ok_iff]
  constructor
  · rintro ⟨_, a, made, -⟩
    exact ⟨a, made⟩
  · rintro ⟨a, made⟩
    exact ⟨f a, a, made, rfl⟩

theorem map_eq_error_iff {ε α β : Type} {f : α → β} {x : Except ε α} {e : ε} :
    x.map f = .error e ↔ x = .error e := by
  constructor
  · intro failed
    cases x with
    | error e' => cases failed; rfl
    | ok a => cases failed
  · rintro rfl
    rfl

theorem mapError_eq_ok_iff {ε ε' α : Type} {f : ε → ε'} {x : Except ε α} {a : α} :
    x.mapError f = .ok a ↔ x = .ok a := by
  constructor
  · intro made
    cases x with
    | error e => cases made
    | ok a' => cases made; rfl
  · rintro rfl
    rfl

theorem mapError_eq_error_iff {ε ε' α : Type} {f : ε → ε'} {x : Except ε α} {e' : ε'} :
    x.mapError f = .error e' ↔ ∃ e, x = .error e ∧ f e = e' := by
  constructor
  · intro failed
    cases x with
    | error e => cases failed; exact ⟨e, rfl, rfl⟩
    | ok a => cases failed
  · rintro ⟨e, rfl, rfl⟩
    rfl

/-- Results that are one after mapping fail alike, or succeed with values that map to one. -/
theorem map_eq_map_cases {ε α β γ : Type} {f : α → γ} {g : β → γ} {x : Except ε α}
    {y : Except ε β} (same : x.map f = y.map g) :
    (∃ e, x = .error e ∧ y = .error e) ∨ ∃ a b, x = .ok a ∧ y = .ok b ∧ f a = g b := by
  cases x with
  | error e =>
    cases y with
    | error e' => cases same; exact .inl ⟨e, rfl, rfl⟩
    | ok b => cases same
  | ok a =>
    cases y with
    | error e' => cases same
    | ok b => exact .inr ⟨a, b, rfl, rfl, Except.ok.inj same⟩

/-- What is one after mapping is one after mapping further on, if that tells no more apart. -/
theorem map_map_eq_of_map_eq {ε α β γ α' β' δ : Type} {f : α → γ} {g : β → γ} {u : α → α'}
    {v : β → β'} {h : α' → δ} {k : β' → δ} {x : Except ε α} {y : Except ε β}
    (same : x.map f = y.map g) (further : ∀ a b, f a = g b → h (u a) = k (v b)) :
    (x.map u).map h = (y.map v).map k := by
  rcases map_eq_map_cases same with ⟨e, rfl, rfl⟩ | ⟨a, b, rfl, rfl, equal⟩
  · rfl
  · exact congrArg Except.ok (further a b equal)

end NovelScript
