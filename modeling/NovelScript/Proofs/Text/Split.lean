import NovelScript.Project.Path

/-!
# Splitting — a text as pieces between separators

Splitting at a separator undoes joining, as far as the pieces have none inside. A text that ends in
a separator is written as pieces with the separator behind each (`terminated`): what follows such a
text is split on its own, and so is each of the pieces.

## What is proved

`splitAtEvery_terminated_append`: terminated pieces in front of a text are split off from it, each
cut where it has separators inside; `splitAtEvery_terminated`: so they are split off whole where
they have none. `terminated_splitAtEvery`: every text with a separator behind it is made of
terminated pieces.
-/

set_option autoImplicit false

namespace NovelScript

variable {separator : Char} {piece rest : List Char}

/-- A text is split at a separator whatever the texts beside it are split into. -/
theorem splitAtEvery_append_separator (separator : Char) (text rest : List Char) :
    splitAtEvery separator (text ++ separator :: rest) =
      splitAtEvery separator text ++ splitAtEvery separator rest := by
  induction text with
  | nil => simp [splitAtEvery]
  | cons c text ih =>
    rw [List.cons_append, splitAtEvery, splitAtEvery, ih]
    split
    next => rfl
    next =>
      cases split : splitAtEvery separator text with
      | nil => exact absurd split (splitAtEvery_ne_nil separator text)
      | cons first others => rfl

/-- A text without separators goes to the first piece of what follows it. -/
theorem splitAtEvery_append (free : separator ∉ piece) {first : List Char}
    {others : List (List Char)} (split : splitAtEvery separator rest = first :: others) :
    splitAtEvery separator (piece ++ rest) = (piece ++ first) :: others := by
  induction piece with
  | nil => exact split
  | cons c piece ih =>
    rw [List.cons_append, splitAtEvery, if_neg (List.ne_of_not_mem_cons free).symm,
      ih (List.not_mem_of_not_mem_cons free)]
    rfl

/-- A text without separators is one piece. -/
theorem splitAtEvery_of_free (free : separator ∉ piece) :
    splitAtEvery separator piece = [piece] := by
  have split : splitAtEvery separator (piece ++ []) = [piece ++ []] :=
    splitAtEvery_append free rfl
  rwa [List.append_nil] at split

/-- A text has one piece more than it has separators. -/
theorem length_splitAtEvery (separator : Char) (text : List Char) :
    (splitAtEvery separator text).length = text.count separator + 1 := by
  induction text with
  | nil => rfl
  | cons c rest ih =>
    unfold splitAtEvery
    split
    next same => rw [same, List.count_cons_self, List.length_cons, ih]
    next other =>
      rw [List.count_cons_of_ne other, ← ih]
      split
      next split => rw [split]; rfl
      next split => exact absurd split (splitAtEvery_ne_nil separator rest)

/-- Joined pieces are the first, and every other one behind a separator. -/
theorem intercalate_cons_flatMap (separator : Char) (piece : List Char)
    (others : List (List Char)) :
    [separator].intercalate (piece :: others) = piece ++ others.flatMap (separator :: ·) := by
  induction others generalizing piece with
  | nil => simp
  | cons next rest ih =>
    rw [List.intercalate_cons_cons, ih, List.flatMap_cons, List.append_assoc,
      List.singleton_append, List.cons_append]

/-- The pieces with a separator behind each. -/
def terminated (separator : Char) (pieces : List (List Char)) : List Char :=
  pieces.flatMap (· ++ [separator])

/-- Pieces with separators behind them are split off, each cut at its own separators. -/
theorem splitAtEvery_terminated_append (separator : Char) (pieces : List (List Char))
    (rest : List Char) :
    splitAtEvery separator (terminated separator pieces ++ rest) =
      pieces.flatMap (splitAtEvery separator) ++ splitAtEvery separator rest := by
  induction pieces with
  | nil => rfl
  | cons piece others ih =>
    simp only [terminated, List.flatMap_cons, List.append_assoc, List.cons_append,
      List.nil_append]
    rw [splitAtEvery_append_separator]
    exact congrArg (splitAtEvery separator piece ++ ·) ih

/-- Pieces without separators inside are cut into themselves. -/
theorem flatMap_splitAtEvery_of_free {pieces : List (List Char)}
    (free : ∀ piece ∈ pieces, separator ∉ piece) :
    pieces.flatMap (splitAtEvery separator) = pieces := by
  induction pieces with
  | nil => rfl
  | cons piece others ih =>
    obtain ⟨first, free⟩ := List.forall_mem_cons.mp free
    rw [List.flatMap_cons, splitAtEvery_of_free first, ih free, List.singleton_append]

/-- Pieces without separators inside are split off whole. -/
theorem splitAtEvery_terminated {pieces : List (List Char)}
    (free : ∀ piece ∈ pieces, separator ∉ piece) (rest : List Char) :
    splitAtEvery separator (terminated separator pieces ++ rest) =
      pieces ++ splitAtEvery separator rest := by
  rw [splitAtEvery_terminated_append, flatMap_splitAtEvery_of_free free]

/-- Joined pieces, cut before one of them. -/
theorem intercalate_append_terminated (separator : Char) {front back : List (List Char)}
    (nonempty : back ≠ []) :
    [separator].intercalate (front ++ back) =
      terminated separator front ++ [separator].intercalate back := by
  induction front with
  | nil => rfl
  | cons piece others ih =>
    obtain ⟨next, rest, shape⟩ := List.exists_cons_of_ne_nil
      (show others ++ back ≠ [] from List.append_ne_nil_of_right_ne_nil _ nonempty)
    rw [shape] at ih
    rw [List.cons_append, shape, List.intercalate_cons_cons, ih]
    simp [terminated]

/-- A text is the pieces in front, with a separator behind each, and the others joined. -/
theorem eq_of_splitAtEvery {text : List Char} {front back : List (List Char)}
    (nonempty : back ≠ []) (split : splitAtEvery separator text = front ++ back) :
    text = terminated separator front ++ [separator].intercalate back := by
  rw [← intercalate_append_terminated separator nonempty, ← split, intercalate_splitAtEvery]

/-- The last piece of a text and the first of what follows become one. -/
theorem splitAtEvery_append_of_split {text last first : List Char}
    {init others : List (List Char)} (split : splitAtEvery separator text = init ++ [last])
    (split' : splitAtEvery separator rest = first :: others) :
    splitAtEvery separator (text ++ rest) = init ++ (last ++ first) :: others := by
  have free : ∀ piece ∈ init ++ [last], separator ∉ piece := fun piece mem =>
    not_mem_of_mem_splitAtEvery (split ▸ mem)
  rw [eq_of_splitAtEvery (List.cons_ne_nil _ _) split, List.intercalate_singleton,
    List.append_assoc,
    splitAtEvery_terminated fun piece mem => free piece (List.mem_append_left _ mem),
    splitAtEvery_append (free last (List.mem_append_right _ List.mem_cons_self)) split']

/-- Pieces with a separator behind each are the pieces joined, and one more separator. -/
theorem terminated_eq (separator : Char) {pieces : List (List Char)} (nonempty : pieces ≠ []) :
    terminated separator pieces = [separator].intercalate pieces ++ [separator] := by
  induction pieces with
  | nil => exact absurd rfl nonempty
  | cons piece others ih =>
    cases others with
    | nil => simp [terminated]
    | cons next rest =>
      rw [List.intercalate_cons_cons, List.append_assoc, ← ih (List.cons_ne_nil _ _)]
      simp [terminated]

/-- The pieces of a text with a separator behind each are the text with one behind it. -/
theorem terminated_splitAtEvery (separator : Char) (text : List Char) :
    terminated separator (splitAtEvery separator text) = text ++ [separator] := by
  rw [terminated_eq separator (splitAtEvery_ne_nil separator text), intercalate_splitAtEvery]

end NovelScript
