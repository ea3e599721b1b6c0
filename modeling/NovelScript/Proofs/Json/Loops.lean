import NovelScript.Proofs.Json.Layout

/-!
# Loops — lists and objects, part by part

The loops of the reader know nothing of what their parts are read as. So what they make of spread
parts follows from what the reader of a part makes of each: a list is read as what its items are
read as (`Takes`), and an object takes its members from one state to the next (`TakesMembers`). A
part may count on the text behind it being closed, since a comma, a blank or a closing mark is what
comes.

## What is proved

`readList_spread`: items that are taken make a list that is read. `readMembers_spread`: members that
are taken make an object that is read.
-/

set_option autoImplicit false

namespace NovelScript.Json

variable {gap last rest text : List Char} {c : Char}

/-! ## Blanks -/

/-- Blanks in front of a token are skipped. -/
theorem skipSpace_gap (blank : Blank gap) (token : isSpace c = false) :
    skipSpace (gap ++ c :: text) = c :: text := by
  rw [skipSpace, List.dropWhile_append_of_pos blank]
  exact List.dropWhile_cons_of_neg (by simp [token])

theorem skipSpace_token (token : isSpace c = false) : skipSpace (c :: text) = c :: text :=
  skipSpace_gap Blank.nil token

theorem closed_nil : Number.Closed [] := by
  intro first mem
  cases mem

theorem closed_cons (stops : Number.goesOn c = false) : Number.Closed (c :: text) := by
  intro first mem
  obtain rfl := Option.some.inj mem
  exact stops

/-- No blank goes on with a number. -/
theorem closed_gap (blank : Blank gap) (closed : Number.Closed rest) :
    Number.Closed (gap ++ rest) := by
  cases gap with
  | nil => exact closed
  | cons c gap =>
    have space := blank c List.mem_cons_self
    simp only [isSpace, Bool.or_eq_true, beq_iff_eq] at space
    refine closed_cons ?_
    rcases space with ((rfl | rfl) | rfl) | rfl <;> rfl

/-- Whether it is more parts or the end that follows a part, it does not go on with a number. -/
theorem closed_following (gap : List Char) (parts : List (List Char))
    (closed : Number.Closed rest) : Number.Closed (following gap parts ++ rest) := by
  cases parts with
  | nil => exact closed
  | cons part parts => exact closed_cons rfl

theorem length_following (gap : List Char) (parts : List (List Char)) :
    parts.length ≤ (following gap parts).length := by
  induction parts with
  | nil => exact Nat.zero_le _
  | cons part parts ih =>
    simp only [following, List.flatMap_cons, List.length_append, List.length_cons] at ih ⊢
    omega

/-! ## Lists -/

/-- A text that can be the first of an item. -/
def BeginsItem (text : List Char) : Prop :=
  ∃ c behind, text = c :: behind ∧ isSpace c = false ∧ c ≠ ']'

theorem nextItem_done (blank : Blank last) (first : Bool) :
    nextItem false first (last ++ ']' :: rest) = .ok (.done rest) := by
  rw [nextItem, skipSpace_gap blank rfl]
  rfl

theorem nextItem_first (blank : Blank gap) (begins : BeginsItem text) :
    nextItem false true (gap ++ (text ++ rest)) = .ok (.item (text ++ rest)) := by
  obtain ⟨c, behind, rfl, token, notEnd⟩ := begins
  rw [List.cons_append, nextItem, skipSpace_gap blank token]
  split
  next empty => cases empty
  next done => exact absurd (List.cons.inj done).1 notEnd
  next same => cases same; rfl

theorem nextItem_next (blank : Blank gap) (begins : BeginsItem text) :
    nextItem false false (',' :: (gap ++ (text ++ rest))) = .ok (.item (text ++ rest)) := by
  obtain ⟨c, behind, rfl, token, notEnd⟩ := begins
  rw [List.cons_append, nextItem, skipSpace_token rfl]
  split
  next empty => cases empty
  next done => exact absurd (List.cons.inj done).1 (by decide)
  next comma =>
    cases comma
    rw [if_neg Bool.false_ne_true, if_pos rfl, skipSpace_gap blank token]
    split
    next empty => cases empty
    next done => exact absurd (List.cons.inj done).1 notEnd
    next => rfl

/-- A text that can stand as an item and that a reader takes for something, whatever closed text
comes behind it. -/
structure Takes {α : Type} (item : List Char → ReadResult α) (text : List Char) (x : α) : Prop where
  begins : BeginsItem text
  read : ∀ rest, Number.Closed rest → item (text ++ rest) = .ok (x, rest)

variable {α : Type} {item : List Char → ReadResult α} {parts : List (List Char)} {xs : List α}

/-- Items behind the first are read up to the end of the list. -/
theorem readItems_following (blank : Blank gap) (blankLast : Blank last)
    (taken : List.Forall₂ (Takes item) parts xs) {rounds : Nat} (enough : parts.length < rounds) :
    readItems false item rounds false (following gap parts ++ (last ++ ']' :: rest)) =
      .ok (xs, rest) := by
  have closed : Number.Closed (last ++ ']' :: rest) := closed_gap blankLast (closed_cons rfl)
  obtain ⟨rounds, rfl⟩ := Nat.exists_eq_add_one_of_ne_zero (Nat.ne_zero_of_lt enough)
  induction taken generalizing rounds with
  | nil =>
    rw [following, List.flatMap_nil, List.nil_append, readItems, nextItem_done blankLast]
  | @cons part x parts xs first _ ih =>
    have fewer : parts.length < rounds := Nat.lt_of_succ_lt_succ enough
    have shape : following gap (part :: parts) ++ (last ++ ']' :: rest) =
        ',' :: (gap ++ (part ++ (following gap parts ++ (last ++ ']' :: rest)))) := by
      simp [following]
    obtain ⟨rounds, rfl⟩ := Nat.exists_eq_add_one_of_ne_zero (Nat.ne_zero_of_lt fewer)
    rw [shape, readItems, nextItem_next blank first.begins]
    dsimp only
    rw [first.read _ (closed_following gap parts closed)]
    dsimp only
    rw [ih rounds fewer]
    rfl

/-- A list of items that are taken is read as what they are taken for. -/
theorem readList_spread (blank : Blank gap) (blankLast : Blank last)
    (taken : List.Forall₂ (Takes item) parts xs) :
    readList false item (spread gap last parts ++ ']' :: rest) = .ok (xs, rest) := by
  cases taken with
  | nil => rfl
  | @cons part x parts xs first others =>
    have closed : Number.Closed (last ++ ']' :: rest) := closed_gap blankLast (closed_cons rfl)
    have shape : spread gap last (part :: parts) ++ ']' :: rest =
        gap ++ (part ++ (following gap parts ++ (last ++ ']' :: rest))) := by
      simp [spread]
    have enough : parts.length <
        (gap ++ (part ++ (following gap parts ++ (last ++ ']' :: rest)))).length := by
      have := length_following gap parts
      simp only [List.length_append, List.length_cons]
      omega
    rw [shape, readList, readItems, nextItem_first blank first.begins]
    dsimp only
    rw [first.read _ (closed_following gap parts closed)]
    dsimp only
    rw [readItems_following blank blankLast others enough]
    rfl

/-! ## Objects -/

theorem nextKey_done (blank : Blank last) (first : Bool) :
    nextKey false first (last ++ '\x7d' :: rest) = .ok (.done rest) := by
  rw [nextKey, skipSpace_gap blank rfl]
  rfl

theorem nextKey_first (blank : Blank gap) :
    nextKey false true (gap ++ '"' :: rest) = .ok (.key rest) := by
  rw [nextKey, skipSpace_gap blank rfl]
  rfl

theorem nextKey_next (blank : Blank gap) :
    nextKey false false (',' :: (gap ++ '"' :: rest)) = .ok (.key rest) := by
  rw [nextKey, skipSpace_token rfl]
  split
  next empty => cases empty
  next done => exact absurd (List.cons.inj done).1 (by decide)
  next comma =>
    cases comma
    rw [if_neg Bool.false_ne_true, if_pos rfl, skipSpace_gap blank rfl]
    rfl

theorem readColon_colon (text : List Char) : readColon (':' :: text) = .ok ((), text) := rfl

/-- Members, as keys and the texts of values, that are taken one after the other from one state to
another, whatever closed text comes behind each. -/
inductive TakesMembers {σ : Type} (member : σ → String → List Char → ReadResult σ)
    (between : List Char) : σ → List (String × List Char) → σ → Prop
  | done {state : σ} : TakesMembers member between state [] state
  | step {state next final : σ} {key : String} {text : List Char}
      {members : List (String × List Char)} :
      (∀ rest, Number.Closed rest →
        member state key (':' :: (between ++ (text ++ rest))) = .ok (next, rest)) →
      TakesMembers member between next members final →
      TakesMembers member between state ((key, text) :: members) final

variable {σ : Type} {member : σ → String → List Char → ReadResult σ} {between : List Char}
  {state final : σ} {members : List (String × List Char)}

/-- Members behind the first are taken up to the end of the object. -/
theorem readMembersFrom_following (blank : Blank gap) (blankLast : Blank last)
    (taken : TakesMembers member between state members final) {rounds : Nat}
    (enough : members.length < rounds) :
    readMembersFrom false readString member rounds false state
        (following gap (memberTexts between members) ++ (last ++ '\x7d' :: rest)) =
      .ok (final, rest) := by
  have closed : Number.Closed (last ++ '\x7d' :: rest) := closed_gap blankLast (closed_cons rfl)
  obtain ⟨rounds, rfl⟩ := Nat.exists_eq_add_one_of_ne_zero (Nat.ne_zero_of_lt enough)
  induction taken generalizing rounds with
  | done =>
    rw [memberTexts, List.map_nil, following, List.flatMap_nil, List.nil_append, readMembersFrom,
      nextKey_done blankLast]
  | @step state next final key text members first _ ih =>
    have fewer : members.length < rounds := Nat.lt_of_succ_lt_succ enough
    obtain ⟨rounds, rfl⟩ := Nat.exists_eq_add_one_of_ne_zero (Nat.ne_zero_of_lt fewer)
    have shape : following gap (memberTexts between ((key, text) :: members)) ++
        (last ++ '\x7d' :: rest) =
        ',' :: (gap ++ '"' :: (key.toList.flatMap escape ++ '"' :: (':' :: (between ++ (text ++
          (following gap (memberTexts between members) ++ (last ++ '\x7d' :: rest))))))) := by
      simp [following, memberTexts, memberText]
    rw [shape, readMembersFrom, nextKey_next blank]
    dsimp only
    rw [readString_quote]
    dsimp only
    rw [first _ (closed_following gap _ closed)]
    exact ih rounds fewer

/-- An object of members that are taken is read as the state that they lead to. -/
theorem readMembers_spread (blank : Blank gap) (blankLast : Blank last)
    (taken : TakesMembers member between state members final) :
    readMembers false readString member state
        (spread gap last (memberTexts between members) ++ '\x7d' :: rest) =
      .ok (final, rest) := by
  cases taken with
  | done => rfl
  | @step _ next _ key text members first others =>
    have closed : Number.Closed (last ++ '\x7d' :: rest) := closed_gap blankLast (closed_cons rfl)
    have shape : spread gap last (memberTexts between ((key, text) :: members)) ++ '\x7d' :: rest =
        gap ++ '"' :: (key.toList.flatMap escape ++ '"' :: (':' :: (between ++ (text ++
          (following gap (memberTexts between members) ++ (last ++ '\x7d' :: rest)))))) := by
      simp [spread, memberTexts, memberText]
    have enough : members.length < (spread gap last
        (memberTexts between ((key, text) :: members)) ++ '\x7d' :: rest).length := by
      have := length_following gap (memberTexts between members)
      rw [memberTexts, List.length_map] at this
      simp only [spread, memberTexts, List.map_cons, List.length_append, List.length_cons]
      omega
    rw [readMembers, readMembersFrom, shape, nextKey_first blank]
    dsimp only
    rw [readString_quote]
    dsimp only
    rw [first _ (closed_following gap _ closed), ← shape]
    exact readMembersFrom_following blank blankLast others enough

end NovelScript.Json
