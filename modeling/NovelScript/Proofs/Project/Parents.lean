import NovelScript.Proofs.Project.Paths

/-!
# Directories of paths — the path without its last part

Of the pieces of a path only those that count lead anywhere (`Path.parts`). The path that is left
when the last one is dropped is written as a front of the text, and ends where its last part does:
nothing that does not count stands behind it (`Path.Closed`).

## What is proved

`Path.exists_parent`: a path with a part has a directory, which begins alike and has the other
parts. `Path.parts_join`: the parts of a path behind another.
-/

set_option autoImplicit false

namespace NovelScript

namespace Path

/-- The pieces of a path that count. -/
def parts (p : Path) : List String := p.pieces.filter counts

/-- A path that ends where its last part does, or has no parts and is just a beginning. -/
def Closed (p : Path) : Prop :=
  p.pieces = [""] ∨ ∃ init last, p.pieces = init ++ [last] ∧ counts last

instance (p : Path) : Decidable p.Closed :=
  decidable_of_iff (p.pieces = [""] ∨ p.pieces.getLast?.any counts) <| or_congr_right <| by
    rcases List.eq_nil_or_concat p.pieces with none | ⟨init, last, ends⟩
    · simp [none]
    · rw [ends, List.concat_eq_append, List.getLast?_concat, Option.any_some]
      refine ⟨fun counted => ⟨init, last, rfl, counted⟩, fun ⟨before, final, same, counted⟩ => ?_⟩
      obtain rfl := List.singleton_inj.mp (List.append_inj' same rfl).2
      exact counted

/-- A path that ends where its last part does has that part at its end. -/
theorem Closed.exists_last {p : Path} (closed : p.Closed) (filled : p.parts ≠ []) :
    ∃ init last, p.pieces = init ++ [last] ∧ counts last :=
  closed.resolve_left fun blank => filled (by rw [parts, blank]; rfl)

/-- Pieces that end where the last one that counts does. -/
def ClosedPieces (pieces : List String) : Prop :=
  pieces = [] ∨ ∃ init last, pieces = init ++ [last] ∧ counts last

theorem components_eq (p : Path) :
    p.components = p.start.component?.toList ++ p.parts.map ofPiece := rfl

/-- Trimming takes off pieces that do not count, and as many as it can. -/
theorem trimEnd_append (pieces : List String) :
    ClosedPieces (trimEnd pieces) ∧
      ∃ noise, pieces = trimEnd pieces ++ noise ∧ ∀ piece ∈ noise, ¬ counts piece := by
  by_cases named : HasName pieces
  · obtain ⟨init, last, noise, rfl, counted, silent⟩ := named.exists_last
    rw [trimEnd_eq counted silent]
    exact ⟨.inr ⟨init, last, rfl, counted⟩, noise, by simp, silent⟩
  · have silent : ∀ piece ∈ pieces, ¬ counts piece := fun piece mem counted =>
      named ⟨piece, mem, counted⟩
    have passed : ∀ piece ∈ pieces.reverse, (!counts piece) = true := fun piece mem => by
      simpa using silent piece (List.mem_reverse.mp mem)
    have none : trimEnd pieces = [] := by
      rw [trimEnd, ← List.append_nil pieces.reverse, List.dropWhile_append_of_pos passed]
      rfl
    rw [none]
    exact ⟨.inl rfl, pieces, rfl, silent⟩

theorem filter_counts_trimEnd (pieces : List String) :
    (trimEnd pieces).filter counts = pieces.filter counts := by
  obtain ⟨-, noise, whole, silent⟩ := trimEnd_append pieces
  have none : noise.filter counts = [] := List.filter_eq_nil_iff.mpr silent
  have cut := congrArg (List.filter counts) whole
  rw [List.filter_append, none, List.append_nil] at cut
  exact cut.symm

/-! ## Fronts of a path -/

/-- Pieces without slashes, joined, are split again. -/
theorem splitAtEvery_intercalate {pieces : List (List Char)} (nonempty : pieces ≠ [])
    (free : ∀ piece ∈ pieces, '/' ∉ piece) :
    splitAtEvery '/' (['/'].intercalate pieces) = pieces := by
  rcases List.eq_nil_or_concat pieces with rfl | ⟨front, last, rfl⟩
  · exact absurd rfl nonempty
  · rw [List.concat_eq_append] at free ⊢
    obtain ⟨before, own⟩ := List.forall_mem_append.mp free
    rw [intercalate_append_terminated '/' (List.cons_ne_nil _ _), List.intercalate_singleton,
      splitAtEvery_terminated before, splitAtEvery_of_free (own last List.mem_cons_self)]

/-- The text of a beginning and pieces. -/
theorem toList_ofPieces (start : Start) (pieces : List String) :
    (ofPieces start pieces).text.toList =
      start.text.toList ++ ['/'].intercalate (pieces.map String.toList) := by
  rw [ofPieces, String.toList_append, String.toList_intercalate]
  rfl

/-- The text of a path behind its beginning, and the pieces that it splits into. -/
theorem exists_behind (p : Path) :
    ∃ behind, splitStart p.text.toList = (p.start, behind) ∧
      p.text.toList = p.start.text.toList ++ behind ∧
      p.pieces.map String.toList = splitAtEvery '/' behind := by
  refine ⟨(splitStart p.text.toList).2, rfl, (startText_append _).symm, ?_⟩
  rw [pieces, List.map_map]
  simp

/-- Joined pieces are a front of joined pieces, and what follows begins with a slash. -/
theorem exists_intercalate_append {front : List (List Char)} (nonempty : front ≠ [])
    (more : List (List Char)) :
    ∃ rest, ['/'].intercalate (front ++ more) = ['/'].intercalate front ++ rest ∧
      (more = [] ∧ rest = [] ∨ ∃ others, rest = '/' :: others) := by
  cases more with
  | nil => exact ⟨[], by simp, .inl ⟨rfl, rfl⟩⟩
  | cons next others =>
    refine ⟨'/' :: ['/'].intercalate (next :: others), ?_, .inr ⟨_, rfl⟩⟩
    rw [intercalate_append_terminated '/' (List.cons_ne_nil _ _), terminated_eq '/' nonempty,
      List.append_assoc, List.singleton_append]

/-- The first pieces of a path, behind its beginning, are a path again that begins alike and has
these pieces, if they end where the last one that counts does. Its text is a front of the path's. -/
theorem ofPieces_front {p : Path} {front more : List String} (whole : p.pieces = front ++ more)
    (closed : ClosedPieces front) :
    (ofPieces p.start front).start = p.start ∧
      (ofPieces p.start front).parts = front.filter counts ∧ (ofPieces p.start front).Closed ∧
      (ofPieces p.start front).text.toList <+: p.text.toList := by
  obtain ⟨behind, begins, text, split⟩ := p.exists_behind
  rcases closed with rfl | ⟨init, last, rfl, counted⟩
  · cases h : p.start <;> rw [h] at text <;> rw [text] <;>
      exact ⟨rfl, rfl, .inl rfl, List.prefix_append _ behind⟩
  · rw [whole, List.map_append] at split
    generalize shape : (init ++ [last]).map String.toList = front at split
    have filled : front ≠ [] := by
      rw [← shape]
      simp
    have free : ∀ piece ∈ front, '/' ∉ piece := fun piece mem =>
      not_mem_of_mem_splitAtEvery (split ▸ List.mem_append_left _ mem)
    have joined := intercalate_splitAtEvery '/' behind
    rw [← split] at joined
    obtain ⟨rest, cut, after⟩ := exists_intercalate_append filled (more.map String.toList)
    rw [cut] at joined
    have own := toList_ofPieces p.start (init ++ [last])
    rw [shape] at own
    have all : p.text.toList = (ofPieces p.start (init ++ [last])).text.toList ++ rest := by
      rw [own, List.append_assoc, joined, ← text]
    have split' := splitAtEvery_intercalate filled free
    have nonblank : ['/'].intercalate front ≠ [] := by
      intro blank
      rw [blank, ← shape, List.map_append] at split'
      have single : init.map String.toList ++ [last.toList] = [] ++ [[]] := split'.symm
      obtain ⟨-, none⟩ := List.append_inj' single rfl
      obtain rfl : last = "" := String.toList_eq_nil_iff.mp (List.singleton_inj.mp none)
      exact absurd counted (by decide)
    -- What follows the front does not change how it begins, so it begins as the whole path does.
    have began := @splitStart_append (ofPieces p.start (init ++ [last])).text.toList rest
      (fun empty => ?_) (fun dot => ?_)
    · rw [← all, begins] at began
      obtain ⟨same, left⟩ := Prod.mk.inj began
      have kept : (splitStart (ofPieces p.start (init ++ [last])).text.toList).2 =
          ['/'].intercalate front := List.append_cancel_right (left.symm.trans joined.symm)
      have pieces : (ofPieces p.start (init ++ [last])).pieces = init ++ [last] := by
        rw [Path.pieces, kept, split', ← shape, List.map_map]
        simp
      exact ⟨same.symm, by rw [parts, pieces], .inr ⟨init, last, pieces, counted⟩,
        all ▸ List.prefix_append _ rest⟩
    · rw [own, List.append_eq_nil_iff] at empty
      exact absurd empty.2 nonblank
    · rcases after with ⟨-, rfl⟩ | slash
      · rw [List.append_nil, dot] at all
        rw [all] at begins
        obtain ⟨-, rfl⟩ := Prod.mk.inj begins
        exact absurd (List.append_eq_nil_iff.mp joined).1 nonblank
      · exact slash

/-! ## The directory of a path -/

/-- A path with a last part has a directory, which has the other parts and is written as a front of
the path. -/
theorem exists_parent {p : Path} {init : List String} {last : String}
    (cut : p.parts = init ++ [last]) :
    ∃ directory, p.parent? = some directory ∧ directory.start = p.start ∧
      directory.parts = init ∧ directory.Closed ∧ directory.text.toList <+: p.text.toList := by
  have named : HasName p.pieces := by
    have mem : last ∈ p.parts := cut ▸ List.mem_append_right init List.mem_cons_self
    exact ⟨last, List.mem_filter.mp mem⟩
  obtain ⟨before, final, noise, whole, counted, silent⟩ := named.exists_last
  have trimmed : trimEnd p.pieces = before ++ [final] := whole ▸ trimEnd_eq counted silent
  obtain ⟨closed, dropped, front, -⟩ := trimEnd_append before
  have others : before.filter counts = init := by
    have same := filter_counts_trimEnd p.pieces
    rw [trimmed, List.filter_append, List.filter_cons_of_pos counted, List.filter_nil] at same
    exact (List.append_inj' (same.trans cut) rfl).1
  have pieces : p.pieces = trimEnd before ++ (dropped ++ final :: noise) := by
    rw [← List.append_assoc, ← front, whole]
  obtain ⟨begins, parts, ends, text⟩ := ofPieces_front pieces closed
  refine ⟨_, ?_, begins, ?_, ends, text⟩
  · rw [parent?, trimmed]
    split
    next none _ => exact absurd none (by simp)
    next none _ => exact absurd none (by simp)
    next none _ => exact absurd none (by simp)
    next => rw [List.dropLast_concat]
  · rw [parts, filter_counts_trimEnd, others]

/-- A front of a path that lacks its last part is shorter. -/
theorem length_lt_of_front {p front : Path} {last : String} (cut : p.parts = front.parts ++ [last])
    (text : front.text.toList <+: p.text.toList) : front.text.length < p.text.length := by
  rw [← String.length_toList, ← String.length_toList]
  refine Nat.lt_of_le_of_ne text.length_le fun same => ?_
  have whole : front = p := Path.mk.injEq .. ▸ String.toList_inj.mp (text.eq_of_length same)
  rw [whole] at cut
  exact absurd (congrArg List.length cut) (by simp)

/-- A path without a text has no parts. -/
theorem parts_of_empty {p : Path} (empty : p.text = "") : p.parts = [] := by
  obtain rfl : p = ⟨""⟩ := Path.mk.injEq .. ▸ empty
  rfl

/-- A path without a directory has no parts, and neither has the directory of a path without parts.
-/
theorem parts_of_parent? {p : Path} :
    (p.parent? = none → p.parts = []) ∧
      ∀ directory, p.parent? = some directory → p.parts = [] → directory.parts = [] := by
  constructor
  · intro none
    rcases List.eq_nil_or_concat p.parts with empty | ⟨init, last, cut⟩
    · exact empty
    · rw [List.concat_eq_append] at cut
      obtain ⟨directory, found, -⟩ := exists_parent cut
      rw [none] at found
      cases found
  · intro directory found empty
    have trimmed : trimEnd p.pieces = [] := by
      rcases (trimEnd_append p.pieces).1 with none | ⟨init, last, ends, counted⟩
      · exact none
      · have same := filter_counts_trimEnd p.pieces
        rw [ends, List.filter_append, List.filter_cons_of_pos counted] at same
        exact absurd (same.trans empty) (by simp)
    rw [parent?, trimmed] at found
    cases begins : p.start with
    | root | plain => rw [begins] at found; cases found
    | current => rw [begins] at found; cases found; rfl

/-! ## Paths behind others -/

/-- A path that begins plainly puts its parts behind those of the path before it, and where it ends
in its last part, so does the whole. -/
theorem parts_join {tail : Path} (base : Path) (plain : tail.start = .plain) :
    (base.join tail).start = base.start ∧ (base.join tail).parts = base.parts ++ tail.parts ∧
      ∀ init last, tail.pieces = init ++ [last] → counts last → (base.join tail).Closed := by
  obtain ⟨front, stands⟩ := exists_front base
  have pieces := stands.pieces_join plain
  refine ⟨?_, ?_, fun init last ends counted => ?_⟩
  · rw [start, stands.start_join plain]
  · rw [parts, pieces, List.filter_append, stands.counted]
    rfl
  · rw [Closed, pieces, ends, ← List.append_assoc]
    exact .inr ⟨_, last, rfl, counted⟩

/-- What is put behind a path leaves its text in front. -/
theorem text_join_of_plain {tail : Path} (base : Path) (plain : tail.start = .plain) :
    base.text.toList <+: (base.join tail).text.toList := by
  unfold join
  rw [if_neg (by simp [isAbsolute_of_plain plain])]
  split <;> simp

end Path

end NovelScript
