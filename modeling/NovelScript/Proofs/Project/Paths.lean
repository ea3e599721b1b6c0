import NovelScript.Proofs.Text.Split

/-!
# Paths below others — joining keeps components

A path that begins with a name can be put behind any other, and the components of both then stand
one after the other. The same holds if its extension is replaced first, and it does not matter
whether that is done before or after joining: the replacement works on the end of the text, and the
end of the text is that of the path behind.

Texts are followed as pieces. A text in front, if it is not empty, ends in a slash, so it is a list
of terminated pieces.

## What is proved

`Path.components_join`, `Path.components_withExtension_join`: the components of a path behind
another.
-/

set_option autoImplicit false

namespace NovelScript

namespace Path

/-! ## How a text begins -/

/-- A text that begins with neither a slash nor a single dot begins plainly. -/
theorem splitStart_plain {text : List Char} (root : ∀ rest, text ≠ '/' :: rest)
    (dot : text ≠ ['.']) (current : ∀ rest, text ≠ '.' :: '/' :: rest) :
    splitStart text = (.plain, text) := by
  unfold splitStart
  split
  next rest => exact absurd rfl (root rest)
  next => exact absurd rfl dot
  next rest => exact absurd rfl (current rest)
  next => rfl

/-- A text is its beginning and what is behind that. -/
theorem startText_append (text : List Char) :
    (splitStart text).1.text.toList ++ (splitStart text).2 = text := by
  unfold splitStart
  split <;> simp [Start.text]

/-- What stands behind a text does not change how it begins, if there is a text at all, and if a
single dot does not go on to a name. -/
theorem splitStart_append {text behind : List Char}
    (empty : text = [] → splitStart behind = (.plain, behind))
    (dot : text = ['.'] → ∃ rest, behind = '/' :: rest) :
    splitStart (text ++ behind) = ((splitStart text).1, (splitStart text).2 ++ behind) := by
  fun_cases splitStart text with
  | case1 rest => rfl
  | case2 =>
    obtain ⟨rest, rfl⟩ := dot rfl
    rfl
  | case3 rest => rfl
  | case4 text root single current =>
    cases text with
    | nil => exact empty rfl
    | cons c rest =>
      refine splitStart_plain (fun rest' same => ?_) (fun same => ?_) fun rest' same => ?_
      · obtain ⟨rfl, -⟩ := List.cons.inj same
        exact root rest rfl
      · obtain ⟨rfl, none⟩ := List.cons.inj same
        exact single (by rw [(List.append_eq_nil_iff.mp none).1])
      · obtain ⟨rfl, next⟩ := List.cons.inj same
        cases rest with
        | nil => exact single rfl
        | cons c rest =>
          obtain ⟨rfl, -⟩ := List.cons.inj next
          exact current rest rfl

/-- A text begins plainly if its first piece counts. -/
theorem splitStart_of_counts {text first : List Char} {others : List (List Char)}
    (split : splitAtEvery '/' text = first :: others) (counts : counts (String.ofList first)) :
    splitStart text = (.plain, text) := by
  refine splitStart_plain (fun rest same => ?_) (fun same => ?_) fun rest same => ?_
  · subst same
    cases split
    simp [Path.counts] at counts
  · subst same
    cases split
    exact absurd counts (by decide)
  · subst same
    rw [splitAtEvery, if_neg (by decide), splitAtEvery, if_pos rfl] at split
    cases split
    exact absurd counts (by decide)

/-- The first piece of a text that begins plainly counts, if there is a text. -/
theorem counts_of_splitStart {text first : List Char} {others : List (List Char)}
    (nonempty : text ≠ []) (plain : (splitStart text).1 = .plain)
    (split : splitAtEvery '/' text = first :: others) : counts (String.ofList first) := by
  have whole := intercalate_splitAtEvery '/' text
  rw [split] at whole
  rw [counts, Bool.and_eq_true, bne_iff_ne, bne_iff_ne]
  constructor
  · intro empty
    obtain rfl : first = [] := by simpa using congrArg String.toList empty
    cases others with
    | nil => exact nonempty whole.symm
    | cons next rest =>
      rw [List.intercalate_cons_cons] at whole
      subst whole
      cases plain
  · intro dot
    obtain rfl : first = ['.'] := by simpa using congrArg String.toList dot
    cases others with
    | nil =>
      rw [List.intercalate_singleton] at whole
      subst whole
      cases plain
    | cons next rest =>
      rw [List.intercalate_cons_cons] at whole
      subst whole
      cases plain

/-- A path that begins plainly is relative. -/
theorem isAbsolute_of_plain {p : Path} (plain : p.start = .plain) : p.isAbsolute = false := by
  rw [isAbsolute, plain]
  rfl

/-! ## What stands in front of a path behind another -/

/-- Pieces in front of a path that is put behind `base`: the text of `base`, with a slash behind it
where it needs one, is its beginning and these pieces, and they count as those of `base` do. -/
structure Front (base : Path) (front : List (List Char)) : Prop where
  free : ∀ piece ∈ front, '/' ∉ piece
  joined : ∀ tail : Path, tail.start = .plain →
    (base.join tail).text.toList =
      base.start.text.toList ++ terminated '/' front ++ tail.text.toList
  split : ∀ tail : List Char, splitStart tail = (.plain, tail) →
    splitStart (base.start.text.toList ++ terminated '/' front ++ tail) =
      (base.start, terminated '/' front ++ tail)
  counted : (front.map String.ofList).filter counts = base.pieces.filter counts

/-- The text behind the beginning of a path can be cut into pieces with a slash behind each, once it
has a slash behind it where it needs one. -/
theorem exists_terminated (base : Path) :
    ∃ front : List (List Char), (∀ piece ∈ front, '/' ∉ piece) ∧
      terminated '/' front = (splitStart base.text.toList).2 ++
        (if base.text = "" ∨ base.text.toList.getLast? = some '/' then [] else ['/']) ∧
      (front.map String.ofList).filter counts = base.pieces.filter counts := by
  have free : ∀ text : List Char, ∀ piece ∈ splitAtEvery '/' text, '/' ∉ piece :=
    fun _ _ mem => not_mem_of_mem_splitAtEvery mem
  have whole := startText_append base.text.toList
  unfold pieces
  generalize (splitStart base.text.toList).2 = behind at whole ⊢
  split
  next closed =>
    rcases List.eq_nil_or_concat behind with rfl | ⟨text, last, rfl⟩
    · exact ⟨[], nofun, rfl, rfl⟩
    · have slash : last = '/' := by
        rcases closed with empty | closed
        · rw [empty] at whole
          simp at whole
        · rw [← whole] at closed
          simpa using closed
      subst slash
      refine ⟨splitAtEvery '/' text, free text, ?_, ?_⟩
      · rw [terminated_splitAtEvery, List.append_nil, List.concat_eq_append]
      · have split := splitAtEvery_terminated (free text) []
        rw [terminated_splitAtEvery, List.append_nil] at split
        rw [List.concat_eq_append, split]
        simp [splitAtEvery, counts]
  next => exact ⟨splitAtEvery '/' behind, free behind, terminated_splitAtEvery '/' behind, rfl⟩

/-- Every path can stand in front. -/
theorem exists_front (base : Path) : ∃ front, base.Front front := by
  obtain ⟨front, free, shape, counted⟩ := exists_terminated base
  have whole : base.start.text.toList ++ terminated '/' front = base.text.toList ++
      (if base.text = "" ∨ base.text.toList.getLast? = some '/' then [] else ['/']) := by
    rw [shape, ← List.append_assoc, start, startText_append]
  refine ⟨front, free, fun tail plain => ?_, fun tail plain => ?_, counted⟩
  · rw [whole, join, if_neg (by simp [isAbsolute_of_plain plain])]
    split <;> simp
  · rw [whole, shape, start, List.append_assoc, List.append_assoc]
    refine splitStart_append (fun empty => ?_) fun dot => ?_
    · have empty : base.text = "" := by simpa using empty
      rw [if_pos (.inl empty)]
      exact plain
    · have dot : base.text = "." := by simpa using congrArg String.ofList dot
      rw [dot, if_neg (by decide)]
      exact ⟨tail, rfl⟩

/-! ## Components -/

variable {base tail : Path} {front : List (List Char)}

/-- A path behind another begins as that one does. -/
theorem Front.start_join (stands : base.Front front) (plain : tail.start = .plain) :
    splitStart (base.join tail).text.toList =
      (base.start, terminated '/' front ++ tail.text.toList) := by
  rw [stands.joined tail plain]
  refine stands.split _ (Prod.ext plain ?_)
  have whole := startText_append tail.text.toList
  rw [show (splitStart tail.text.toList).1 = .plain from plain] at whole
  exact whole

/-- The pieces of a path that begins plainly are those of its whole text. -/
theorem pieces_of_plain (plain : tail.start = .plain) :
    tail.pieces = (splitAtEvery '/' tail.text.toList).map String.ofList := by
  have whole := startText_append tail.text.toList
  rw [show (splitStart tail.text.toList).1 = .plain from plain] at whole
  rw [pieces, show (splitStart tail.text.toList).2 = tail.text.toList from whole]

/-- The pieces of a path behind another are those in front and its own. -/
theorem Front.pieces_join (stands : base.Front front) (plain : tail.start = .plain) :
    (base.join tail).pieces = front.map String.ofList ++ tail.pieces := by
  rw [pieces, stands.start_join plain, splitAtEvery_terminated stands.free, List.map_append,
    pieces_of_plain plain]

/-- A path that begins plainly puts its components behind those of the path before it. -/
theorem components_join (base : Path) (plain : tail.start = .plain) :
    (base.join tail).components = base.components ++ tail.components := by
  obtain ⟨front, stands⟩ := exists_front base
  have begins : (base.join tail).start = base.start := by rw [start, stands.start_join plain]
  rw [components, components, components, begins, stands.pieces_join plain, List.filter_append,
    stands.counted, plain]
  simp [Start.component?]

/-! ## Names and extensions -/

/-- A list of pieces has one that counts. -/
def HasName (pieces : List String) : Prop := ∃ piece ∈ pieces, counts piece

/-- Pieces end in one that counts and others that do not. -/
theorem HasName.exists_last {pieces : List String} (named : HasName pieces) :
    ∃ init last noise, pieces = init ++ last :: noise ∧ counts last ∧
      ∀ piece ∈ noise, ¬ counts piece := by
  induction pieces with
  | nil =>
    obtain ⟨piece, none, -⟩ := named
    cases none
  | cons first rest ih =>
    by_cases behind : HasName rest
    · obtain ⟨init, last, noise, rfl, counted, silent⟩ := ih behind
      exact ⟨first :: init, last, noise, rfl, counted, silent⟩
    · obtain ⟨piece, mem, counted⟩ := named
      rcases List.mem_cons.mp mem with rfl | mem
      · exact ⟨[], piece, rest, rfl, counted, fun other mem counts => behind ⟨other, mem, counts⟩⟩
      · exact absurd ⟨piece, mem, counted⟩ behind

/-- Trimming takes away what does not count at the end. -/
theorem trimEnd_eq {init noise : List String} {last : String} (counted : counts last)
    (silent : ∀ piece ∈ noise, ¬ counts piece) :
    trimEnd (init ++ last :: noise) = init ++ [last] := by
  have passed : ∀ piece ∈ noise.reverse, (!counts piece) = true := fun piece mem => by
    simpa using silent piece (List.mem_reverse.mp mem)
  rw [trimEnd, List.reverse_append, List.reverse_cons, List.append_assoc,
    List.dropWhile_append_of_pos passed, List.singleton_append,
    List.dropWhile_cons_of_neg (by simp [counted]), List.reverse_cons, List.reverse_reverse]

/-- A text takes the bytes of its first character and those of the rest. -/
theorem utf8ByteSize_cons (c : Char) (text : List Char) :
    (String.ofList (c :: text)).utf8ByteSize =
      c.utf8Size + (String.ofList text).utf8ByteSize := by
  have cut : String.ofList (c :: text) = String.singleton c ++ String.ofList text := by
    apply String.toList_injective
    simp
  rw [cut, String.utf8ByteSize_append, String.utf8ByteSize_singleton]

/-- A text takes as many bytes from the back as from the front. -/
theorem utf8ByteSize_reverse (text : List Char) :
    (String.ofList text.reverse).utf8ByteSize = (String.ofList text).utf8ByteSize := by
  induction text with
  | nil => rfl
  | cons c text ih =>
    have last : (String.ofList [c]).utf8ByteSize = c.utf8Size := utf8ByteSize_cons c []
    rw [List.reverse_cons, String.ofList_append, String.utf8ByteSize_append, ih, last,
      utf8ByteSize_cons, Nat.add_comm]

/-- Bytes are taken off a text as long as it has so many, whatever stands before it. -/
theorem dropBytes_append {bytes : Nat} {text : List Char} (before : List Char)
    (enough : bytes ≤ (String.ofList text).utf8ByteSize) :
    dropBytes bytes (text ++ before) = dropBytes bytes text ++ before := by
  induction text generalizing bytes with
  | nil =>
    obtain rfl := Nat.le_zero.mp enough
    cases before with
    | nil => rfl
    | cons c rest => simp [dropBytes, Nat.pos_iff_ne_zero.mp c.utf8Size_pos]
  | cons c rest ih =>
    rw [utf8ByteSize_cons] at enough
    rw [List.cons_append, dropBytes, dropBytes]
    split
    next => exact ih (Nat.sub_le_iff_le_add'.mpr enough)
    next => rfl

/-- An extension and the dot before it, if there is one. -/
def dotted : Option String → List Char
  | some extension => '.' :: extension.toList
  | none => []

/-- A name is its stem, and behind a dot its extension if it has one; the stem of a name is a name.
-/
theorem toList_splitName {name : String} (nonempty : name.toList ≠ []) :
    (splitName name).1.toList ≠ [] ∧
      name.toList = (splitName name).1.toList ++ dotted (splitName name).2 := by
  unfold splitName
  have whole := @List.takeWhile_append_dropWhile _ (fun c => decide (c ≠ '.')) name.toList.reverse
  have opened := List.head?_dropWhile_not (fun c => decide (c ≠ '.')) name.toList.reverse
  dsimp only
  generalize name.toList.reverse.dropWhile _ = dropped at whole opened ⊢
  generalize name.toList.reverse.takeWhile _ = taken at whole ⊢
  cases dropped with
  | nil => simpa [dotted] using nonempty
  | cons c rest =>
    obtain rfl : c = '.' := by simpa using opened
    have shape : name.toList = rest.reverse ++ '.' :: taken.reverse := by
      rw [← name.toList.reverse_reverse, ← whole]
      simp
    cases rest with
    | nil => simpa [dotted] using nonempty
    | cons d rest => simpa [dotted] using shape

/-- The path begins plainly, and its text is these pieces with a slash behind each, and then the
stem of a name and what follows. -/
structure EndsIn (tail : Path) (init : List (List Char)) (stem after : List Char) : Prop where
  plain : tail.start = .plain
  free : ∀ piece ∈ init, '/' ∉ piece
  stemFree : '/' ∉ stem
  nonempty : stem ≠ []
  text : tail.text.toList = terminated '/' init ++ (stem ++ after)

/-- Whatever follows the stem of a name and a dot, the path begins plainly and has a name. -/
theorem EndsIn.replace {init : List (List Char)} {stem after : List Char}
    (ends : tail.EndsIn init stem after) {other : Path} {left : List Char}
    (text : other.text.toList = terminated '/' init ++ (stem ++ '.' :: left)) :
    other.start = .plain ∧ HasName other.pieces := by
  obtain ⟨p, ps, cut⟩ := List.exists_cons_of_ne_nil (splitAtEvery_ne_nil '/' left)
  have free : '/' ∉ stem ++ ['.'] := by simpa using ends.stemFree
  have split : splitAtEvery '/' other.text.toList = init ++ (stem ++ ['.'] ++ p) :: ps := by
    rw [text, splitAtEvery_terminated ends.free, ← List.singleton_append, ← List.append_assoc,
      splitAtEvery_append free cut]
  have counted : counts (String.ofList (stem ++ ['.'] ++ p)) := by
    obtain ⟨c, rest, rfl⟩ := List.exists_cons_of_ne_nil ends.nonempty
    cases rest <;> simp [counts, ← String.toList_inj]
  have plain : splitStart other.text.toList = (.plain, other.text.toList) := by
    cases init with
    | nil => exact splitStart_of_counts split counted
    | cons first others =>
      have before : splitAtEvery '/' tail.text.toList =
          first :: (others ++ splitAtEvery '/' (stem ++ after)) := by
        rw [ends.text, splitAtEvery_terminated ends.free, List.cons_append]
      have text : tail.text.toList ≠ [] := by simp [ends.text, ends.nonempty]
      exact splitStart_of_counts split (counts_of_splitStart text ends.plain before)
  replace plain : other.start = .plain := congrArg Prod.fst plain
  refine ⟨plain, _, ?_, counted⟩
  rw [pieces_of_plain plain, split]
  simp

/-- The pieces of a path that begins plainly, cut at the last one that counts. -/
structure Cut (tail : Path) (init : List (List Char)) (last : List Char)
    (noise : List (List Char)) : Prop where
  plain : tail.start = .plain
  split : splitAtEvery '/' tail.text.toList = init ++ last :: noise
  counted : counts (String.ofList last)
  silent : ∀ piece ∈ noise.map String.ofList, ¬ counts piece

/-- A path that begins plainly and has a name can be cut at its last one. -/
theorem exists_cut (plain : tail.start = .plain) (named : HasName tail.pieces) :
    ∃ init last noise, tail.Cut init last noise := by
  obtain ⟨init, last, noise, pieces, counted, silent⟩ := named.exists_last
  rw [pieces_of_plain plain] at pieces
  obtain ⟨init, rest, split, rfl, others⟩ := List.map_eq_append_iff.mp pieces
  obtain ⟨last, noise, rfl, rfl, rfl⟩ := List.map_eq_cons_iff.mp others
  exact ⟨init, last, noise, plain, split, counted, silent⟩

namespace Cut

variable {init noise : List (List Char)} {last : List Char}

/-- What can be cut has a name. -/
theorem hasName (cut : tail.Cut init last noise) : HasName tail.pieces :=
  ⟨String.ofList last, by rw [pieces_of_plain cut.plain, cut.split]; simp, cut.counted⟩

/-- The pieces without those at the end, behind others. -/
theorem trimEnd_pieces (cut : tail.Cut init last noise) (before : List String) :
    trimEnd (before ++ tail.pieces) =
      before ++ init.map String.ofList ++ [String.ofList last] := by
  rw [pieces_of_plain cut.plain, cut.split, List.map_append, List.map_cons, ← List.append_assoc,
    trimEnd_eq cut.counted cut.silent]

/-- The name of the path, if its last component is one, and of the path behind another. -/
theorem fileName? (cut : tail.Cut init last noise) :
    tail.fileName? = if String.ofList last = ".." then none else some (String.ofList last) := by
  have trimmed := cut.trimEnd_pieces []
  rw [List.nil_append] at trimmed
  rw [Path.fileName?, trimmed, List.nil_append, List.getLast?_concat]

theorem fileName?_join (cut : tail.Cut init last noise) (base : Path) :
    (base.join tail).fileName? = tail.fileName? := by
  obtain ⟨front, stands⟩ := exists_front base
  rw [cut.fileName?, Path.fileName?, stands.pieces_join cut.plain, cut.trimEnd_pieces,
    List.getLast?_concat]

/-- The text of the path around the stem of its last name. -/
theorem endsIn (cut : tail.Cut init last noise) :
    tail.EndsIn init (splitName (String.ofList last)).1.toList
      (dotted (splitName (String.ofList last)).2 ++ noise.flatMap ('/' :: ·)) := by
  have free : ∀ piece ∈ init ++ last :: noise, '/' ∉ piece := fun piece mem =>
    not_mem_of_mem_splitAtEvery (cut.split ▸ mem)
  have filled : (String.ofList last).toList ≠ [] := fun empty => by
    obtain rfl : last = [] := by simpa using empty
    exact absurd cut.counted (by decide)
  obtain ⟨nonempty, shape⟩ := toList_splitName filled
  rw [String.toList_ofList] at shape
  refine ⟨cut.plain, fun piece mem => free piece (List.mem_append_left _ mem), fun mem => ?_,
    nonempty, ?_⟩
  · refine free last (by simp) ?_
    rw [shape]
    exact List.mem_append_left _ mem
  · rw [← List.append_assoc (splitName _).1.toList, ← shape, ← intercalate_cons_flatMap,
      ← eq_of_splitAtEvery (List.cons_ne_nil _ _) cut.split]

/-- As many bytes as an extension has are found behind the dot before it. -/
theorem exists_left (extension : String) (after : List Char) :
    ∃ left, ∀ before : List Char,
      (dropBytes extension.utf8ByteSize (before ++ (extension.toList ++ after)).reverse).reverse =
        before ++ left := by
  refine ⟨(dropBytes extension.utf8ByteSize (extension.toList ++ after).reverse).reverse,
    fun before => ?_⟩
  have enough : extension.utf8ByteSize ≤
      (String.ofList (extension.toList ++ after).reverse).utf8ByteSize := by
    rw [utf8ByteSize_reverse, String.ofList_append, String.ofList_toList,
      String.utf8ByteSize_append]
    exact Nat.le_add_right _ _
  rw [List.reverse_append, dropBytes_append _ enough, List.reverse_append, List.reverse_reverse]

/-- Taking the extension off a path leaves it a plain beginning and a name, and can as well be done
before it is put behind another. -/
theorem dropExtension_join (cut : tail.Cut init last noise) (base : Path) :
    (base.join tail).dropExtension = base.join tail.dropExtension ∧
      tail.dropExtension.start = .plain ∧ HasName tail.dropExtension.pieces := by
  have stays : tail.start = .plain ∧ HasName tail.pieces := ⟨cut.plain, cut.hasName⟩
  obtain ⟨front, stands⟩ := exists_front base
  have ends := cut.endsIn
  rw [dropExtension, dropExtension, cut.fileName?_join, cut.fileName?]
  split
  next extension found =>
    have found : (splitName (String.ofList last)).2 = some extension := by
      split at found
      · cases found
      · exact found
    rw [found] at ends
    obtain ⟨left, dropped⟩ := exists_left extension (noise.flatMap ('/' :: ·))
    have whole : ∀ before : List Char,
        (dropBytes extension.utf8ByteSize (before ++ tail.text.toList).reverse).reverse =
          before ++ (terminated '/' init ++
            ((splitName (String.ofList last)).1.toList ++ '.' :: left)) := by
      intro before
      have shape : before ++ tail.text.toList =
          before ++ terminated '/' init ++ (splitName (String.ofList last)).1.toList ++ ['.'] ++
            (extension.toList ++ noise.flatMap ('/' :: ·)) := by
        rw [ends.text]
        simp [dotted]
      rw [shape, dropped]
      simp
    have alone := whole []
    rw [List.nil_append, List.nil_append] at alone
    have kept := @EndsIn.replace _ _ _ _ ends
      ⟨String.ofList (dropBytes extension.utf8ByteSize tail.text.toList.reverse).reverse⟩ left
      (by rw [String.toList_ofList, alone])
    refine ⟨?_, kept⟩
    rw [Path.mk.injEq, ← String.toList_inj, stands.joined _ kept.1, stands.joined _ cut.plain,
      String.toList_ofList, String.toList_ofList, whole, alone]
  next => exact ⟨rfl, stays⟩

/-- Putting an extension behind the stem of a path leaves it a plain beginning and a name, and can
as well be done before it is put behind another. -/
theorem appendExtension_join (cut : tail.Cut init last noise) (base : Path) (extension : String) :
    (base.join tail).appendExtension extension = base.join (tail.appendExtension extension) ∧
      (tail.appendExtension extension).start = .plain ∧
        HasName (tail.appendExtension extension).pieces := by
  obtain ⟨front, stands⟩ := exists_front base
  have begins : (base.join tail).start = base.start := by rw [start, stands.start_join cut.plain]
  have back : trimEnd tail.pieces = init.map String.ofList ++ [String.ofList last] :=
    cut.trimEnd_pieces []
  rw [appendExtension, appendExtension, cut.fileName?_join, cut.fileName?, begins,
    stands.pieces_join cut.plain, cut.trimEnd_pieces, back, List.dropLast_concat,
    List.dropLast_concat, cut.plain]
  split
  next name found =>
    have found : String.ofList last = name := by
      split at found
      · cases found
      · exact Option.some.inj found
    subst found
    generalize appended : (splitName (String.ofList last)).1 ++ "." ++ extension = full
    have alone : (ofPieces .plain (init.map String.ofList ++ [full])).text.toList =
        terminated '/' init ++ full.toList := by
      simp [ofPieces, Start.text, intercalate_append_terminated]
    have kept := @EndsIn.replace _ _ _ _ cut.endsIn _ extension.toList
      (by rw [alone, ← appended]; simp)
    refine ⟨?_, kept⟩
    rw [Path.mk.injEq, ← String.toList_inj, stands.joined _ kept.1, alone]
    simp [ofPieces, intercalate_append_terminated]
  next => exact ⟨rfl, cut.plain, cut.hasName⟩

end Cut

/-- Replacing the extension of a path leaves it a plain beginning and a name, and can as well be
done before it is put behind another. -/
theorem withExtension_join (base : Path) (plain : tail.start = .plain)
    (named : HasName tail.pieces) (extension : String) :
    (base.join tail).withExtension extension = base.join (tail.withExtension extension) ∧
      (tail.withExtension extension).start = .plain ∧
        HasName (tail.withExtension extension).pieces := by
  obtain ⟨init, last, noise, cut⟩ := exists_cut plain named
  obtain ⟨dropped, plain', named'⟩ := cut.dropExtension_join base
  obtain ⟨init', last', noise', cut'⟩ := exists_cut plain' named'
  obtain ⟨appended, kept⟩ := cut'.appendExtension_join base extension
  rw [withExtension, dropped, appended]
  exact ⟨rfl, kept⟩

/-- The components of a path behind another, with its extension replaced: the replacement is that of
the path alone. -/
theorem components_withExtension_join (base : Path) (plain : tail.start = .plain)
    (named : HasName tail.pieces) (extension : String) :
    ((base.join tail).withExtension extension).components =
      base.components ++ (tail.withExtension extension).components := by
  obtain ⟨joined, plain', -⟩ := withExtension_join base plain named extension
  rw [joined, components_join base plain']

/-- A path that begins plainly and has a name keeps both with another extension. -/
theorem plain_withExtension (plain : tail.start = .plain) (named : HasName tail.pieces)
    (extension : String) :
    (tail.withExtension extension).start = .plain ∧
      HasName (tail.withExtension extension).pieces :=
  (withExtension_join tail plain named extension).2

end Path

end NovelScript
