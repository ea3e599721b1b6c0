import Mathlib.Data.List.Forall2
import Mathlib.Data.List.Induction
import NovelScript.Project.CommonDirectory
import NovelScript.Proofs.Project.Parents

/-!
# The common directory — longest, and the same in every order

A path's directory begins like a list of components if its own first components are these, one by
one and up to the case of ASCII letters. What all directories begin like is shared by them. The
common directory is the longest front of the first directory that is shared, and there is none
exactly if there are no paths or a path has no directory.

The search walks over the paths and keeps a front of the first directory. What it keeps is best said
of the fronts of the result: they are the fronts of the first directory that the paths so far begin
like (`prefix_sharedByAll_iff`). That no longer front is shared follows, and so does that the order
of the paths has no part in it, letter case apart: of two results each is shared by the directory
that the other was cut from, so neither is longer.

The result is a path again, put together from components. Read as a path it has just these
components, since they come from one.

## What is proved

`Path.components_ofComponents`: components of a path, put together, are read back.
`commonDirectory?_longest`: the common directory, and what becomes of it in another order.
-/

set_option autoImplicit false

namespace NovelScript

namespace Path

/-! ## Putting components together -/

/-- A piece that counts is a path of one piece. -/
theorem pieces_piece {piece : String} (counted : counts piece) (free : '/' ∉ piece.toList) :
    (Path.mk piece).start = .plain ∧ (Path.mk piece).pieces = [piece] := by
  have split := splitAtEvery_of_free free
  have counted' : counts (String.ofList piece.toList) := by rwa [String.ofList_toList]
  have plain : (Path.mk piece).start = .plain :=
    congrArg Prod.fst (splitStart_of_counts split counted')
  refine ⟨plain, ?_⟩
  rw [pieces_of_plain plain, split]
  simp

/-- A component is written as the piece that it is read from. -/
theorem text_ofPiece (piece : String) : (ofPiece piece).text = piece := by
  unfold ofPiece
  split
  next up => exact up.symm
  next => rfl

/-- A beginning and pieces that count, put together, are a path that begins so, has these parts and
ends in the last of them. -/
theorem ofComponents_pieces (start : Start) {pieces : List String}
    (counted : ∀ piece ∈ pieces, counts piece) (free : ∀ piece ∈ pieces, '/' ∉ piece.toList) :
    (ofComponents (start.component?.toList ++ pieces.map ofPiece)).start = start ∧
      (ofComponents (start.component?.toList ++ pieces.map ofPiece)).parts = pieces ∧
      (ofComponents (start.component?.toList ++ pieces.map ofPiece)).Closed := by
  -- Each component is joined to those in front of it, so the list is taken apart from the back.
  induction pieces using List.reverseRecOn with
  | nil => cases start <;> decide
  | append_singleton front piece ih =>
    have last : piece ∈ front ++ [piece] := List.mem_append_right _ List.mem_cons_self
    have before := fun other mem => counted other (List.mem_append_left [piece] mem)
    have before' := fun other mem => free other (List.mem_append_left [piece] mem)
    obtain ⟨begins, parts, -⟩ := ih before before'
    obtain ⟨plain, single⟩ := pieces_piece (counted piece last) (free piece last)
    rw [List.map_append, ← List.append_assoc, ofComponents, List.foldl_append, ← ofComponents,
      List.map_singleton, List.foldl_cons, List.foldl_nil, text_ofPiece]
    obtain ⟨begins', parts', closed⟩ := parts_join (ofComponents _) plain
    refine ⟨begins'.trans begins, ?_, closed [] piece single (counted piece last)⟩
    rw [parts', parts, Path.parts, single, List.filter_cons_of_pos (counted piece last),
      List.filter_nil]

/-- A part of a path has no slash in it. -/
theorem free_of_mem_parts {p : Path} {piece : String} (mem : piece ∈ p.parts) :
    '/' ∉ piece.toList := by
  obtain ⟨text, split, rfl⟩ := List.mem_map.mp (List.mem_filter.mp mem).1
  rw [String.toList_ofList]
  exact not_mem_of_mem_splitAtEvery split

/-- The first components of a path, put together, are read back. -/
theorem components_ofComponents {p : Path} {front : List Component}
    (h : front <+: p.components) : (ofComponents front).components = front := by
  rw [components_eq] at h
  rw [List.prefix_iff_eq_take.mp h, List.take_append, ← List.map_take]
  generalize front.length = count
  cases count with
  | zero => rw [List.take_zero, Nat.zero_sub, List.take_zero]; rfl
  | succ count =>
    have all : p.start.component?.toList.take (count + 1) = p.start.component?.toList :=
      List.take_of_length_le (by cases p.start.component? <;> simp)
    rw [all]
    generalize count + 1 - p.start.component?.toList.length = short
    obtain ⟨begins, parts, -⟩ := @ofComponents_pieces p.start (p.parts.take short)
      (fun piece mem => (List.mem_filter.mp (List.mem_of_mem_take mem)).2)
      fun piece mem => free_of_mem_parts (List.mem_of_mem_take mem)
    rw [components_eq, begins, parts]

/-! ## Letter case -/

/-- Components that are one but for the case of ASCII letters. -/
def Component.SameUpToCase (a b : Component) : Prop :=
  List.Forall₂ (fun c d => c.toLower = d.toLower) a.text.toList b.text.toList

/-- Lists of components that are one but for letter case. -/
def SameUpToCase : List Component → List Component → Prop :=
  List.Forall₂ Component.SameUpToCase

instance (a b : Component) : Decidable (a.SameUpToCase b) :=
  inferInstanceAs (Decidable (List.Forall₂ _ _ _))

instance (front other : List Component) : Decidable (SameUpToCase front other) :=
  inferInstanceAs (Decidable (List.Forall₂ _ _ _))

/-- Components are one up to case if they are one in small letters. -/
theorem Component.sameUpToCase_iff {a b : Component} :
    a.SameUpToCase b ↔ foldCase a.text = foldCase b.text := by
  rw [foldCase, foldCase, ← String.toList_inj, String.toList_map, String.toList_map,
    ← List.forall₂_eq_eq_eq, List.forall₂_map_left_iff, List.forall₂_map_right_iff]
  rfl

/-- The same for lists of them. -/
theorem sameUpToCase_iff {front other : List Component} :
    SameUpToCase front other ↔
      front.map (fun c => foldCase c.text) = other.map fun c => foldCase c.text := by
  have pointwise : Component.SameUpToCase = fun a b => foldCase a.text = foldCase b.text :=
    funext₂ fun _ _ => propext Component.sameUpToCase_iff
  rw [← List.forall₂_eq_eq_eq, List.forall₂_map_left_iff, List.forall₂_map_right_iff,
    SameUpToCase, pointwise]

variable {front other third : List Component}

theorem SameUpToCase.refl (front : List Component) : SameUpToCase front front :=
  sameUpToCase_iff.mpr rfl

theorem SameUpToCase.symm (h : SameUpToCase front other) : SameUpToCase other front :=
  sameUpToCase_iff.mpr (sameUpToCase_iff.mp h).symm

theorem SameUpToCase.trans (h : SameUpToCase front other) (h' : SameUpToCase other third) :
    SameUpToCase front third :=
  sameUpToCase_iff.mpr ((sameUpToCase_iff.mp h).trans (sameUpToCase_iff.mp h'))

/-! ## Shared fronts -/

/-- The first components of a directory are the ones of a list, up to case. -/
def BeginsLike (directory front : List Component) : Prop :=
  ∃ first, first <+: directory ∧ SameUpToCase front first

instance (directory front : List Component) : Decidable (BeginsLike directory front) :=
  decidable_of_iff (SameUpToCase front (directory.take front.length))
    ⟨fun same => ⟨_, List.take_prefix .., same⟩, fun ⟨first, begins, same⟩ => by
      rwa [same.length_eq, ← List.prefix_iff_eq_take.mp begins]⟩

theorem beginsLike_nil (directory : List Component) : BeginsLike directory [] :=
  ⟨[], List.nil_prefix, .nil⟩

theorem nil_beginsLike_iff : BeginsLike [] front ↔ front = [] := by
  constructor
  · rintro ⟨first, none, same⟩
    obtain rfl := List.prefix_nil.mp none
    cases same
    rfl
  · rintro rfl
    exact beginsLike_nil []

theorem cons_beginsLike_cons_iff {a b : Component} {directory : List Component} :
    BeginsLike (b :: directory) (a :: front) ↔ a.SameUpToCase b ∧ BeginsLike directory front := by
  constructor
  · rintro ⟨first, begins, same⟩
    cases same with
    | cons head rest =>
      obtain ⟨rfl, others⟩ := List.cons_prefix_cons.mp begins
      exact ⟨head, _, others, rest⟩
  · rintro ⟨head, first, begins, rest⟩
    exact ⟨b :: first, List.cons_prefix_cons.mpr ⟨rfl, begins⟩, .cons head rest⟩

/-- A list begins like every front of it. -/
theorem BeginsLike.of_front {directory : List Component} (h : front <+: directory) :
    BeginsLike directory front :=
  ⟨front, h, .refl front⟩

/-- A list begins like whatever differs in case alone from what it begins like. -/
theorem BeginsLike.of_sameUpToCase {directory : List Component} (h : BeginsLike directory other)
    (same : SameUpToCase front other) : BeginsLike directory front := by
  obtain ⟨first, begins, same'⟩ := h
  exact ⟨first, begins, same.trans same'⟩

end Path

open NovelScript.Path

variable {front common : List Component} {paths : List Path} {directory : Path}

/-- The fronts of the shared front of two lists are those of the first that the second begins like.
-/
theorem prefix_sharedFront_iff {base : List Component} :
    front <+: sharedFront common base ↔ front <+: common ∧ BeginsLike base front := by
  fun_induction sharedFront common base generalizing front with
  | case1 a as b bs same ih =>
    have same : a.SameUpToCase b := Component.sameUpToCase_iff.mpr (beq_iff_eq.mp same)
    cases front with
    | nil => simp [beginsLike_nil]
    | cons c front =>
      rw [List.cons_prefix_cons, List.cons_prefix_cons, ih, cons_beginsLike_cons_iff]
      constructor
      · rintro ⟨rfl, begins, like⟩
        exact ⟨⟨rfl, begins⟩, same, like⟩
      · rintro ⟨⟨rfl, begins⟩, -, like⟩
        exact ⟨rfl, begins, like⟩
  | case2 a as b bs differ =>
    cases front with
    | nil => simp [beginsLike_nil]
    | cons c front =>
      rw [List.cons_prefix_cons, cons_beginsLike_cons_iff]
      refine ⟨fun none => absurd (List.prefix_nil.mp none) nofun, ?_⟩
      rintro ⟨⟨rfl, -⟩, same, -⟩
      exact absurd (beq_iff_eq.mpr (Component.sameUpToCase_iff.mp same)) differ
  | case3 common base short =>
    rw [List.prefix_nil]
    constructor
    · rintro rfl
      exact ⟨List.nil_prefix, beginsLike_nil base⟩
    · rintro ⟨begins, like⟩
      cases common with
      | nil => exact List.prefix_nil.mp begins
      | cons a as =>
        cases base with
        | nil => exact nil_beginsLike_iff.mp like
        | cons b bs => exact absurd rfl (short a as b bs rfl)

/-- The directories of all paths begin like a list of components; so all of them have one. -/
def SharedBy (paths : List Path) (front : List Component) : Prop :=
  ∀ p ∈ paths, ∃ directory, p.parent? = some directory ∧ BeginsLike directory.components front

instance (paths : List Path) (front : List Component) : Decidable (SharedBy paths front) :=
  inferInstanceAs (Decidable (∀ p ∈ paths, ∃ directory ∈ p.parent?,
    BeginsLike directory.components front))

/-- The search fails exactly if a path has no directory. -/
theorem sharedByAll_eq_none_iff :
    sharedByAll common paths = none ↔ ∃ p ∈ paths, p.parent? = none := by
  induction paths generalizing common with
  | nil => simp [sharedByAll]
  | cons p rest ih =>
    rw [sharedByAll]
    cases parent : p.parent? with
    | none => simp [parent]
    | some directory => simp [parent, ih]

/-- The fronts of what the search keeps are those of what it began with that all paths share. -/
theorem prefix_sharedByAll_iff {kept : List Component} (h : sharedByAll common paths = some kept) :
    front <+: kept ↔ front <+: common ∧ SharedBy paths front := by
  induction paths generalizing common with
  | nil =>
    cases h
    simp [SharedBy]
  | cons p rest ih =>
    rw [sharedByAll] at h
    cases parent : p.parent? with
    | none => rw [parent] at h; cases h
    | some directory =>
      rw [parent] at h
      rw [ih h, prefix_sharedFront_iff, SharedBy, SharedBy, List.forall_mem_cons, parent, and_assoc]
      simp

/-! ## The common directory -/

/-- The longest front of a directory that is shared by all paths. -/
structure LongestShared (paths : List Path) (directory common : List Component) : Prop where
  begins : common <+: directory
  shared : SharedBy paths common
  longest : ∀ longer, longer <+: directory → SharedBy paths longer → longer.length ≤ common.length

/-- There is no common directory exactly of no paths and of paths without a directory. -/
theorem commonDirectory?_eq_none_iff :
    commonDirectory? paths = none ↔ paths = [] ∨ ∃ p ∈ paths, p.parent? = none := by
  cases paths with
  | nil => simp [commonDirectory?]
  | cons first rest =>
    rw [commonDirectory?]
    cases parent : first.parent? with
    | none => simp [parent]
    | some directory => simp [parent, sharedByAll_eq_none_iff]

/-- The common directory is the longest shared front of the first one, put together. -/
theorem longestShared_of_eq_some {result : Path} (h : commonDirectory? paths = some result) :
    result = ofComponents result.components ∧
      ∃ first rest directory, paths = first :: rest ∧ first.parent? = some directory ∧
        LongestShared paths directory.components result.components := by
  cases paths with
  | nil => cases h
  | cons first rest =>
    rw [commonDirectory?] at h
    cases parent : first.parent? with
    | none => rw [parent] at h; cases h
    | some directory =>
      rw [parent] at h
      obtain ⟨kept, found, rfl⟩ := Option.map_eq_some_iff.mp h
      obtain ⟨begins, shared⟩ := (prefix_sharedByAll_iff found).mp (List.prefix_refl kept)
      rw [components_ofComponents begins]
      refine ⟨rfl, first, rest, directory, rfl, parent, ?_⟩
      refine ⟨begins, List.forall_mem_cons.mpr ⟨⟨directory, parent, .of_front begins⟩, shared⟩,
        fun longer begins' shared' => List.IsPrefix.length_le ?_⟩
      exact (prefix_sharedByAll_iff found).mpr ⟨begins', (List.forall_mem_cons.mp shared').2⟩

/-- What is shared is found again, letter case apart, at the front of every directory, and is there
no longer than the longest that is shared. -/
theorem LongestShared.exists_front {p : Path}
    (longest : LongestShared paths directory.components common) (shared : SharedBy paths front)
    (mem : p ∈ paths) (parent : p.parent? = some directory) :
    ∃ first, first <+: directory.components ∧ SameUpToCase front first ∧
      first.length ≤ common.length := by
  obtain ⟨_, found, first, begins, alike⟩ := shared p mem
  obtain rfl := Option.some.inj (parent.symm.trans found)
  refine ⟨first, begins, alike, longest.longest first begins fun q mem' => ?_⟩
  obtain ⟨_, found', like⟩ := shared q mem'
  exact ⟨_, found', like.of_sameUpToCase alike.symm⟩

/-- The longest shared fronts of two directories are one up to letter case. -/
theorem LongestShared.sameUpToCase {p p' : Path} {directory' : Path} {common' : List Component}
    (longest : LongestShared paths directory.components common)
    (longest' : LongestShared paths directory'.components common')
    (mem : p ∈ paths) (parent : p.parent? = some directory)
    (mem' : p' ∈ paths) (parent' : p'.parent? = some directory') :
    SameUpToCase common common' := by
  obtain ⟨first, begins, alike, short⟩ := longest'.exists_front longest.shared mem' parent'
  obtain ⟨first', -, alike', short'⟩ := longest.exists_front longest'.shared mem parent
  -- Neither of them is longer, so both are cut off the second directory at one place.
  have length : first.length = common'.length := by
    have := alike.length_eq
    have := alike'.length_eq
    omega
  obtain rfl : first = common' :=
    (List.prefix_of_prefix_length_le begins longest'.begins (Nat.le_of_eq length)).eq_of_length
      length
  exact alike

/-- The order of the paths has no part in what is the longest that they share. -/
theorem LongestShared.of_perm {paths' : List Path} {base : List Component}
    (h : LongestShared paths base common) (perm : paths.Perm paths') :
    LongestShared paths' base common where
  begins := h.begins
  shared p mem := h.shared p (perm.mem_iff.mpr mem)
  longest longer begins shared := h.longest longer begins fun p mem =>
    shared p (perm.mem_iff.mp mem)

/-- The common directory is the longest front of the first path's directory that all directories
begin like, letter case apart; there is one unless there are no paths or one of them has no
directory. In another order of the paths it is the same up to letter case. -/
theorem commonDirectory?_longest (paths : List Path) :
    (commonDirectory? paths = none ↔ paths = [] ∨ ∃ p ∈ paths, p.parent? = none) ∧
    (∀ result, commonDirectory? paths = some result →
      ∃ first rest directory, paths = first :: rest ∧ first.parent? = some directory ∧
        LongestShared paths directory.components result.components) ∧
    ∀ paths', paths.Perm paths' →
      Option.Rel (fun result result' => SameUpToCase result.components result'.components)
        (commonDirectory? paths) (commonDirectory? paths') := by
  refine ⟨commonDirectory?_eq_none_iff, fun result h => (longestShared_of_eq_some h).2,
    fun paths' perm => ?_⟩
  have absent : commonDirectory? paths = none ↔ commonDirectory? paths' = none := by
    rw [commonDirectory?_eq_none_iff, commonDirectory?_eq_none_iff, ← List.length_eq_zero_iff,
      perm.length_eq, List.length_eq_zero_iff]
    simp only [perm.mem_iff]
  cases found : commonDirectory? paths with
  | none =>
    rw [absent.mp found]
    exact .none
  | some result =>
    cases found' : commonDirectory? paths' with
    | none => rw [absent.mpr found'] at found; cases found
    | some result' =>
      obtain ⟨-, p, rest, directory, rfl, parent, longest⟩ := longestShared_of_eq_some found
      obtain ⟨-, p', rest', directory', rfl, parent', longest'⟩ := longestShared_of_eq_some found'
      exact .some (longest.sameUpToCase (longest'.of_perm perm.symm) List.mem_cons_self parent
        (perm.mem_iff.mpr List.mem_cons_self) parent')

/-- Three directories, one of them deeper, that begin alike in three ways to spell them. -/
theorem commonDirectory?_longest_scenario :
    let paths : List Path :=
      [⟨"out/Scenario/a.yst"⟩, ⟨"out//scenario/sub/c.yst"⟩, ⟨"out/SCENARIO/b"⟩]
    ∃ result result', commonDirectory? paths = some result ∧
      result.components = [.name "out", .name "Scenario"] ∧
      commonDirectory? paths.reverse = some result' ∧
      SameUpToCase result.components result'.components := by
  intro paths
  have placed : ∀ p ∈ paths, p.parent? ≠ none := by decide +kernel
  have parent : (Path.mk "out/Scenario/a.yst").parent? = some ⟨"out/Scenario"⟩ := by decide +kernel
  have read : (Path.mk "out/Scenario").components = [.name "out", .name "Scenario"] := by
    decide +kernel
  have shared : SharedBy paths (Path.mk "out/Scenario").components := by decide +kernel
  obtain ⟨absent, longest, permuted⟩ := commonDirectory?_longest paths
  obtain ⟨result, found⟩ : ∃ result, commonDirectory? paths = some result := by
    refine Option.ne_none_iff_exists'.mp fun none => ?_
    rcases absent.mp none with empty | ⟨p, mem, missing⟩
    · exact absurd empty (List.cons_ne_nil _ _)
    · exact placed p mem missing
  obtain ⟨first, rest, directory, whole, parent', longest⟩ := longest result found
  obtain ⟨rfl, -⟩ := List.cons.inj whole
  obtain rfl := Option.some.inj (parent.symm.trans parent')
  have all := longest.begins.eq_of_length_le (longest.longest _ (List.prefix_refl _) shared)
  have related := permuted paths.reverse paths.reverse_perm.symm
  rw [found] at related
  generalize commonDirectory? paths.reverse = reversed at related ⊢
  cases related with
  | some same => exact ⟨_, _, found, all.trans read, rfl, same⟩

end NovelScript
