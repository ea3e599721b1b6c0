import Mathlib.Data.List.Infix
import Mathlib.Data.List.Pairwise
import NovelScript.Proofs.CommandLine.Directories

/-!
# Deliveries — files put side by side below a directory

Texts are put into files below one directory, each after the directories on the way to it were made.
That goes well if the files lie side by side (`SideBySide`): none of them is a directory of another,
so no directory is ever made where a file has to lie, and no file lies where a directory has to be.

What a store holds below the directory is told by the texts that were put there so far
(`Store.Holds`): these files and no others, and no directories but those on the way to a file. It
does not matter for this whether the directory itself is there yet (`Store.Ready`): it is made on
the way to the first file.

## What is proved

`Store.Ready.makeDirectories`, `Store.Stocked.writeFile`: the two steps of a delivery never fail.
`Store.Stocked.readFile`: after deliveries every file holds the text that was put there, and is not
found if there was none.
-/

set_option autoImplicit false

namespace NovelScript

/-- Neither of two lists is the other or begins it. -/
def Apart {α : Type} (a b : List α) : Prop := ¬ a <+: b ∧ ¬ b <+: a

instance {α : Type} : Std.Symm (@Apart α) := ⟨fun _ _ h => h.symm⟩

instance {α : Type} [DecidableEq α] (a b : List α) : Decidable (Apart a b) :=
  inferInstanceAs (Decidable (_ ∧ _))

theorem Apart.ne {α : Type} {a b : List α} (h : Apart a b) : a ≠ b := by
  rintro rfl
  exact h.1 (List.prefix_refl a)

/-- The place that names lead to from another. -/
def Location.below (l : Location) (names : List String) : Location := ⟨l.anchor, l.names ++ names⟩

@[simp] theorem Location.below_nil (l : Location) : l.below [] = l := by simp [below]

@[simp] theorem Location.child_below (l : Location) (names : List String) (name : String) :
    (l.below names).child name = l.below (names ++ [name]) := by
  simp [below, child]

@[simp] theorem Location.below_inj {l : Location} {names others : List String} :
    l.below names = l.below others ↔ names = others := by
  simp [below]

/-- Ways to files that can lie side by side below a directory: each has a name at its end, all its
names are such as a file can have, and none leads through the file of another. -/
structure SideBySide (goals : List (List String)) : Prop where
  filled : ∀ goal ∈ goals, goal ≠ []
  counted : ∀ goal ∈ goals, ∀ name ∈ goal, Path.counts name
  named : ∀ goal ∈ goals, ∀ name ∈ goal, name ≠ ".."
  short : ∀ goal ∈ goals, ∀ name ∈ goal, isLongName name = false
  apart : goals.Pairwise Apart

variable {goals : List (List String)} {goal : List String}

/-- What a way begins with, if it is the way to a file itself, is all of it. -/
theorem SideBySide.eq_of_front {other : List String} (side : SideBySide goals) (mem : goal ∈ goals)
    (mem' : other ∈ goals) (front : goal <+: other) : goal = other := by
  by_cases same : goal = other
  · exact same
  · exact absurd front (side.apart.forall mem mem' same).1

/-- Names on the way to a file: what is in front of it. -/
def OnTheWay (goals : List (List String)) (names : List String) : Prop :=
  ∃ goal ∈ goals, names <+: goal ∧ names ≠ goal

theorem SideBySide.not_onTheWay (side : SideBySide goals) (mem : goal ∈ goals) :
    ¬ OnTheWay goals goal := by
  rintro ⟨other, mem', front, differ⟩
  exact differ (side.eq_of_front mem mem' front)

theorem onTheWay_of_concat {front : List String} {name : String} (mem : front ++ [name] ∈ goals) :
    OnTheWay goals front :=
  ⟨_, mem, List.prefix_append front [name], by simp⟩

theorem OnTheWay.of_concat {front : List String} {name : String}
    (way : OnTheWay goals (front ++ [name])) : OnTheWay goals front := by
  obtain ⟨goal, mem, ⟨rest, rfl⟩, -⟩ := way
  exact ⟨_, mem, ⟨name :: rest, by simp⟩, by simp⟩

/-- Names on a way are names that lead down. -/
theorem OnTheWay.names {names : List String} (way : OnTheWay goals names)
    (side : SideBySide goals) :
    ∀ name ∈ names, Path.counts name ∧ name ≠ ".." ∧ isLongName name = false := by
  obtain ⟨goal, mem, front, -⟩ := way
  exact fun name listed => ⟨side.counted goal mem name (front.subset listed),
    side.named goal mem name (front.subset listed),
    side.short goal mem name (front.subset listed)⟩

namespace Store

/-- What lies below a place: the files that texts were put into, and directories on the way to files.
-/
structure Holds (s : Store) (base : Location) (goals : List (List String))
    (written : List (List String × String)) : Prop where
  files : ∀ names, names ≠ [] → ∀ text,
    s.file? (base.below names) = some text ↔ (names, text) ∈ written
  directories : ∀ names, names ≠ [] →
    s.hasDirectory (base.below names) = true → OnTheWay goals names
  placed : ∀ file ∈ written, file.1 ∈ goals
  ways : ∀ file ∈ written,
    s.enterAll base file.1.dropLast = .ok (base.below file.1.dropLast)

variable {s t : Store} {base d : Location} {written : List (List String × String)}
  {names dirs : List String} {name : String}

/-- No file lies on the way to one. -/
theorem Holds.file?_eq_none (held : s.Holds base goals written) (side : SideBySide goals)
    (nonempty : names ≠ []) (way : OnTheWay goals names) : s.file? (base.below names) = none := by
  cases found : s.file? (base.below names) with
  | none => rfl
  | some text =>
    have mem := held.placed _ ((held.files names nonempty text).mp found)
    exact absurd way (side.not_onTheWay mem)

/-- No directory lies in the place of a file. -/
theorem Holds.hasDirectory_eq_false (held : s.Holds base goals written) (side : SideBySide goals)
    (mem : goal ∈ goals) : s.hasDirectory (base.below goal) = false := by
  rw [Bool.eq_false_iff]
  intro there
  exact side.not_onTheWay mem (held.directories goal (side.filled goal mem) there)

/-- One more directory on a way changes nothing that is held. -/
theorem Holds.addDirectory (held : s.Holds base goals written) (way : OnTheWay goals names) :
    Holds { s with directories := s.directories ++ [base.below names] } base goals written where
  files := held.files
  directories others nonempty there := by
    rw [hasDirectory, Bool.or_eq_true, List.contains_iff_mem, List.mem_append,
      List.mem_singleton] at there
    rcases there with empty | listed | same
    · exact held.directories others nonempty (by rw [hasDirectory, empty]; rfl)
    · refine held.directories others nonempty ?_
      rw [hasDirectory, Bool.or_eq_true, List.contains_iff_mem]
      exact .inr listed
    · rw [Location.below_inj] at same
      exact same ▸ way
  placed := held.placed
  ways file mem := enterAll_of_keeps (keeps_addDirectory s _) (held.ways file mem)

/-- The directories on a way can be made, and nothing else changes. -/
theorem Holds.reach (held : s.Holds base goals written) (side : SideBySide goals)
    (way : OnTheWay goals names) :
    ∃ t, s.reach base names = some (t, base.below names) ∧ t.Holds base goals written := by
  -- Each directory lies in the one before it, so the way is taken apart from the back.
  induction names using List.reverseRecOn with
  | nil => exact ⟨s, by rw [Store.reach, Location.below_nil], held⟩
  | append_singleton front name ih =>
    obtain ⟨t, first, held⟩ := ih way.of_concat
    obtain ⟨-, named, short⟩ := way.names side name (by simp)
    rw [reach_append, first]
    show ∃ u, t.reach (base.below front) [name] = some (u, _) ∧ _
    simp only [reach_singleton, descend_eq_some_iff]
    cases there : t.hasDirectory (base.below (front ++ [name])) with
    | true =>
      refine ⟨t, ?_, held⟩
      rw [← Location.child_below] at there ⊢
      exact .there named short there
    | false =>
      refine ⟨_, ?_, held.addDirectory way⟩
      have vacant := held.file?_eq_none side (by simp) way
      rw [← Location.child_below] at there vacant ⊢
      exact .made named short there vacant

/-- A way is there, or something on it is not found. -/
theorem Holds.enterAll (held : s.Holds base goals written) (side : SideBySide goals)
    (way : OnTheWay goals names) :
    s.enterAll base names = .ok (base.below names) ∨ s.enterAll base names = .error .notFound := by
  obtain ⟨t, down, -⟩ := held.reach side way
  have counted : ∀ name ∈ names, Path.counts name = true := fun name mem =>
    (way.names side name mem).1
  cases entered : s.enterAll base names with
  | ok d =>
    rw [reach_of_enterAll counted entered] at down
    cases down
    exact .inl rfl
  | error e =>
    rw [notFound_of_reach counted down entered]
    exact .inr rfl

/-- One more file, where there is none. -/
theorem Holds.addFile (held : s.Holds base goals written) (mem : dirs ++ [name] ∈ goals)
    (fresh : dirs ++ [name] ∉ written.map Prod.fst)
    (entered : s.enterAll base dirs = .ok (base.below dirs)) (text : String) :
    Holds { s with files := setFile (base.below (dirs ++ [name])) text s.files } base goals
      (written ++ [(dirs ++ [name], text)]) where
  files names nonempty other := by
    rw [file?, lookup_setFile, List.mem_append, List.mem_singleton]
    simp only [Location.below_inj]
    split
    next same =>
      subst same
      have absent : (dirs ++ [name], other) ∉ written := fun listed =>
        fresh (List.mem_map.mpr ⟨_, listed, rfl⟩)
      simp [absent, eq_comm]
    next differ =>
      rw [← file?, held.files names nonempty other]
      simp [differ]
  directories := held.directories
  placed := by
    rw [List.forall_mem_append, List.forall_mem_singleton]
    exact ⟨held.placed, mem⟩
  ways := by
    have keeps : s.Keeps { s with files := setFile (base.below (dirs ++ [name])) text s.files } :=
      fun _ there => there
    rw [List.forall_mem_append, List.forall_mem_singleton, List.dropLast_concat]
    exact ⟨fun file listed => enterAll_of_keeps keeps (held.ways file listed),
      enterAll_of_keeps keeps entered⟩

end Store

/-! ## Paths into the directory -/

/-- A path that leads from where another leads down names, and that a store takes. -/
structure Path.Below (out p : Path) (names : List String) : Prop where
  start : p.start = out.start
  parts : p.parts = out.parts ++ names
  closed : p.Closed
  fits : p.Fits

theorem Path.Below.cut {out p : Path} {dirs : List String} {name : String}
    (below : out.Below p (dirs ++ [name])) : p.parts = out.parts ++ dirs ++ [name] := by
  rw [below.parts, List.append_assoc]

/-- What a path leads to lies in the directory that the path has. -/
theorem Path.Below.exists_parent {out p : Path} {dirs : List String} {name : String}
    (below : out.Below p (dirs ++ [name])) :
    ∃ directory, p.parent? = some directory ∧ out.Below directory dirs := by
  obtain ⟨directory, found, begins, parts, closed, front⟩ := Path.exists_parent below.cut
  refine ⟨directory, found, begins.trans below.start, parts, closed, below.fits.of_front front ?_⟩
  rw [below.cut, parts]
  exact fun part mem => List.mem_append_left _ mem

/-- The components of a path into a directory. -/
theorem Path.Below.components_eq {out p : Path} {names : List String} (below : out.Below p names) :
    p.components = out.components ++ names.map ofPiece := by
  rw [Path.components_eq, Path.components_eq out, below.start, below.parts, List.map_append,
    List.append_assoc]

/-- Two paths into a directory are apart if their ways are. -/
theorem Path.Below.apart {out p q : Path} {names others : List String} (below : out.Below p names)
    (below' : out.Below q others) (h : Apart p.components q.components) : Apart names others := by
  rw [below.components_eq, below'.components_eq] at h
  exact ⟨fun front => h.1 ((List.prefix_append_right_inj _).mpr (front.map ofPiece)),
    fun front => h.2 ((List.prefix_append_right_inj _).mpr (front.map ofPiece))⟩

/-- Ways of paths into a directory lie side by side if no part of them leads up and none of them is
another or begins it. -/
theorem SideBySide.of_below {out : Path} (filled : ∀ goal ∈ goals, goal ≠ [])
    (named : ∀ goal ∈ goals, ∀ name ∈ goal, name ≠ "..")
    (placed : ∀ goal ∈ goals, ∃ p, out.Below p goal) (apart : goals.Pairwise Apart) :
    SideBySide goals where
  filled := filled
  named := named
  apart := apart
  counted goal mem name listed := by
    obtain ⟨p, below⟩ := placed goal mem
    exact Store.counts_of_mem_parts p name (below.parts ▸ List.mem_append_right _ listed)
  short goal mem name listed := by
    obtain ⟨p, below⟩ := placed goal mem
    exact below.fits.names name (below.parts ▸ List.mem_append_right _ listed)

namespace Store

variable {s t : Store} {base : Location} {written : List (List String × String)}
  {dirs : List String} {name : String} {out p directory : Path}

/-- A directory that is there, with nothing in it. -/
def Vacant (s : Store) (p : Path) : Prop :=
  ∃ base, s.enterAll (origin p) p.parts = .ok base ∧ ∀ names, names ≠ [] →
    s.file? (base.below names) = none ∧ s.hasDirectory (base.below names) = false

/-- The directory is there, and below it lies what was written. -/
structure Stocked (s : Store) (out : Path) (base : Location) (goals : List (List String))
    (written : List (List String × String)) : Prop where
  there : s.enterAll (origin out) out.parts = .ok base
  held : s.Holds base goals written

/-- The directory is there or can be made, and below it lies what was written. -/
def Ready (s : Store) (out : Path) (base : Location) (goals : List (List String))
    (written : List (List String × String)) : Prop :=
  ∃ t, s.reach (origin out) out.parts = some (t, base) ∧ t.Holds base goals written

theorem Stocked.ready (stocked : s.Stocked out base goals written) :
    s.Ready out base goals written :=
  ⟨s, reach_of_enterAll (counts_of_mem_parts out) stocked.there, stocked.held⟩

/-- Before the first delivery, a directory that is empty once it is made is ready. -/
theorem Vacant.ready (vacant : t.Vacant out) (made : s.makeDirectories out = .ok t)
    (short : ∀ part ∈ out.parts, isLongName part = false) (goals : List (List String)) :
    ∃ base, t.Stocked out base goals [] ∧ s.Ready out base goals [] := by
  obtain ⟨base, there, empty⟩ := vacant
  have held : t.Holds base goals [] := by
    refine ⟨fun names nonempty text => ?_, fun names nonempty found => ?_, nofun, nofun⟩
    · simp [(empty names nonempty).1]
    · rw [(empty names nonempty).2] at found
      cases found
  obtain ⟨d, down⟩ := reach_of_makeDirectories short made
  have entered := enterAll_of_reach (counts_of_mem_parts out) down
  rw [there] at entered
  cases entered
  exact ⟨base, ⟨there, held⟩, t, down, held⟩

/-- The directories on the way to a file are made, and the directory itself with them. -/
theorem Ready.makeDirectories (ready : s.Ready out base goals written) (side : SideBySide goals)
    (below : out.Below directory dirs) (way : OnTheWay goals dirs) :
    ∃ t, s.makeDirectories directory = .ok t ∧ t.Stocked out base goals written ∧
      t.enterAll base dirs = .ok (base.below dirs) := by
  obtain ⟨u, first, held⟩ := ready
  obtain ⟨t, second, held⟩ := held.reach side way
  have down : s.reach (origin directory) directory.parts = some (t, base.below dirs) := by
    rw [origin_eq below.start, below.parts, reach_append, first]
    exact second
  refine ⟨t, makeDirectories_of_reach below.fits below.closed down, ⟨?_, held⟩, ?_⟩
  · exact enterAll_of_keeps (keeps_of_reach second)
      (enterAll_of_reach (counts_of_mem_parts out) first)
  · exact enterAll_of_reach (fun name mem => (way.names side name mem).1) second

/-- The way of a path into the directory is gone from there. -/
theorem Stocked.enterAll_below (stocked : s.Stocked out base goals written)
    (below : out.Below p (dirs ++ [name])) :
    s.enterAll (origin p) (out.parts ++ dirs) = s.enterAll base dirs := by
  rw [origin_eq below.start, Store.enterAll_append, stocked.there]

/-- A text is put into its file. -/
theorem Stocked.writeFile (stocked : s.Stocked out base goals written) (side : SideBySide goals)
    (below : out.Below p (dirs ++ [name])) (mem : dirs ++ [name] ∈ goals)
    (fresh : dirs ++ [name] ∉ written.map Prod.fst)
    (entered : s.enterAll base dirs = .ok (base.below dirs)) (text : String) :
    ∃ t, s.writeFile p text = .ok t ∧
      t.Stocked out base goals (written ++ [(dirs ++ [name], text)]) := by
  have named : name ≠ ".." := side.named _ mem name (by simp)
  have vacant := stocked.held.hasDirectory_eq_false side mem
  rw [← Location.child_below] at vacant
  refine ⟨_, writeFile_eq below.fits below.closed below.cut named
    ((stocked.enterAll_below below).trans entered) vacant text, ?_, ?_⟩
  · exact enterAll_of_keeps (s := s) (fun _ there => there) stocked.there
  · rw [Location.child_below]
    exact stocked.held.addFile mem fresh entered text

/-- What a path leads to: the text that was put there, and no file is found if there was none. -/
theorem Stocked.readFile (stocked : s.Stocked out base goals written) (side : SideBySide goals)
    (below : out.Below p goal) (mem : goal ∈ goals) :
    (∀ text, (goal, text) ∈ written → s.readFile p = .ok text) ∧
      ((∀ text, (goal, text) ∉ written) → s.readFile p = .error .notFound) := by
  obtain ⟨dirs, name, rfl⟩ := List.eq_nil_or_concat' goal |>.resolve_left (side.filled goal mem)
  have named : name ≠ ".." := side.named _ mem name (by simp)
  have vacant := stocked.held.hasDirectory_eq_false side mem
  have file := stocked.held.files (dirs ++ [name]) (by simp)
  rw [readFile_eq below.fits below.closed below.cut named, stocked.enterAll_below below]
  constructor
  · intro text listed
    have entered := stocked.held.ways _ listed
    rw [List.dropLast_concat] at entered
    rw [entered]
    simp [vacant, (file text).mpr listed]
  · intro absent
    rcases stocked.held.enterAll side (onTheWay_of_concat mem) with entered | missing
    · have none : s.file? (base.below (dirs ++ [name])) = none :=
        Option.eq_none_iff_forall_ne_some.mpr fun text found => absent text ((file text).mp found)
      rw [entered]
      simp [vacant, none]
    · rw [missing]

end Store

end NovelScript
