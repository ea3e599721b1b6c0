import NovelScript.CommandLine.Store
import NovelScript.Proofs.Project.Parents

/-!
# Making directories — down from the top instead of up from the end

A store makes the directories of a path from its end: where the last one cannot be made because
another is missing, it makes the directory of the path first and then tries again. What this comes
to is simpler seen from the top (`Store.reach`): go down part by part, and make what is missing. The
detour over texts is gone there, and with it the fuel; how a path is written does not matter any
more, only its beginning and its parts.

The way back up can end early. A path that has a single dot behind its last part is refused unless
what it names is there, so only a path that ends where its last part does (`Path.Closed`) can always
be made from the top.

## What is proved

`Store.makeDirectories_of_reach`: for a path that ends in its last part, making its directories is
`Store.reach`. `Store.reach_of_makeDirectories`: for any path, where they were made, `Store.reach`
makes the same. `Store.writeFile_eq`, `Store.readFile_eq`: files, found part by part.
-/

set_option autoImplicit false

namespace NovelScript

/-- A path that a store takes: no zero in it, and neither itself nor one of its parts too long. -/
structure Path.Fits (p : Path) : Prop where
  noZero : p.text.toList.contains '\x00' = false
  short : p.text.utf8ByteSize ≤ maxPathBytes
  names : ∀ part ∈ p.parts, isLongName part = false

instance (p : Path) : Decidable p.Fits :=
  decidable_of_iff (p.text.toList.contains '\x00' = false ∧ p.text.utf8ByteSize ≤ maxPathBytes ∧
      ∀ part ∈ p.parts, isLongName part = false)
    ⟨fun ⟨noZero, short, names⟩ => ⟨noZero, short, names⟩,
      fun ⟨noZero, short, names⟩ => ⟨noZero, short, names⟩⟩

/-- What is written in front of a path fits if the path does and has all of its parts. -/
theorem Path.Fits.of_front {p front : Path} (fits : p.Fits)
    (text : front.text.toList <+: p.text.toList) (parts : ∀ part ∈ front.parts, part ∈ p.parts) :
    front.Fits := by
  obtain ⟨rest, whole⟩ := text
  have text : p.text = front.text ++ String.ofList rest := by
    rw [← String.toList_inj, String.toList_append, String.toList_ofList, whole]
  obtain ⟨noZero, short, names⟩ := fits
  refine ⟨?_, ?_, fun part mem => names part (parts part mem)⟩
  · rw [← whole, List.contains_append, Bool.or_eq_false_iff] at noZero
    exact noZero.1
  · rw [text, String.utf8ByteSize_append] at short
    omega

namespace Store

variable {s t : Store} {l d : Location} {part : String} {parts : List String}

/-! ## Down from the top -/

/-- Goes down into a part of a directory, which is made if it is missing: the store after that, and
the place that is reached. A file in the way and a name that is too long stop it. -/
def descend (s : Store) (l : Location) (part : String) : Option (Store × Location) :=
  if part = ".." then some (s, l.up)
  else if isLongName part then none
  else if s.hasDirectory (l.child part) then some (s, l.child part)
  else if (s.file? (l.child part)).isSome then none
  else some ({ s with directories := s.directories ++ [l.child part] }, l.child part)

/-- Goes down part by part. -/
def reach (s : Store) (l : Location) : List String → Option (Store × Location)
  | [] => some (s, l)
  | part :: rest => (s.descend l part).bind fun (t, d) => t.reach d rest

/-- The ways down. -/
inductive Descends (s : Store) (l : Location) : String → Store → Location → Prop
  | up : Descends s l ".." s l.up
  | there {part : String} : part ≠ ".." → isLongName part = false →
      s.hasDirectory (l.child part) = true → Descends s l part s (l.child part)
  | made {part : String} : part ≠ ".." → isLongName part = false →
      s.hasDirectory (l.child part) = false → s.file? (l.child part) = none →
      Descends s l part { s with directories := s.directories ++ [l.child part] } (l.child part)

theorem descend_eq_some_iff : s.descend l part = some (t, d) ↔ Descends s l part t d := by
  unfold descend
  constructor
  · intro h
    split at h
    next up => cases h; subst up; exact .up
    next name =>
      split at h
      next => cases h
      next short =>
        split at h
        next there => cases h; exact .there name (by simpa using short) there
        next missing =>
          split at h
          next => cases h
          next vacant =>
            cases h
            exact .made name (by simpa using short) (by simpa using missing) (by simpa using vacant)
  · intro h
    cases h with
    | up => rw [if_pos rfl]
    | there name short there => rw [if_neg name, if_neg (by simp [short]), if_pos there]
    | made name short missing vacant =>
      rw [if_neg name, if_neg (by simp [short]), if_neg (by simp [missing]),
        if_neg (by simp [vacant])]

theorem reach_cons (s : Store) (l : Location) (part : String) (rest : List String) :
    s.reach l (part :: rest) = (s.descend l part).bind fun (t, d) => t.reach d rest := rfl

theorem reach_append (s : Store) (l : Location) (front back : List String) :
    s.reach l (front ++ back) = (s.reach l front).bind fun (t, d) => t.reach d back := by
  induction front generalizing s l with
  | nil => rfl
  | cons part rest ih =>
    rw [List.cons_append, reach_cons, reach_cons, Option.bind_assoc]
    simp only [ih]

theorem reach_singleton (s : Store) (l : Location) (part : String) :
    s.reach l [part] = s.descend l part := by
  rw [reach_cons]
  cases s.descend l part <;> rfl

/-- Of two parts of a way, the first one was gone before the second. -/
theorem exists_of_reach_append {front back : List String}
    (h : s.reach l (front ++ back) = some (t, d)) :
    ∃ u m, s.reach l front = some (u, m) ∧ u.reach m back = some (t, d) := by
  rw [reach_append] at h
  obtain ⟨⟨u, m⟩, first, second⟩ := Option.bind_eq_some_iff.mp h
  exact ⟨u, m, first, second⟩

/-- A store has all directories of another. -/
def Keeps (s t : Store) : Prop := ∀ l, s.hasDirectory l = true → t.hasDirectory l = true

theorem keeps_addDirectory (s : Store) (l : Location) :
    s.Keeps { s with directories := s.directories ++ [l] } := by
  intro place there
  rw [hasDirectory, Bool.or_eq_true, List.contains_iff_mem] at there ⊢
  exact there.imp_right (List.mem_append_left _)

theorem Descends.keeps (h : Descends s l part t d) : s.Keeps t := by
  cases h with
  | up | there => exact fun _ there => there
  | made => exact keeps_addDirectory s _

/-- What is there stays there. -/
theorem keeps_of_reach (h : s.reach l parts = some (t, d)) : s.Keeps t := by
  induction parts generalizing s l with
  | nil => cases h; exact fun _ there => there
  | cons part rest ih =>
    obtain ⟨⟨u, m⟩, first, second⟩ := Option.bind_eq_some_iff.mp h
    exact fun l there => ih second l ((descend_eq_some_iff.mp first).keeps l there)

/-! ## The way as a store looks it up -/

theorem enterAll_append (s : Store) (l : Location) (front back : List String) :
    s.enterAll l (front ++ back) =
      match s.enterAll l front with
      | .ok d => s.enterAll d back
      | .error e => .error e := by
  induction front generalizing l with
  | nil => rfl
  | cons part rest ih =>
    rw [List.cons_append, enterAll, enterAll]
    cases s.enter l part with
    | ok next => exact ih next
    | error e => rfl

/-- Pieces that do not count lead nowhere else. -/
theorem enterAll_filter_counts (s : Store) (l : Location) (pieces : List String) :
    s.enterAll l (pieces.filter Path.counts) = s.enterAll l pieces := by
  induction pieces generalizing l with
  | nil => rfl
  | cons piece rest ih =>
    by_cases counted : Path.counts piece = true
    · rw [List.filter_cons_of_pos counted, enterAll, enterAll]
      cases s.enter l piece with
      | ok next => exact ih next
      | error e => rfl
    · have stays : s.enter l piece = .ok l := by
        rw [enter, if_pos (by simpa using counted)]
      rw [List.filter_cons_of_neg counted, ih, enterAll, stays]

theorem enter_of_counts (counted : Path.counts part = true) :
    s.enter l part =
      if part = ".." then .ok l.up
      else if isLongName part then .error .nameTooLong
      else if s.hasDirectory (l.child part) then .ok (l.child part)
      else if (s.file? (l.child part)).isSome then .error .notDirectory
      else .error .notFound := by
  rw [enter, if_neg (by simp [counted])]

/-- What can be entered can be entered where there are more directories. -/
theorem enter_of_keeps (keeps : s.Keeps t) (h : s.enter l part = .ok d) :
    t.enter l part = .ok d := by
  unfold enter at h ⊢
  split at h
  next blank => rw [if_pos blank]; exact h
  next counted =>
    rw [if_neg counted]
    split at h
    next up => rw [if_pos up]; exact h
    next name =>
      rw [if_neg name]
      split at h
      next => cases h
      next short =>
        rw [if_neg short]
        split at h
        next there => rw [if_pos (keeps _ there)]; exact h
        next => split at h <;> cases h

theorem enterAll_of_keeps (keeps : s.Keeps t) (h : s.enterAll l parts = .ok d) :
    t.enterAll l parts = .ok d := by
  induction parts generalizing l with
  | nil => exact h
  | cons part rest ih =>
    rw [enterAll] at h ⊢
    cases entered : s.enter l part with
    | error e => rw [entered] at h; cases h
    | ok next =>
      rw [entered] at h
      rw [enter_of_keeps keeps entered]
      exact ih h

/-- What was gone down into can be entered. -/
theorem Descends.enter (h : Descends s l part t d) (counted : Path.counts part = true) :
    t.enter l part = .ok d := by
  rw [enter_of_counts counted]
  cases h with
  | up => rw [if_pos rfl]
  | there name short there => rw [if_neg name, if_neg (by simp [short]), if_pos there]
  | made name short missing vacant =>
    have there : hasDirectory { s with directories := s.directories ++ [l.child part] }
        (l.child part) = true := by
      rw [hasDirectory, Bool.or_eq_true, List.contains_iff_mem]
      exact .inr (List.mem_append_right _ List.mem_cons_self)
    rw [if_neg name, if_neg (by simp [short]), if_pos there]

/-- What can be entered needs nothing made. -/
theorem descend_of_enter (counted : Path.counts part = true) (h : s.enter l part = .ok d) :
    s.descend l part = some (s, d) := by
  rw [enter_of_counts counted] at h
  unfold descend
  split
  next up => rw [if_pos up] at h; cases h; rfl
  next name =>
    rw [if_neg name] at h
    split
    next long => rw [if_pos long] at h; cases h
    next short =>
      rw [if_neg short] at h
      split
      next there => rw [if_pos there] at h; cases h; rfl
      next missing =>
        rw [if_neg missing] at h
        split at h <;> cases h

/-- What has to be made was not found. -/
theorem Descends.notFound {e : FileError} (h : Descends s l part t d)
    (counted : Path.counts part = true) (refused : s.enter l part = .error e) : e = .notFound := by
  rw [enter_of_counts counted] at refused
  cases h with
  | up => rw [if_pos rfl] at refused; cases refused
  | there name short there =>
    rw [if_neg name, if_neg (by simp [short]), if_pos there] at refused
    cases refused
  | made name short missing vacant =>
    rw [if_neg name, if_neg (by simp [short]), if_neg (by simp [missing]),
      if_neg (by simp [vacant])] at refused
    cases refused
    rfl

variable (counted : ∀ part ∈ parts, Path.counts part = true)
include counted

/-- The way down is there afterwards. -/
theorem enterAll_of_reach (h : s.reach l parts = some (t, d)) : t.enterAll l parts = .ok d := by
  induction parts generalizing s l with
  | nil => cases h; rfl
  | cons part rest ih =>
    obtain ⟨own, others⟩ := List.forall_mem_cons.mp counted
    obtain ⟨⟨u, m⟩, first, second⟩ := Option.bind_eq_some_iff.mp h
    have entered := (descend_eq_some_iff.mp first).enter own
    rw [enterAll, enter_of_keeps (keeps_of_reach second) entered]
    exact ih others second

/-- A way that is there needs nothing made. -/
theorem reach_of_enterAll (h : s.enterAll l parts = .ok d) : s.reach l parts = some (s, d) := by
  induction parts generalizing l with
  | nil => cases h; rfl
  | cons part rest ih =>
    obtain ⟨own, others⟩ := List.forall_mem_cons.mp counted
    rw [enterAll] at h
    cases entered : s.enter l part with
    | error e => rw [entered] at h; cases h
    | ok next =>
      rw [entered] at h
      rw [reach_cons, descend_of_enter own entered]
      exact ih others h

/-- Where a way can be made but is not there, something on it was not found. -/
theorem notFound_of_reach {e : FileError} (h : s.reach l parts = some (t, d))
    (refused : s.enterAll l parts = .error e) : e = .notFound := by
  induction parts generalizing s l with
  | nil => cases refused
  | cons part rest ih =>
    obtain ⟨own, others⟩ := List.forall_mem_cons.mp counted
    obtain ⟨⟨u, m⟩, first, second⟩ := Option.bind_eq_some_iff.mp h
    rw [enterAll] at refused
    cases entered : s.enter l part with
    | error other =>
      rw [entered] at refused
      cases refused
      exact (descend_eq_some_iff.mp first).notFound own entered
    | ok next =>
      rw [entered] at refused
      rw [descend_of_enter own entered] at first
      cases first
      exact ih others second refused

omit counted

/-! ## Where paths lead -/

variable {p : Path} {init : List String} {last : String}

theorem counts_of_mem_parts (p : Path) : ∀ part ∈ p.parts, Path.counts part = true :=
  fun _ mem => (List.mem_filter.mp mem).2

/-- Paths that begin alike are looked up from one place. -/
theorem origin_eq {q : Path} (same : p.start = q.start) : origin p = origin q := by
  rw [origin, origin, same]

/-- Empty pieces at the end do not count. -/
theorem filter_counts_of_blanks (pieces : List String) :
    (pieces.reverse.dropWhile (· = "")).reverse.filter Path.counts =
      pieces.filter Path.counts := by
  have front : ∀ l : List String,
      (l.dropWhile (· = "")).filter Path.counts = l.filter Path.counts := by
    intro l
    induction l with
    | nil => rfl
    | cons piece rest ih =>
      by_cases blank : piece = ""
      · subst blank
        exact ih
      · rw [List.dropWhile_cons_of_neg (by simpa using blank)]
  rw [List.filter_reverse, front, List.filter_reverse, List.reverse_reverse]

/-- Where a path with parts leads, if something counts at its end. -/
theorem locate_of_closed (fits : p.Fits) (closed : p.Closed) (cut : p.parts = init ++ [last]) :
    s.locate p =
      match s.enterAll (origin p) init with
      | .error e => .error e
      | .ok d =>
        if last = ".." then .ok (.directory d.up) else .ok (.name (d.child last) false) := by
  obtain blank | ⟨before, final, pieces, counted⟩ := closed
  · rw [Path.parts, blank] at cut
    exact absurd cut (by simp [Path.counts])
  · rw [Path.parts, pieces, List.filter_append, List.filter_cons_of_pos counted,
      List.filter_nil] at cut
    obtain ⟨rfl, single⟩ := List.append_inj' cut rfl
    obtain rfl := List.singleton_inj.mp single
    have filled : final ≠ "" := by
      rintro rfl
      exact absurd counted (by decide)
    have noDot : final ≠ "." := by
      rintro rfl
      exact absurd counted (by decide)
    have text : p.text ≠ "" := by
      intro none
      rw [Path.pieces, none] at pieces
      have single : [] ++ [""] = before ++ [final] := pieces
      exact filled (List.singleton_inj.mp (List.append_inj' single rfl).2).symm
    have trimmed : (p.pieces.reverse.dropWhile (· = "")).reverse = before ++ [final] := by
      rw [pieces, List.reverse_append, List.reverse_singleton, List.singleton_append,
        List.dropWhile_cons_of_neg (by simpa using filled)]
      simp
    rw [locate, if_neg (Bool.eq_false_iff.mp fits.noZero), if_neg text,
      if_neg (Nat.not_lt.mpr fits.short), trimmed, enterAll_filter_counts]
    dsimp only
    rw [List.getLast?_concat, List.dropLast_concat]
    dsimp only
    cases s.enterAll (origin p) before with
    | error e => rfl
    | ok d =>
      dsimp only
      rw [if_neg noDot, pieces, List.getLast?_concat,
        show (some final == some "") = false by simpa using filled]

/-- Where a path without parts leads: to the place that it is looked up from, if it has a text. -/
theorem locate_of_beginning (fits : p.Fits) (blank : p.pieces = [""]) :
    s.locate p = if p.text = "" then .error .notFound else .ok (.directory (origin p)) := by
  rw [locate, if_neg (Bool.eq_false_iff.mp fits.noZero), if_neg (Nat.not_lt.mpr fits.short), blank]
  rfl

/-! ## Making directories -/

theorem isLong_child (l : Location) (name : String) :
    (l.child name).isLong = isLongName name := by
  simp [Location.isLong, Location.child]

/-- A directory that is the only one missing is made. -/
theorem settle_of_descend (fits : p.Fits) (closed : p.Closed) (cut : p.parts = init ++ [last])
    (entered : s.enterAll (origin p) init = .ok l) (down : s.descend l last = some (t, d)) :
    s.settle p (s.makeDirectory p) = .ok t := by
  have place := locate_of_closed (s := s) fits closed cut
  rw [entered] at place
  dsimp only at place
  rw [makeDirectory, place]
  rcases descend_eq_some_iff.mp down with _ | ⟨name, short, there⟩ | ⟨name, short, missing, vacant⟩
  · rw [if_pos rfl] at place ⊢
    simp [settle, isDirectory, place]
  · rw [if_neg name] at place ⊢
    simp [settle, isDirectory, place, there]
  · rw [if_neg name]
    simp [settle, missing, vacant, isLong_child, short]

/-- A path in a directory that is not found cannot be made. -/
theorem settle_of_notFound (fits : p.Fits) (closed : p.Closed) (cut : p.parts = init ++ [last])
    (missing : s.enterAll (origin p) init = .error .notFound) :
    s.settle p (s.makeDirectory p) = .error .notFound := by
  have place := locate_of_closed (s := s) fits closed cut
  rw [missing] at place
  simp [makeDirectory, place, settle]

/-- A path with a text and a directory is made at once, or in its directory. -/
theorem makeDirectoriesWithin_of_parent {directory : Path} (levels : Nat) (filled : p.text ≠ "")
    (parent : p.parent? = some directory) :
    s.makeDirectoriesWithin (levels + 1) p =
      match s.settle p (s.makeDirectory p) with
      | .error .notFound =>
        match makeDirectoriesWithin levels s directory with
        | .error e => .error e
        | .ok s => s.settle p (s.makeDirectory p)
      | result => result := by
  rw [makeDirectoriesWithin, parent]
  split
  next => exact absurd ‹_› filled
  next none _ => cases none
  next found _ => cases found; rfl

/-- A path without a text or without a directory is there. -/
theorem makeDirectoriesWithin_of_no_parent (levels : Nat)
    (top : p.text = "" ∨ p.parent? = none) : s.makeDirectoriesWithin (levels + 1) p = .ok s := by
  rw [makeDirectoriesWithin]
  split
  next => rfl
  next => rfl
  next found filled =>
    rcases top with empty | none
    · exact absurd empty filled
    · rw [none] at found
      cases found

/-- With levels enough, making the directories of a path is going down. -/
theorem makeDirectoriesWithin_of_reach {levels : Nat} (enough : p.text.length < levels)
    (fits : p.Fits) (closed : p.Closed) (down : s.reach (origin p) p.parts = some (t, d)) :
    s.makeDirectoriesWithin levels p = .ok t := by
  induction levels generalizing p t d with
  | zero => exact absurd enough (Nat.not_lt_zero _)
  | succ levels ih =>
    rcases List.eq_nil_or_concat p.parts with none | ⟨init, last, cut⟩
    · -- Without parts the path is a beginning, and that is there.
      rw [none] at down
      cases down
      obtain blank | ⟨before, final, pieces, counted⟩ := closed
      · cases parent : p.parent? with
        | none => exact makeDirectoriesWithin_of_no_parent levels (.inr parent)
        | some directory =>
          by_cases filled : p.text = ""
          · exact makeDirectoriesWithin_of_no_parent levels (.inl filled)
          · have place := locate_of_beginning (s := s) fits blank
            rw [if_neg filled] at place
            rw [makeDirectoriesWithin_of_parent levels filled parent]
            simp [makeDirectory, place, settle, isDirectory]
      · have mem : final ∈ p.parts := List.mem_filter.mpr ⟨by rw [pieces]; simp, counted⟩
        rw [none] at mem
        cases mem
    · rw [List.concat_eq_append] at cut
      rw [cut] at down
      obtain ⟨u, m, first, second⟩ := exists_of_reach_append down
      rw [reach_singleton] at second
      obtain ⟨directory, parent, begins, parts, closed', front⟩ := Path.exists_parent cut
      have counted : ∀ part ∈ init, Path.counts part = true := fun part mem =>
        counts_of_mem_parts p part (cut ▸ List.mem_append_left _ mem)
      have filled : p.text ≠ "" := fun empty => by
        rw [Path.parts_of_empty empty] at cut
        exact absurd cut (by simp)
      rw [makeDirectoriesWithin_of_parent levels filled parent]
      cases entered : s.enterAll (origin p) init with
      | ok l =>
        rw [reach_of_enterAll counted entered] at first
        cases first
        rw [settle_of_descend fits closed cut entered second]
      | error e =>
        -- The directory is missing: it is made first, and then the path in it.
        obtain rfl := notFound_of_reach counted first entered
        have shorter := Path.length_lt_of_front (by rw [cut, parts]) front
        have made := @ih u m directory (by omega)
          (fits.of_front front fun part mem => cut ▸ List.mem_append_left _ (parts ▸ mem)) closed'
          (by rw [origin_eq begins, parts, first])
        rw [settle_of_notFound fits closed cut entered]
        dsimp only
        rw [made]
        dsimp only
        rw [settle_of_descend fits closed cut (enterAll_of_reach counted first) second]

/-- Making the directories of a path that ends in its last part is going down. -/
theorem makeDirectories_of_reach (fits : p.Fits) (closed : p.Closed)
    (down : s.reach (origin p) p.parts = some (t, d)) : s.makeDirectories p = .ok t :=
  makeDirectoriesWithin_of_reach (Nat.lt_succ_self _) fits closed down

/-- Where a path leads is gone down to, however the path is written. -/
theorem descends_of_locate {target : Target} (h : s.locate p = .ok target) :
    (∃ d, target = .directory d ∧ s.enterAll (origin p) p.parts = .ok d) ∨
      ∃ init last d slash, p.parts = init ++ [last] ∧ last ≠ ".." ∧
        s.enterAll (origin p) init = .ok d ∧ target = .name (d.child last) slash := by
  unfold locate at h
  split at h
  next => cases h
  next =>
    split at h
    next => cases h
    next =>
      split at h
      next => cases h
      next =>
        have parts := filter_counts_of_blanks p.pieces
        generalize trimmed : (p.pieces.reverse.dropWhile (· = "")).reverse = pieces at parts h
        dsimp only at h
        rcases List.eq_nil_or_concat pieces with rfl | ⟨init, last, rfl⟩
        · cases h
          exact .inl ⟨_, rfl, by rw [Path.parts, ← parts]; rfl⟩
        · rw [List.concat_eq_append] at trimmed parts h
          rw [List.getLast?_concat, List.dropLast_concat] at h
          dsimp only at h
          rw [List.filter_append] at parts
          cases entered : s.enterAll (origin p) init with
          | error e => rw [entered] at h; cases h
          | ok d =>
            rw [entered] at h
            dsimp only at h
            rw [← enterAll_filter_counts] at entered
            split at h
            next dot =>
              subst dot
              cases h
              refine .inl ⟨_, rfl, ?_⟩
              rw [Path.parts, ← parts, enterAll_append, entered]
              rfl
            next noDot =>
              have filled : last ≠ "" := by
                have first := List.head?_dropWhile_not (fun x => decide (x = "")) p.pieces.reverse
                rw [← List.reverse_reverse (List.dropWhile _ _), trimmed,
                  List.reverse_append] at first
                simpa using first
              have counted : Path.counts last = true := by simp [Path.counts, filled, noDot]
              rw [List.filter_cons_of_pos counted, List.filter_nil] at parts
              split at h
              next up =>
                subst up
                cases h
                refine .inl ⟨_, rfl, ?_⟩
                rw [Path.parts, ← parts, enterAll_append, entered]
                rfl
              next name =>
                cases h
                exact .inr ⟨_, last, d, _, parts.symm, name, entered, rfl⟩

/-- A directory that was made, or was there, is gone down to. -/
theorem reach_of_settle (names : ∀ part ∈ p.parts, isLongName part = false)
    (h : s.settle p (s.makeDirectory p) = .ok t) :
    ∃ d, s.reach (origin p) p.parts = some (t, d) := by
  cases place : s.locate p with
  | error e =>
    rw [makeDirectory, place] at h
    cases e with
    | alreadyExists => simp [settle, isDirectory, place] at h
    | _ => cases h
  | ok target =>
    rcases descends_of_locate place with
      ⟨d, rfl, entered⟩ | ⟨init, last, d, slash, cut, name, entered, rfl⟩
    · simp only [makeDirectory, place, settle, isDirectory, if_pos] at h
      cases h
      exact ⟨d, reach_of_enterAll (counts_of_mem_parts p) entered⟩
    · have counted : ∀ part ∈ init, Path.counts part = true := fun part mem =>
        counts_of_mem_parts p part (cut ▸ List.mem_append_left _ mem)
      have short : isLongName last = false := names last (by rw [cut]; simp)
      refine ⟨d.child last, ?_⟩
      rw [cut, reach_append, reach_of_enterAll counted entered]
      show s.reach d [last] = _
      rw [reach_singleton, descend_eq_some_iff]
      simp only [makeDirectory, place, settle, isDirectory] at h
      cases there : s.hasDirectory (d.child last) with
      | true =>
        simp [there] at h
        subst h
        exact .there name short there
      | false =>
        cases file : s.file? (d.child last) with
        | some text => simp [there, file] at h
        | none =>
          simp [there, file, isLong_child, short] at h
          subst h
          exact .made name short there file

/-- Where the directories of a path were made, going down makes the same. -/
theorem reach_of_makeDirectoriesWithin {levels : Nat}
    (names : ∀ part ∈ p.parts, isLongName part = false)
    (h : s.makeDirectoriesWithin levels p = .ok t) :
    ∃ d, s.reach (origin p) p.parts = some (t, d) := by
  induction levels generalizing p t with
  | zero => exact reach_of_settle names h
  | succ levels ih =>
    cases parent : p.parent? with
    | none =>
      rw [makeDirectoriesWithin_of_no_parent levels (.inr parent)] at h
      cases h
      exact ⟨_, by rw [Path.parts_of_parent?.1 parent]; rfl⟩
    | some directory =>
      by_cases empty : p.text = ""
      · rw [makeDirectoriesWithin_of_no_parent levels (.inl empty)] at h
        cases h
        exact ⟨_, by rw [Path.parts_of_empty empty]; rfl⟩
      · rw [makeDirectoriesWithin_of_parent levels empty parent] at h
        split at h
        next =>
          split at h
          next => cases h
          next u made =>
            -- The directory was made first, so the rest of the way is gone from there.
            obtain ⟨d, down⟩ := reach_of_settle names h
            rcases List.eq_nil_or_concat p.parts with none | ⟨init, last, cut⟩
            · have others := Path.parts_of_parent?.2 directory parent none
              obtain ⟨m, first⟩ := ih (by rw [others]; exact fun _ mem => nomatch mem) made
              rw [others] at first
              cases first
              exact ⟨d, down⟩
            · rw [List.concat_eq_append] at cut
              obtain ⟨_, found, begins, parts, -⟩ := Path.exists_parent cut
              cases parent.symm.trans found
              have front : ∀ part ∈ init, part ∈ p.parts := fun part mem =>
                cut ▸ List.mem_append_left _ mem
              obtain ⟨m, first⟩ := ih (by rw [parts]; exact fun _ mem => names _ (front _ mem)) made
              rw [origin_eq begins, parts] at first
              have there := reach_of_enterAll (fun _ mem => counts_of_mem_parts p _ (front _ mem))
                (enterAll_of_reach (fun _ mem => counts_of_mem_parts p _ (front _ mem)) first)
              rw [cut, reach_append, there] at down
              exact ⟨d, by rw [cut, reach_append, first]; exact down⟩
        next => exact reach_of_settle names h

/-- Where the directories of a path were made, going down makes the same. -/
theorem reach_of_makeDirectories (names : ∀ part ∈ p.parts, isLongName part = false)
    (h : s.makeDirectories p = .ok t) : ∃ d, s.reach (origin p) p.parts = some (t, d) :=
  reach_of_makeDirectoriesWithin names h

/-! ## Files -/

/-- A text goes into the file that a path names, unless that is a directory. -/
theorem writeFile_eq (fits : p.Fits) (closed : p.Closed) (cut : p.parts = init ++ [last])
    (name : last ≠ "..") (entered : s.enterAll (origin p) init = .ok d)
    (vacant : s.hasDirectory (d.child last) = false) (text : String) :
    s.writeFile p text = .ok { s with files := setFile (d.child last) text s.files } := by
  have short : isLongName last = false := fits.names last (by rw [cut]; simp)
  rw [writeFile, locate_of_closed fits closed cut, entered]
  dsimp only
  rw [if_neg name]
  simp [vacant, isLong_child, short]

/-- The text that a path names is that of the file where the path leads. -/
theorem readFile_eq (fits : p.Fits) (closed : p.Closed) (cut : p.parts = init ++ [last])
    (name : last ≠ "..") :
    s.readFile p =
      match s.enterAll (origin p) init with
      | .error e => .error e
      | .ok d =>
        if s.hasDirectory (d.child last) then .error .isDirectory
        else (s.file? (d.child last)).elim (.error .notFound) .ok := by
  have short : isLongName last = false := fits.names last (by rw [cut]; simp)
  rw [readFile, locate_of_closed fits closed cut]
  cases s.enterAll (origin p) init with
  | error e => rfl
  | ok d =>
    dsimp only
    rw [if_neg name]
    dsimp only
    split
    next => rfl
    next => cases s.file? (d.child last) <;> simp [isLong_child, short]

end Store

end NovelScript
