import Mathlib.Data.List.Nodup
import NovelScript.CommandLine.Plan
import NovelScript.Proofs.CommandLine.Deliveries
import NovelScript.Proofs.Project.CommonDirectory

/-!
# Outputs — what a project leaves behind

The plan for a project writes one file for every script that succeeded and the globals file last,
each after the directories on the way to it were made. The plan is carried out on a store here, so
a directory that cannot be made and a file that cannot be written end it early.

A script's output lies where its source lies, below the output directory. In JSON form the extension
of a source is replaced by another, and then two sources may have one output, or one output may be
in the way of another's directory. Nor is the name of the globals file kept for it: a script may
have an output of that name in that place, and the globals are written over it, or a directory, and
they cannot be written at all.

## What is proved

`outputs_hold`: where none of this happens, no step on files fails, every output is in its place
after the run and holds its own text, and scripts that failed leave none. `outputs_lost`: each of
them loses an output.
-/

set_option autoImplicit false

namespace NovelScript

/-- A source as a path of its own, with the extension of the format. -/
def ownOutput (format : OutputFormat) (source : String) : Path :=
  match format with
  | .text => ⟨source⟩
  | .json => (Path.mk source).withExtension "json"

/-- Where the output of a source goes, below the output directory. -/
def relativeOutput (format : OutputFormat) (source : String) : List Path.Component :=
  match format with
  | .text => (Path.mk source).components
  | .json => ((Path.mk source).withExtension "json").components

theorem relativeOutput_eq (format : OutputFormat) (source : String) :
    relativeOutput format source = (ownOutput format source).components := by
  cases format <;> rfl

/-- Whether a component is a name. -/
def Path.Component.isName : Component → Bool
  | .name _ => true
  | _ => false

/-- A path of names alone, and of one at least. -/
structure Path.IsNames (p : Path) : Prop where
  nonempty : p.components ≠ []
  names : ∀ component ∈ p.components, component.isName

instance (p : Path) : Decidable p.IsNames :=
  decidable_of_iff (p.components ≠ [] ∧ ∀ component ∈ p.components, component.isName)
    ⟨fun ⟨nonempty, names⟩ => ⟨nonempty, names⟩, fun ⟨nonempty, names⟩ => ⟨nonempty, names⟩⟩

/-- A path of names begins plainly and has a name. -/
theorem Path.IsNames.plain {p : Path} (names : p.IsNames) :
    p.start = .plain ∧ Path.HasName p.pieces := by
  obtain ⟨nonempty, names⟩ := names
  have plain : p.start = .plain := by
    cases begins : p.start with
    | plain => rfl
    | root | current =>
      have isName := names _ (by rw [components, begins]; exact List.mem_cons_self)
      cases isName
  refine ⟨plain, ?_⟩
  rw [components, plain] at nonempty
  obtain ⟨component, mem⟩ := List.exists_mem_of_ne_nil _ nonempty
  obtain ⟨piece, counted, -⟩ := List.mem_map.mp mem
  exact ⟨piece, List.mem_filter.mp counted⟩

/-- The parts of a path of names: they are its components, and none of them leads up. -/
theorem Path.IsNames.parts {p : Path} (names : p.IsNames) :
    p.components = p.parts.map ofPiece ∧ p.parts ≠ [] ∧ ∀ part ∈ p.parts, part ≠ ".." := by
  have own : p.components = p.parts.map ofPiece := by
    rw [components_eq, names.plain.1]
    rfl
  refine ⟨own, fun none => names.nonempty (by rw [own, none]; rfl), ?_⟩
  rintro part mem rfl
  have isName := names.names _ (by rw [own]; exact List.mem_map.mpr ⟨_, mem, rfl⟩)
  cases isName

namespace Outcome

variable {o : Outcome} {out : Path} {format : OutputFormat}

/-- The output of a script is its source, with the extension of the format, behind the output
directory. -/
theorem outputPath_eq (names : (Path.mk o.source).IsNames) (out : Path) (format : OutputFormat) :
    o.outputPath out format = out.join (ownOutput format o.source) ∧
      (ownOutput format o.source).start = .plain := by
  obtain ⟨plain, named⟩ := names.plain
  cases format with
  | text => exact ⟨rfl, plain⟩
  | json =>
    obtain ⟨joined, plain', -⟩ := Path.withExtension_join out plain named "json"
    exact ⟨joined, plain'⟩

/-- The output of a script lies below the output directory. -/
theorem components_outputPath (names : (Path.mk o.source).IsNames) (out : Path)
    (format : OutputFormat) :
    (o.outputPath out format).components = out.components ++ relativeOutput format o.source := by
  obtain ⟨joined, plain⟩ := outputPath_eq names out format
  rw [joined, Path.components_join out plain, relativeOutput_eq]

/-- The way from the output directory to the output of a script. -/
def way (o : Outcome) (format : OutputFormat) : List String := (ownOutput format o.source).parts

/-- The output of a script, as a path into the output directory. -/
theorem below_outputPath (names : (Path.mk o.source).IsNames)
    (own : (ownOutput format o.source).IsNames) (closed : (ownOutput format o.source).Closed)
    (fits : (o.outputPath out format).Fits) :
    out.Below (o.outputPath out format) (o.way format) := by
  obtain ⟨joined, plain⟩ := outputPath_eq names out format
  obtain ⟨init, last, ends, counted⟩ := closed.exists_last own.parts.2.1
  obtain ⟨begins, parts, closed⟩ := Path.parts_join out plain
  rw [joined] at fits ⊢
  exact ⟨begins, parts, closed init last ends counted, fits⟩

end Outcome

namespace RunResult

variable {r r' r'' : RunResult} {first second : List Step}

/-- Steps lead from one result to another, and none of them is the last. -/
def Passes (r : RunResult) (steps : List Step) (r' : RunResult) : Prop :=
  ∀ exit rest, after exit r (steps ++ rest) = after exit r' rest

theorem Passes.append (h : r.Passes first r') (h' : r'.Passes second r'') :
    r.Passes (first ++ second) r'' := by
  intro exit rest
  rw [List.append_assoc, h, h']

theorem Passes.after (h : r.Passes first r') (exit : UInt8) :
    RunResult.after exit r first = { r' with exit := exit } := by
  have whole := h exit []
  rw [List.append_nil] at whole
  exact whole

theorem passes_nil (r : RunResult) : r.Passes [] r := fun _ _ => rfl

theorem passes_say (r : RunResult) (text : String) : r.Passes [.say text] (r.say text) :=
  fun _ _ => rfl

theorem passes_warn (r : RunResult) (text : String) : r.Passes [.warn text] (r.warn text) :=
  fun _ _ => rfl

theorem passes_makeDirectories {path : Path} {t : Store}
    (made : r.store.makeDirectories path = .ok t) :
    r.Passes [.makeDirectories path] { r with store := t } := by
  intro exit rest
  rw [List.singleton_append, RunResult.after, made]

theorem passes_write {path : Path} {text : String} {t : Store}
    (written : r.store.writeFile path text = .ok t) :
    r.Passes [.write path text] { r with store := t } := by
  intro exit rest
  rw [List.singleton_append, RunResult.after, written]

end RunResult

namespace Plan

open RunResult

variable {out : Path} {format : OutputFormat} {base : Location} {goals : List (List String)}
  {written : List (List String × String)} {r : RunResult}

/-- The text of a script, if it has one, with the way to its output. -/
def delivery (format : OutputFormat) (o : Outcome) : Option (List String × String) :=
  (o.render? format).map fun text => (o.way format, text)

/-- The steps for a script put its text, if it has one, into its output. -/
theorem passes_scriptSteps {o : Outcome} (side : SideBySide goals)
    (ready : r.store.Ready out base goals written)
    (below : out.Below (o.outputPath out format) (o.way format))
    (mem : o.way format ∈ goals)
    (fresh : o.way format ∉ written.map Prod.fst) :
    ∃ r', r.Passes (scriptSteps out format o) r' ∧
      r'.store.Ready out base goals (written ++ (delivery format o).toList) := by
  generalize shape : o.way format = goal at below mem fresh
  unfold scriptSteps delivery
  rw [shape]
  cases rendered : o.render? format with
  | some text =>
    obtain ⟨dirs, name, rfl⟩ := List.eq_nil_or_concat' goal |>.resolve_left (side.filled _ mem)
    obtain ⟨directory, parent, above⟩ := below.exists_parent
    obtain ⟨t, made, stocked, entered⟩ :=
      ready.makeDirectories side above (onTheWay_of_concat mem)
    obtain ⟨u, put, stocked⟩ := stocked.writeFile side below mem fresh entered text
    simp only [writeSteps, parent]
    exact ⟨_, (passes_say r _).append <|
      (passes_makeDirectories (r := r.say _) made).append <|
        (passes_write (r := { r.say _ with store := t }) put).append (passes_say _ _),
      stocked.ready⟩
  | none =>
    dsimp only [Option.map_none, Option.toList_none]
    rw [List.append_nil]
    cases o.result with
    | ok script => exact ⟨_, passes_say r _, ready⟩
    | error e =>
      exact ⟨_, (passes_say r _).append <| (passes_say _ _).append <|
        (passes_warn _ _).append (passes_warn _ _), ready⟩

/-- The steps for scripts put all their texts into their outputs. -/
theorem passes_scripts {outcomes : List Outcome} (side : SideBySide goals)
    (ready : r.store.Ready out base goals written)
    (below : ∀ o ∈ outcomes, out.Below (o.outputPath out format) (o.way format))
    (mem : ∀ o ∈ outcomes, o.way format ∈ goals)
    (fresh : (written.map Prod.fst ++ outcomes.map fun o => o.way format).Nodup) :
    ∃ r', r.Passes (outcomes.flatMap (scriptSteps out format)) r' ∧
      r'.store.Ready out base goals (written ++ outcomes.filterMap (delivery format)) := by
  induction outcomes generalizing r written with
  | nil => exact ⟨r, passes_nil r, by simpa using ready⟩
  | cons o rest ih =>
    obtain ⟨own, others⟩ := List.forall_mem_cons.mp below
    obtain ⟨listed, listed'⟩ := List.forall_mem_cons.mp mem
    have absent : o.way format ∉ written.map Prod.fst := fun twice =>
      (List.nodup_append.mp fresh).2.2 _ twice _ List.mem_cons_self rfl
    obtain ⟨r', steps, ready'⟩ := passes_scriptSteps side ready own listed absent
    have fresh' : ((written ++ (delivery format o).toList).map Prod.fst ++
        rest.map fun o => o.way format).Nodup := by
      rw [delivery]
      cases o.render? format with
      | some text => simpa using fresh
      | none =>
        rw [Option.map_none, Option.toList_none, List.append_nil]
        exact fresh.sublist ((List.sublist_cons_self _ _).append_left _)
    obtain ⟨r'', steps', ready''⟩ := ih ready' others listed' fresh'
    refine ⟨r'', by rw [List.flatMap_cons]; exact steps.append steps', ?_⟩
    rw [List.append_assoc] at ready''
    rw [List.filterMap_cons]
    cases delivered : delivery format o <;> simpa [delivered] using ready''

/-- The path of the globals file. -/
def globalsPath (out : Path) (format : OutputFormat) (outcomes : List Outcome) : Path :=
  (globalsDirectory out format outcomes).join ⟨VariableTable.globalsName format⟩

/-- Where there are outputs, the directory of the globals file lies on the way to one of them. -/
theorem globalsDirectory_of_below {outcomes : List Outcome} (nonempty : outcomes ≠ [])
    (filled : ∀ o ∈ outcomes, o.way format ≠ [])
    (below : ∀ o ∈ outcomes, out.Below (o.outputPath out format) (o.way format)) :
    ∃ dirs, (∃ o ∈ outcomes, dirs <+: o.way format) ∧
      (globalsDirectory out format outcomes).start = out.start ∧
      (globalsDirectory out format outcomes).parts = out.parts ++ dirs ∧
      (globalsDirectory out format outcomes).Closed := by
  have placed : ∀ p ∈ outcomes.map fun o => o.outputPath out format,
      ∃ directory dirs, p.parent? = some directory ∧ out.Below directory dirs ∧
        ∃ o ∈ outcomes, dirs <+: o.way format := by
    intro p mem
    obtain ⟨o, listed, rfl⟩ := List.mem_map.mp mem
    have below := below o listed
    obtain ⟨dirs, name, way⟩ := List.eq_nil_or_concat' _ |>.resolve_left (filled o listed)
    rw [way] at below
    obtain ⟨directory, parent, above⟩ := below.exists_parent
    exact ⟨directory, dirs, parent, above, o, listed, way ▸ List.prefix_append dirs [name]⟩
  unfold globalsDirectory
  generalize shape : (outcomes.map fun o => o.outputPath out format) = paths at placed
  cases found : commonDirectory? paths with
  | none =>
    rcases commonDirectory?_eq_none_iff.mp found with none | ⟨p, mem, none⟩
    · rw [none] at shape
      exact absurd (List.map_eq_nil_iff.mp shape) nonempty
    · obtain ⟨directory, dirs, parent, -⟩ := placed p mem
      rw [none] at parent
      cases parent
  | some result =>
    obtain ⟨whole, first, rest, directory, rfl, parent, longest⟩ := longestShared_of_eq_some found
    obtain ⟨_, dirs, parent', above, o, listed, way⟩ := placed first List.mem_cons_self
    cases parent.symm.trans parent'
    -- All directories begin with the output directory, so the longest shared front does as well.
    have shared : SharedBy (first :: rest) out.components := by
      intro p mem
      obtain ⟨other, names, found, above, -⟩ := placed p mem
      exact ⟨other, found, .of_front (above.components_eq ▸ List.prefix_append _ _)⟩
    have own := above.components_eq
    have begins : out.components <+: directory.components := own ▸ List.prefix_append _ _
    obtain ⟨more, cut⟩ := List.prefix_of_prefix_length_le begins longest.begins
      (longest.longest _ begins shared)
    have front := longest.begins
    rw [← cut, own, List.prefix_append_right_inj, List.prefix_map_iff] at front
    obtain ⟨names, front, rfl⟩ := front
    have parts : ∀ piece ∈ out.parts ++ names, piece ∈ directory.parts := fun piece mem => by
      rw [above.parts]
      exact ((List.prefix_append_right_inj _).mpr front).subset mem
    have read := @Path.ofComponents_pieces out.start (out.parts ++ names)
      (fun piece mem => Store.counts_of_mem_parts directory piece (parts piece mem))
      fun piece mem => Path.free_of_mem_parts (parts piece mem)
    rw [List.map_append, ← List.append_assoc, ← Path.components_eq, cut, ← whole] at read
    exact ⟨names, ⟨o, listed, front.trans way⟩, read⟩

/-- The globals file lies below the output directory: there, or on the way to an output. -/
theorem below_globalsPath {outcomes : List Outcome}
    (filled : ∀ o ∈ outcomes, o.way format ≠ [])
    (below : ∀ o ∈ outcomes, out.Below (o.outputPath out format) (o.way format))
    (fits : (globalsPath out format outcomes).Fits) :
    ∃ dirs, out.Below (globalsPath out format outcomes)
        (dirs ++ [VariableTable.globalsName format]) ∧
      (∀ name ∈ dirs, ∃ o ∈ outcomes, name ∈ o.way format) ∧
      (outcomes ≠ [] → out.Below (globalsDirectory out format outcomes) dirs) := by
  have name : (Path.mk (VariableTable.globalsName format)).start = .plain ∧
      (Path.mk (VariableTable.globalsName format)).pieces = [VariableTable.globalsName format] ∧
      Path.counts (VariableTable.globalsName format) := by
    cases format <;> decide
  obtain ⟨plain, single, counted⟩ := name
  have own : (Path.mk (VariableTable.globalsName format)).parts =
      [VariableTable.globalsName format] := by
    rw [Path.parts, single, List.filter_cons_of_pos counted, List.filter_nil]
  unfold globalsPath at fits ⊢
  obtain ⟨begins, parts, closed⟩ := Path.parts_join (globalsDirectory out format outcomes) plain
  have closed := closed [] _ single counted
  rw [own] at parts
  by_cases none : outcomes = []
  · subst none
    exact ⟨[], ⟨begins, parts, closed, fits⟩, List.forall_mem_nil _, fun some => absurd rfl some⟩
  · obtain ⟨dirs, ⟨o, mem, way⟩, begins', parts', closed'⟩ :=
      globalsDirectory_of_below none filled below
    have front := Path.text_join_of_plain (globalsDirectory out format outcomes) plain
    refine ⟨dirs, ⟨begins.trans begins', ?_, closed, fits⟩,
      fun name listed => ⟨o, mem, way.subset listed⟩, fun _ => ⟨begins', parts', closed', ?_⟩⟩
    · rw [parts, parts', List.append_assoc]
    · exact fits.of_front front fun part mem => parts ▸ List.mem_append_left _ mem

/-- The steps for the globals file put it in its place. -/
theorem passes_globalsSteps {dirs : List String} {name : String}
    (side : SideBySide goals) {directory : Path} {t : Store}
    (made : r.store.makeDirectories directory = .ok t) (stocked : t.Stocked out base goals written)
    (entered : t.enterAll base dirs = .ok (base.below dirs)) (table : VariableTable)
    (below : out.Below (directory.join ⟨VariableTable.globalsName format⟩) (dirs ++ [name]))
    (mem : dirs ++ [name] ∈ goals) (fresh : dirs ++ [name] ∉ written.map Prod.fst) :
    ∃ r', r.Passes (globalsSteps directory table format) r' ∧
      r'.store.Stocked out base goals
        (written ++ [(dirs ++ [name], table.globalsText format)]) := by
  obtain ⟨u, put, stocked⟩ := stocked.writeFile side below mem fresh entered
    (table.globalsText format)
  exact ⟨_, (passes_makeDirectories made).append (passes_write (r := { r with store := t }) put),
    stocked⟩

/-- The ways to all outputs, the globals file first. -/
def ways (format : OutputFormat) (dirs : List String) (outcomes : List Outcome) :
    List (List String) :=
  (dirs ++ [VariableTable.globalsName format]) :: outcomes.map fun o => o.way format

/-- Outputs that are apart lie side by side. -/
theorem sideBySide_ways {outcomes : List Outcome} {dirs : List String}
    (own : ∀ o ∈ outcomes, (ownOutput format o.source).IsNames)
    (below : ∀ o ∈ outcomes, out.Below (o.outputPath out format) (o.way format))
    (globals : out.Below (globalsPath out format outcomes)
      (dirs ++ [VariableTable.globalsName format]))
    (names : ∀ name ∈ dirs, ∃ o ∈ outcomes, name ∈ o.way format)
    (apart : (globalsPath out format outcomes :: outcomes.map fun o => o.outputPath out format)
      |>.Pairwise fun p q => Apart p.components q.components) :
    SideBySide (ways format dirs outcomes) := by
  unfold ways
  refine @SideBySide.of_below _ out ?_ ?_ ?_ ?_
  · rw [List.forall_mem_cons, List.forall_mem_map]
    exact ⟨by simp, fun o mem => (own o mem).parts.2.1⟩
  · rw [List.forall_mem_cons, List.forall_mem_append, List.forall_mem_singleton,
      List.forall_mem_map]
    refine ⟨⟨fun name mem => ?_, by cases format <;> decide⟩, fun o mem => (own o mem).parts.2.2⟩
    obtain ⟨o, listed, mem⟩ := names name mem
    exact (own o listed).parts.2.2 name mem
  · rw [List.forall_mem_cons, List.forall_mem_map]
    exact ⟨⟨_, globals⟩, fun o mem => ⟨_, below o mem⟩⟩
  · rw [List.pairwise_cons, List.forall_mem_map, List.pairwise_map] at apart ⊢
    exact ⟨fun o mem => globals.apart (below o mem) (apart.1 o mem),
      apart.2.imp_of_mem fun mem mem' differ => (below _ mem).apart (below _ mem') differ⟩

/-- The plan for outcomes, on a store in which the output directory can be made and is empty then:
all texts are in their places in the end. -/
theorem passes_outputs {outcomes : List Outcome} {dirs : List String} {s₀ : Store}
    (table : VariableTable) (made : r.store.makeDirectories out = .ok s₀) (vacant : s₀.Vacant out)
    (side : SideBySide (ways format dirs outcomes))
    (below : ∀ o ∈ outcomes, out.Below (o.outputPath out format) (o.way format))
    (globals : out.Below (globalsPath out format outcomes)
      (dirs ++ [VariableTable.globalsName format]))
    (names : ∀ name ∈ dirs, ∃ o ∈ outcomes, name ∈ o.way format)
    (directory : outcomes ≠ [] → out.Below (globalsDirectory out format outcomes) dirs) :
    ∃ r' base, r.Passes (outcomes.flatMap (scriptSteps out format) ++
        globalsSteps (globalsDirectory out format outcomes) table format) r' ∧
      r'.store.Stocked out base (ways format dirs outcomes)
        (outcomes.filterMap (delivery format) ++
          [(dirs ++ [VariableTable.globalsName format], table.globalsText format)]) := by
  have short : ∀ part ∈ out.parts, isLongName part = false := fun part mem =>
    globals.fits.names part (globals.parts ▸ List.mem_append_left _ mem)
  obtain ⟨base, stocked, ready⟩ := vacant.ready made short (ways format dirs outcomes)
  have own : dirs ++ [VariableTable.globalsName format] ∈ ways format dirs outcomes :=
    List.mem_cons_self
  obtain ⟨alone, distinct⟩ := List.nodup_cons.mp (side.apart.imp Apart.ne)
  obtain ⟨r', steps, ready'⟩ := passes_scripts side ready below
    (fun o mem => List.mem_cons_of_mem _ (List.mem_map.mpr ⟨o, mem, rfl⟩)) distinct
  have fresh : dirs ++ [VariableTable.globalsName format] ∉
      ([] ++ outcomes.filterMap (delivery format)).map Prod.fst := by
    intro twice
    obtain ⟨file, mem, same⟩ := List.mem_map.mp twice
    obtain ⟨o, listed, delivered⟩ := List.mem_filterMap.mp mem
    obtain ⟨text, -, rfl⟩ := Option.map_eq_some_iff.mp delivered
    exact alone (List.mem_map.mpr ⟨o, listed, same⟩)
  have there : ∃ r' t, r.Passes (outcomes.flatMap (scriptSteps out format)) r' ∧
      r'.store.makeDirectories (globalsDirectory out format outcomes) = .ok t ∧
      t.Stocked out base (ways format dirs outcomes)
        ([] ++ outcomes.filterMap (delivery format)) ∧
      t.enterAll base dirs = .ok (base.below dirs) := by
    by_cases none : outcomes = []
    · subst none
      obtain rfl : dirs = [] := List.eq_nil_iff_forall_not_mem.mpr fun name mem => by
        obtain ⟨o, listed, -⟩ := names name mem
        cases listed
      exact ⟨r, s₀, passes_nil r, made, stocked, by rw [Location.below_nil]; rfl⟩
    · obtain ⟨t, made, stocked, entered⟩ :=
        ready'.makeDirectories side (directory none) (onTheWay_of_concat own)
      exact ⟨r', t, steps, made, stocked, entered⟩
  obtain ⟨r', t, steps, made, stocked, entered⟩ := there
  obtain ⟨r'', steps', stocked⟩ :=
    passes_globalsSteps side made stocked entered table globals own fresh
  exact ⟨r'', base, steps.append steps', stocked⟩

/-- When no step on files fails, the exit code says whether all scripts succeeded. -/
theorem run_of_passes {table : VariableTable} {outcomes : List Outcome} {s : Store}
    (steps : RunResult.Passes ⟨exitSuccess, "", "", s⟩ (outcomes.flatMap (scriptSteps out format) ++
      globalsSteps (globalsDirectory out format outcomes) table format) r) :
    ∃ err, (ofOutcomes out format table outcomes).run s =
      { r with err := err, exit :=
        if outcomes.all fun o => (o.render? format).isSome then exitSuccess else exitFailure } := by
  have allRendered : (outcomes.filter fun o => (o.render? format).isNone).length = 0 ↔
      outcomes.all (fun o => (o.render? format).isSome) = true := by
    rw [List.length_eq_zero_iff, List.filter_eq_nil_iff, List.all_eq_true]
    simp [Option.isSome_iff_ne_none]
  rw [run, ofOutcomes]
  split
  next none => exact ⟨r.err, by rw [steps.after, if_pos (allRendered.mp none)]⟩
  next some =>
    exact ⟨_, by rw [(steps.append (passes_warn r _)).after, if_neg (mt allRendered.mpr some)]; rfl⟩

end Plan

/-- A run left all outputs behind and no step on files failed: every script that succeeded has its
text in its place, no file is found in the place of a script that failed, the globals are in theirs,
and no two of these places are one. -/
structure RunResult.Holds (r : RunResult) (out : Path) (format : OutputFormat)
    (table : VariableTable) (outcomes : List Outcome) : Prop where
  exit : r.exit =
    if outcomes.all fun o => (o.render? format).isSome then exitSuccess else exitFailure
  scripts : ∀ o ∈ outcomes, r.store.readFile (o.outputPath out format) =
    (o.render? format).elim (.error .notFound) .ok
  globals : r.store.readFile (Plan.globalsPath out format outcomes) =
    .ok (table.globalsText format)
  distinct : (Plan.globalsPath out format outcomes ::
    outcomes.map fun o => o.outputPath out format).Pairwise fun p q => p.components ≠ q.components

instance (r : RunResult) (out : Path) (format : OutputFormat) (table : VariableTable)
    (outcomes : List Outcome) : Decidable (r.Holds out format table outcomes) :=
  decidable_of_iff (_ ∧ _ ∧ _ ∧ _)
    ⟨fun ⟨exit, scripts, globals, distinct⟩ => ⟨exit, scripts, globals, distinct⟩,
      fun ⟨exit, scripts, globals, distinct⟩ => ⟨exit, scripts, globals, distinct⟩⟩

/-- The text of a script that succeeded, and nothing of one that failed, is delivered to its place,
where no two scripts have one place. -/
theorem Plan.mem_delivered_iff {format : OutputFormat} {outcomes : List Outcome}
    (distinct : (outcomes.map fun o => o.way format).Nodup) {o : Outcome}
    (mem : o ∈ outcomes) {text : String} :
    (o.way format, text) ∈ outcomes.filterMap (delivery format) ↔
      o.render? format = some text := by
  rw [List.mem_filterMap]
  constructor
  · rintro ⟨other, mem', delivered⟩
    obtain ⟨text, rendered, same⟩ := Option.map_eq_some_iff.mp delivered
    obtain ⟨way, rfl⟩ := Prod.mk.inj same
    rw [← List.inj_on_of_nodup_map distinct mem' mem way, rendered]
  · intro rendered
    exact ⟨o, mem, by rw [delivery, rendered]; rfl⟩

/-- The plan for outcomes, carried out on a store in which the output directory can be made and is
empty then, leaves all outputs behind if they are paths into it that lie side by side. -/
theorem Plan.run_holds {out : Path} {format : OutputFormat} {table : VariableTable}
    {outcomes : List Outcome} {s s₀ : Store} (made : s.makeDirectories out = .ok s₀)
    (vacant : s₀.Vacant out) (own : ∀ o ∈ outcomes, (ownOutput format o.source).IsNames)
    (below : ∀ o ∈ outcomes, out.Below (o.outputPath out format) (o.way format))
    (fits : (globalsPath out format outcomes).Fits)
    (apart : (globalsPath out format outcomes :: outcomes.map fun o => o.outputPath out format)
      |>.Pairwise fun p q => Apart p.components q.components) :
    ((ofOutcomes out format table outcomes).run s).Holds out format table outcomes := by
  obtain ⟨dirs, globals, names, directory⟩ := below_globalsPath
    (fun o mem => (own o mem).parts.2.1) below fits
  have side := sideBySide_ways own below globals names apart
  obtain ⟨alone, distinct⟩ := List.nodup_cons.mp (side.apart.imp Apart.ne)
  obtain ⟨r, base, steps, stocked⟩ := @passes_outputs out format ⟨exitSuccess, "", "", s⟩ _ _ _
    table made vacant side below globals names directory
  obtain ⟨err, ended⟩ := run_of_passes steps
  rw [ended]
  refine ⟨rfl, fun o mem => ?_, ?_, apart.imp Apart.ne⟩
  · have read := stocked.readFile side (below o mem)
      (List.mem_cons_of_mem _ (List.mem_map.mpr ⟨o, mem, rfl⟩))
    have listed : ∀ text, (o.way format, text) ∈
        outcomes.filterMap (delivery format) ++
          [(dirs ++ [VariableTable.globalsName format], table.globalsText format)] ↔
        o.render? format = some text := fun text => by
      have other : o.way format ≠
          dirs ++ [VariableTable.globalsName format] := fun same =>
        alone (List.mem_map.mpr ⟨o, mem, same⟩)
      rw [List.mem_append, List.mem_singleton, mem_delivered_iff distinct mem]
      simp [other]
    cases rendered : o.render? format with
    | some text => exact read.1 text ((listed text).mpr rendered)
    | none =>
      refine read.2 fun text mem => ?_
      rw [listed, rendered] at mem
      cases mem
  · exact (stocked.readFile side globals List.mem_cons_self).1 _
      (List.mem_append_right _ List.mem_cons_self)

/-- A project run loses no output where no two outputs meet. The output directory can be made and is
empty then; the sources are paths of names, and as outputs, with the extension of the format, they
still are and end in a name; no output, the globals file included, is another or a directory of
another; and the store takes all their paths. -/
theorem outputs_hold (project : Project) (out : Path) (format : OutputFormat)
    (encoding : TextEncoding) {s s₀ : Store} (made : s.makeDirectories out = .ok s₀)
    (vacant : s₀.Vacant out)
    (names : ∀ script ∈ project.scripts, (Path.mk script.source).IsNames)
    (files : ∀ script ∈ project.scripts,
      (ownOutput format script.source).IsNames ∧ (ownOutput format script.source).Closed)
    (apart : project.scripts.Pairwise fun script other =>
      Apart (relativeOutput format script.source) (relativeOutput format other.source))
    (globals : ∀ o ∈ project.reconstruct encoding,
      Apart (Plan.globalsPath out format (project.reconstruct encoding)).components
        (o.outputPath out format).components)
    (fits : ∀ p ∈ Plan.globalsPath out format (project.reconstruct encoding) ::
      (project.reconstruct encoding).map fun o => o.outputPath out format, p.Fits) :
    ((Plan.ofOutcomes out format project.table (project.reconstruct encoding)).run s).Holds out
      format project.table (project.reconstruct encoding) := by
  have scripts : ∀ o ∈ project.reconstruct encoding,
      ∃ script ∈ project.scripts, o.source = script.source := by
    intro o mem
    obtain ⟨script, listed, rfl⟩ := List.mem_map.mp mem
    exact ⟨script, listed, rfl⟩
  rw [List.forall_mem_cons, List.forall_mem_map] at fits
  refine Plan.run_holds made vacant (fun o mem => ?_) (fun o mem => ?_) fits.1 ?_
  · obtain ⟨script, listed, same⟩ := scripts o mem
    rw [same]
    exact (files script listed).1
  · obtain ⟨script, listed, same⟩ := scripts o mem
    have ⟨own, closed⟩ := files script listed
    exact Outcome.below_outputPath (same ▸ names script listed) (same ▸ own) (same ▸ closed)
      (fits.2 o mem)
  · rw [List.pairwise_cons, List.forall_mem_map, List.pairwise_map]
    refine ⟨globals, List.pairwise_map.mpr (apart.imp_of_mem fun mem mem' differ => ?_)⟩
    rw [Outcome.components_outputPath (names _ mem), Outcome.components_outputPath (names _ mem')]
    exact ⟨fun front => differ.1 ((List.prefix_append_right_inj _).mp front),
      fun front => differ.2 ((List.prefix_append_right_inj _).mp front)⟩

/-- Two scripts and a failed one in two directories of a project in JSON form: three outputs, and
the globals beside the first of them, in a directory beside the project's dump. -/
theorem outputs_hold_three :
    let project : Project := ⟨[⟨.global, 0, 3, 1, [], none, none⟩],
      [⟨0, "sc/a.yst", [], []⟩, ⟨1, "sc/sub/a.txt", [], []⟩,
        ⟨2, "sc/b", [], [⟨"WAIT", 0, 0, 0, [⟨0, 0, 0, 0, none, none, [0x2B, 0, 0]⟩]⟩]⟩]⟩
    let outcomes := project.reconstruct .shiftJis
    let s : Store := ⟨[(⟨.above 0, ["d.json"]⟩, "a dump")], []⟩
    (outcomes.map fun o => (o.outputPath ⟨"out"⟩ .json, (o.render? .json).isSome)) =
        [(⟨"out/sc/a.json"⟩, true), (⟨"out/sc/sub/a.json"⟩, true), (⟨"out/sc/b.json"⟩, false)] ∧
      Plan.globalsPath ⟨"out"⟩ .json outcomes = ⟨"out/sc/global.json"⟩ ∧
      ((Plan.ofOutcomes ⟨"out"⟩ .json project.table outcomes).run s).Holds ⟨"out"⟩ .json
        project.table outcomes := by
  intro project outcomes s
  have made : s.makeDirectories ⟨"out"⟩ = .ok ⟨s.files, [⟨.above 0, ["out"]⟩]⟩ := by
    decide +kernel
  have vacant : Store.Vacant ⟨s.files, [⟨.above 0, ["out"]⟩]⟩ ⟨"out"⟩ := by
    refine ⟨⟨.above 0, ["out"]⟩, by decide +kernel, fun names nonempty => ?_⟩
    simp [s, Store.file?, Store.hasDirectory, Location.below, nonempty]
  refine ⟨by decide +kernel, by decide +kernel,
    outputs_hold project ⟨"out"⟩ .json .shiftJis made vacant ?_ ?_ ?_ ?_ ?_⟩
  · decide +kernel
  · decide +kernel
  · decide +kernel
  · decide +kernel
  · decide +kernel

/-- Outputs are lost although the sources of a project are paths of names, and none of them is
another or a directory of another: a script has an output of the name and in the place of the
globals file, or in a directory of that name; sources differ in their extensions alone, or one is a
directory of another once it has the new extension; a source has a slash behind it, or leads up once
it has the new extension; or it is no name that the store takes. -/
theorem outputs_lost :
    let project : List String → Project := fun sources => ⟨[], sources.zipIdx.map fun (source, n) =>
      ⟨0, source, [], List.replicate n ⟨"CLS", 0, 0, 0, []⟩⟩⟩
    ∀ lost ∈ [(OutputFormat.text, ["global.txt"]), (.text, ["global.txt/a.yst", "b.yst"]),
        (.json, ["a.yst", "a.txt"]), (.json, ["a.yst", "a.json/b.yst"]), (.text, ["a/"]),
        (.json, ["..x"]), (.text, ["a\x00"])],
      (∀ script ∈ (project lost.2).scripts, (Path.mk script.source).IsNames) ∧
      ((project lost.2).scripts.Pairwise fun script other =>
        Apart (Path.mk script.source).components (Path.mk other.source).components) ∧
      ¬ ((Plan.ofOutcomes ⟨"out"⟩ lost.1 (project lost.2).table
        ((project lost.2).reconstruct .shiftJis)).run ⟨[], []⟩).Holds ⟨"out"⟩ lost.1
          (project lost.2).table ((project lost.2).reconstruct .shiftJis) := by
  decide +kernel

end NovelScript
