import NovelScript.Project.Globals
import NovelScript.Proofs.Json.OneLine

/-!
# Declarations — the lines of the globals file in text form

The file declares the global variables of the types that can be declared, a line for each. Most of a
declaration breaks no line: keywords, marks, made-up names and numbers have no break in them, and
initial values are written as JSON, which escapes theirs. Two texts are taken over as they are: a
name that was declared, and an initial value that is a string. A break in one of them breaks the
line of the declaration.

## What is proved

`breaks_declaration`: the breaks in a declaration are those of the texts taken over.
`declaration_lines`: the lines of the file are its declarations exactly if no text taken over has a
break, and else there is one more for each. `declaration_lines_broken`: a string with a break.
-/

set_option autoImplicit false

namespace NovelScript

/-! ## Declarations -/

namespace Variable

/-- The initial value, if it is a string. -/
def stringValue? (v : Variable) : Option String :=
  match v.value with
  | some (.string s) => some s
  | _ => none

theorem stringValue?_eq_some_iff {v : Variable} {s : String} :
    v.stringValue? = some s ↔ v.value = some (.string s) := by
  unfold stringValue?
  split
  next s' given => simp [given]
  next noString => exact ⟨nofun, fun given => absurd given (noString s)⟩

/-- The texts that a declaration takes over as they are: the declared name, and an initial value
that is a string. -/
def contents (v : Variable) : List String := v.name.toList ++ v.stringValue?.toList

theorem forall_mem_contents_iff {v : Variable} {P : String → Prop} :
    (∀ text ∈ v.contents, P text) ↔
      (∀ name, v.name = some name → P name) ∧ ∀ s, v.value = some (.string s) → P s := by
  simp only [contents, List.forall_mem_append, Option.mem_toList,
    stringValue?_eq_some_iff]

/-- The types that can be declared. -/
theorem isSome_typeWord?_iff {code : UInt8} :
    (typeWord? code).isSome ↔ code = 1 ∨ code = 2 ∨ code = 3 := by
  unfold typeWord?
  split <;> simp_all

/-- The name that a variable is shown by has the breaks of its own; a made-up name has none. -/
theorem breaks_displayName (v : Variable) : breaks v.displayName = allBreaks v.name.toList := by
  have madeUp : breaks (displayName.madeUp v) = 0 := by
    rw [displayName.madeUp, breaks_append, breaks_repr]
    cases v.scope <;> rfl
  unfold displayName
  split
  next name given =>
    rw [given, Option.toList_some, allBreaks_cons, allBreaks_nil, Nat.add_zero]
    split
    next empty => rw [madeUp, String.isEmpty_iff.mp empty]; rfl
    next => rfl
  next given =>
    rw [given, madeUp]
    rfl

theorem breaks_dimensionsText (v : Variable) : breaks v.dimensionsText = 0 := by
  have numbers : allBreaks (v.dimensions.map fun d => Nat.repr d.toNat) = 0 :=
    allBreaks_map_eq_zero fun d _ => breaks_repr d.toNat
  unfold dimensionsText
  split
  next =>
    rw [breaks_append, breaks_append, breaks_intercalate (show breaks "," = 0 from rfl), numbers]
    rfl
  next => rfl

theorem breaks_valueText (v : Variable) :
    breaks v.valueText = allBreaks v.stringValue?.toList := by
  unfold valueText stringValue?
  split
  next given => rw [given]; rfl
  next given => rw [given]; rfl
  next s given =>
    rw [given, breaks_append, breaks_append, Option.toList_some, allBreaks_cons, allBreaks_nil,
      show breaks "=\"" = 0 from rfl, show breaks "\"" = 0 from rfl, Nat.zero_add]
  next value notNull noString given =>
    rw [given, breaks_append, value.breaks_compact]
    cases value with
    | string s => exact absurd rfl (noString s)
    | null | bool _ | int _ | decimal _ | array _ | object _ => rfl

/-- The breaks in a declaration are those of the texts it takes over. -/
theorem breaks_declaration {v : Variable} {line : String} (declared : v.declaration? = some line) :
    breaks line = allBreaks v.contents := by
  obtain ⟨⟨word, mark⟩, typed, rfl⟩ := Option.map_eq_some_iff.mp declared
  have front : breaks v.scope.qualifier = 0 := by cases v.scope <;> rfl
  have keyword : breaks word = 0 ∧ breaks (String.singleton mark) = 0 := by
    unfold typeWord? at typed
    split at typed <;> cases typed <;> exact ⟨rfl, rfl⟩
  simp only [breaks_append, front, keyword, v.breaks_displayName, v.breaks_dimensionsText,
    v.breaks_valueText, contents, allBreaks_append, show breaks "[" = 0 from rfl,
    show breaks "]" = 0 from rfl]
  omega

end Variable

/-! ## The file -/

namespace VariableTable

/-- The variables that the file declares: the global ones of type 1, 2 or 3. -/
def declared (table : VariableTable) : List Variable :=
  table.toList.filter fun v =>
    v.scope == .global && (v.typeCode == 1 || v.typeCode == 2 || v.typeCode == 3)

/-- The declarations are those of the declared variables. -/
theorem map_some_declarations (table : VariableTable) :
    table.declarations.map some = table.declared.map Variable.declaration? := by
  rw [declarations, List.map_filterMap_some_eq_filter_map_isSome, List.filter_map,
    List.filter_filter, declared]
  refine congrArg (List.map Variable.declaration?) (List.filter_congr fun v _ => ?_)
  have declares : v.declaration?.isSome ↔ v.typeCode = 1 ∨ v.typeCode = 2 ∨ v.typeCode = 3 := by
    rw [Variable.declaration?, Option.isSome_map, Variable.isSome_typeWord?_iff]
  rw [Bool.eq_iff_iff]
  simp only [Function.comp_apply, Bool.and_eq_true, Bool.or_eq_true, beq_iff_eq, declares,
    or_assoc, and_comm]

/-- The breaks in the declarations of variables are those of the texts they take over. -/
theorem allBreaks_declarations {vars : List Variable} {lines : List String}
    (declared : lines.map some = vars.map Variable.declaration?) :
    allBreaks lines = allBreaks (vars.flatMap Variable.contents) := by
  induction vars generalizing lines with
  | nil =>
    rw [List.map_eq_nil_iff.mp declared]
    rfl
  | cons v rest ih =>
    obtain ⟨line, others, rfl, first, behind⟩ := List.map_eq_cons_iff.mp declared
    rw [List.flatMap_cons, allBreaks_append, allBreaks_cons, ih behind,
      Variable.breaks_declaration first.symm]

/-- The file in text form declares the global variables of type 1, 2 or 3, in increasing order of
ids. Its lines are their declarations, one for each, exactly if no declared name and no initial
value that is a string has a line break in it; and there is one more for each such break. -/
theorem declaration_lines (table : VariableTable) :
    (table.declared.Pairwise fun v w => v.id < w.id) ∧
    (∀ v, v ∈ table.declared ↔ v ∈ table.toList ∧ v.scope = .global ∧
      (v.typeCode = 1 ∨ v.typeCode = 2 ∨ v.typeCode = 3)) ∧
    ((textLines (table.globalsText .text)).map some = table.declared.map Variable.declaration? ↔
      ∀ v ∈ table.declared, (∀ name, v.name = some name → '\n' ∉ name.toList) ∧
        ∀ s, v.value = some (.string s) → '\n' ∉ s.toList) ∧
    (textLines (table.globalsText .text)).length =
      table.declared.length + allBreaks (table.declared.flatMap Variable.contents) := by
  have same := table.map_some_declarations
  have breaks := allBreaks_declarations same
  refine ⟨table.ordered.filter _, fun v => ?_, ?_, ?_⟩
  · simp [declared, or_assoc]
  · change (textLines (joinLines table.declarations)).map some = _ ↔ _
    rw [← same, List.map_inj_right fun _ _ => Option.some.inj, textLines_eq_iff, breaks,
      allBreaks_eq_zero_iff, List.forall_mem_flatMap]
    simp only [Variable.forall_mem_contents_iff]
  · change (textLines (joinLines table.declarations)).length = _
    rw [length_textLines, breaks, ← List.length_map (f := some), same, List.length_map]

/-- A string with a line break in it: the one declaration of the file reads as two lines. -/
theorem declaration_lines_broken :
    let table : VariableTable :=
      .ofList [⟨.global, 0, 1, 3, [], none, some (.string "a\nb")⟩]
    table.declared.map Variable.declaration? = [some "G_STR[$g1=\"a\nb\"]"] ∧
      textLines (table.globalsText .text) = ["G_STR[$g1=\"a", "b\"]"] := by
  with_unfolding_all exact ⟨rfl, rfl⟩

end VariableTable

end NovelScript
