import NovelScript.Proofs.Source.Word
import NovelScript.Proofs.Text.Split

/-!
# Lines — what a text is cut into at its line breaks

A text that is written line by line has a break behind each line (`joinLines`). Reading it back line
by line gives what was written, unless something that was written as a line has a break inside: then
that line is cut there and reads as several. How many more there are is how many breaks are inside
(`breaks`).

## What is proved

`textLines_joinLines`: the lines of a text that was written line by line are the written ones, each
cut at its own breaks. `length_textLines` and `textLines_eq_iff` follow: there is one more for every
break inside, and they are the written ones exactly if there is none.
-/

set_option autoImplicit false

namespace NovelScript

/-- The lines of a text. A break at the end begins no further line. -/
def textLines (text : String) : List String :=
  let pieces := splitAtEvery '\n' text.toList
  (if pieces.getLast? = some [] then pieces.dropLast else pieces).map String.ofList

/-- The text with a line break behind each of the lines. -/
def joinLines (lines : List String) : String := String.join (lines.map (· ++ "\n"))

theorem joinLines_append (first second : List String) :
    joinLines (first ++ second) = joinLines first ++ joinLines second := by
  rw [joinLines, List.map_append, String.join_append]
  rfl

theorem joinLines_singleton (line : String) : joinLines [line] = line ++ "\n" := by
  simp [joinLines]

/-! ## Counting breaks -/

/-- The number of line breaks in a text. -/
def breaks (text : String) : Nat := text.toList.count '\n'

/-- The number of line breaks in texts. -/
def allBreaks : List String → Nat
  | [] => 0
  | text :: rest => breaks text + allBreaks rest

@[simp] theorem breaks_append (first second : String) :
    breaks (first ++ second) = breaks first + breaks second := by
  rw [breaks, String.toList_append, List.count_append]
  rfl

@[simp] theorem allBreaks_nil : allBreaks [] = 0 := rfl

@[simp] theorem allBreaks_cons (text : String) (rest : List String) :
    allBreaks (text :: rest) = breaks text + allBreaks rest := rfl

@[simp] theorem allBreaks_append (first second : List String) :
    allBreaks (first ++ second) = allBreaks first + allBreaks second := by
  induction first with
  | nil => exact (Nat.zero_add _).symm
  | cons text rest ih => rw [List.cons_append, allBreaks_cons, allBreaks_cons, ih, Nat.add_assoc]

/-- A separator without breaks adds none. -/
theorem breaks_intercalate {separator : String} (free : breaks separator = 0)
    (texts : List String) : breaks (String.intercalate separator texts) = allBreaks texts := by
  induction texts with
  | nil => rw [String.intercalate_nil]; rfl
  | cons text rest ih =>
    cases rest with
    | nil => simp
    | cons next rest =>
      rw [String.intercalate_cons_cons, breaks_append, breaks_append, free, ih, Nat.add_zero,
        ← allBreaks_cons]

theorem breaks_eq_zero_iff {text : String} : breaks text = 0 ↔ '\n' ∉ text.toList :=
  List.count_eq_zero

theorem allBreaks_eq_zero_iff {texts : List String} :
    allBreaks texts = 0 ↔ ∀ text ∈ texts, '\n' ∉ text.toList := by
  induction texts with
  | nil => exact ⟨fun _ => nofun, fun _ => rfl⟩
  | cons text rest ih =>
    rw [allBreaks_cons, Nat.add_eq_zero_iff, breaks_eq_zero_iff, ih, List.forall_mem_cons]

/-- Texts have no breaks if none of them has. -/
theorem allBreaks_map_eq_zero {α : Type} {text : α → String} {list : List α}
    (free : ∀ a ∈ list, breaks (text a) = 0) : allBreaks (list.map text) = 0 :=
  allBreaks_eq_zero_iff.mpr (List.forall_mem_map.mpr fun a mem =>
    breaks_eq_zero_iff.mp (free a mem))

/-- Words have no breaks. -/
theorem breaks_word {text : String} (h : Source.Word text.toList) : breaks text = 0 := by
  refine breaks_eq_zero_iff.mpr fun mem => ?_
  have inside := h.2 '\n' mem
  exact absurd inside (by decide)

/-- Numbers have no breaks. -/
theorem breaks_numeral {text : String} (h : Source.Numeral text.toList) : breaks text = 0 := by
  obtain ⟨negated, word, isWord, spelled⟩ := h
  refine breaks_eq_zero_iff.mpr fun mem => ?_
  rw [spelled, List.mem_append] at mem
  rcases mem with sign | inside
  · cases negated <;> exact absurd sign (by decide)
  · exact absurd (isWord.2 '\n' inside) (by decide)

/-- Parts of a text without breaks have none. -/
theorem breaks_part {text : String} (free : breaks text = 0) {part : List Char}
    (within : part ⊆ text.toList) : breaks (String.ofList part) = 0 := by
  rw [breaks_eq_zero_iff] at free ⊢
  rw [String.toList_ofList]
  exact fun mem => free (within mem)

/-! ## Reading lines back -/

/-- The lines that one written line reads as. -/
def cutLine (line : String) : List String :=
  (splitAtEvery '\n' line.toList).map String.ofList

theorem length_cutLine (line : String) : (cutLine line).length = breaks line + 1 := by
  rw [cutLine, List.length_map, length_splitAtEvery, breaks]

theorem toList_joinLines (lines : List String) :
    (joinLines lines).toList = terminated '\n' (lines.map String.toList) := by
  simp [joinLines, terminated, List.flatMap_map]

/-- The breaks of a text that was written line by line are one behind each line and those inside. -/
theorem breaks_joinLines (lines : List String) :
    breaks (joinLines lines) = lines.length + allBreaks lines := by
  induction lines with
  | nil => rfl
  | cons line rest ih =>
    have first : joinLines (line :: rest) = line ++ "\n" ++ joinLines rest := by simp [joinLines]
    rw [first, breaks_append, breaks_append, ih, allBreaks_cons, List.length_cons,
      show breaks "\n" = 1 from rfl]
    omega

/-- The lines of a text that was written line by line are the written ones, each cut at its own
breaks. -/
theorem textLines_joinLines (lines : List String) :
    textLines (joinLines lines) = lines.flatMap cutLine := by
  have split : splitAtEvery '\n' (joinLines lines).toList =
      (lines.map String.toList).flatMap (splitAtEvery '\n') ++ [[]] := by
    have split := splitAtEvery_terminated_append '\n' (lines.map String.toList) []
    rw [List.append_nil] at split
    rw [toList_joinLines, split]
    rfl
  simp only [textLines, split, List.getLast?_concat, List.dropLast_concat, if_true,
    List.map_flatMap, List.flatMap_map]
  rfl

/-- For every break inside a written line there is one line more. -/
theorem length_textLines (lines : List String) :
    (textLines (joinLines lines)).length = lines.length + allBreaks lines := by
  rw [textLines_joinLines]
  induction lines with
  | nil => rfl
  | cons line rest ih =>
    rw [List.flatMap_cons, List.length_append, length_cutLine, ih, List.length_cons,
      allBreaks_cons]
    omega

/-- The lines are those that were written exactly if none of these has a break inside. -/
theorem textLines_eq_iff {lines : List String} :
    textLines (joinLines lines) = lines ↔ allBreaks lines = 0 := by
  constructor
  · intro same
    have length := length_textLines lines
    rw [same] at length
    omega
  · intro unbroken
    have free : ∀ piece ∈ lines.map String.toList, '\n' ∉ piece :=
      List.forall_mem_map.mpr (allBreaks_eq_zero_iff.mp unbroken)
    have cut := congrArg (List.map String.ofList) (flatMap_splitAtEvery_of_free free)
    rw [List.map_flatMap, List.flatMap_map, List.map_map] at cut
    rw [textLines_joinLines]
    refine Eq.trans cut ?_
    simp [Function.comp_def]

end NovelScript
