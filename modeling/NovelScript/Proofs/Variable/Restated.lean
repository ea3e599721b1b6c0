import NovelScript.Project.Globals
import NovelScript.Proofs.Variable.RoundTrip

/-!
# Restated variables — a variable under the name it is shown by

The globals file names every variable, also those that have no name of their own. So what is read
from it is not the table it was written from: made-up names have become names. Nothing shows the
difference. A name that was made up is shown as the name it became, and everything else of a
variable is listed as it is, but for a value that is `null`, which is no value.

## What is proved

`Variable.accepts_globalJson`: what the file lists of a variable is read as the variable restated.
`Variable.globalJson_restated` and `Variable.declaration?_restated`: what is written of a variable
is written of it restated. `VariableTable.parse_globalsText`: the file of a table is read as the
table restated, if its values are readable.
-/

set_option autoImplicit false

namespace NovelScript

namespace Variable

/-- The variable with the name it is shown by as its name, and without a value that is `null`. -/
def restated (v : Variable) : Variable :=
  { v with name := some v.displayName, value := v.value.bind Json.proper? }

/-- No variable is shown by an empty name. -/
theorem isEmpty_displayName (v : Variable) : v.displayName.isEmpty = false := by
  have madeUp : (displayName.madeUp v).isEmpty = false := by
    rw [← Bool.not_eq_true, String.isEmpty_iff, displayName.madeUp]
    intro empty
    have := congrArg String.toList empty
    simp at this
  unfold displayName
  split
  · split
    next => exact madeUp
    next notEmpty => simpa using notEmpty
  · exact madeUp

@[simp] theorem displayName_restated (v : Variable) : v.restated.displayName = v.displayName := by
  have shown := v.isEmpty_displayName
  rw [restated, displayName]
  dsimp only
  rw [shown, if_neg Bool.false_ne_true]

/-- Restating twice is restating. -/
theorem restated_restated (v : Variable) : v.restated.restated = v.restated := by
  have value : (v.value.bind Json.proper?).bind Json.proper? = v.value.bind Json.proper? := by
    rcases v.value with _ | value
    · rfl
    · cases value <;> rfl
  rw [restated, displayName_restated]
  exact congrArg (fun value => { v with name := some v.displayName, value := value }) value

/-- A value that is `null` is as good as none. -/
theorem getD_value_restated (v : Variable) : v.restated.value.getD .null = v.value.getD .null := by
  rw [restated]
  rcases v.value with _ | value
  · rfl
  · cases value <;> rfl

/-- The file lists a variable as it lists it restated. -/
theorem globalJson_restated (v : Variable) : v.restated.globalJson = v.globalJson := by
  rw [globalJson, displayName_restated, getD_value_restated]
  rfl

/-- A variable is declared as it is declared restated. -/
theorem declaration?_restated (v : Variable) : v.restated.declaration? = v.declaration? := by
  have value : v.restated.valueText = v.valueText := by
    rw [valueText, valueText, restated]
    rcases v.value with _ | value
    · rfl
    · cases value <;> rfl
  rw [declaration?, displayName_restated, value]
  rfl

/-! ## Read back -/

open Json

variable {room : Nat}

/-- What the file lists of a variable is read as the variable restated, if its value is readable one
container deeper. -/
theorem accepts_globalJson (v : Variable)
    (readable : ∀ value ∈ v.value, Readable ReadsBack (room + 1) value) :
    record.read.Accepts (room + 2) v.globalJson v.restated := by
  have value : (readOptional readValue).Accepts (room + 1) (v.value.getD .null)
      (v.value.bind proper?) := by
    cases given : v.value with
    | none => exact accepts_readOptional_null readValue
    | some value => exact accepts_readOptional_readValue (readable value given)
  refine RecordType.accepts_read
    (.step rfl rfl (RecordField.accepts_required (accepts_word v.scope)) <|
      .step rfl rfl (RecordField.accepts_withDefault (accepts_readInt32 v.scriptIndex)) <|
      .step rfl rfl (RecordField.accepts_required (accepts_readUInt16 v.id)) <|
      .step rfl rfl (RecordField.accepts_withDefault (accepts_readUInt8 v.typeCode)) <|
      .step rfl rfl (RecordField.accepts_withDefault
        (accepts_readOptional_readText v.displayName)) <|
      .step rfl rfl (RecordField.accepts_withDefault v.accepts_dimensionsJson) <|
      .step rfl rfl (RecordField.accepts_withDefault value) .done) ?_
  rfl

end Variable

/-! ## Tables -/

namespace VariableTable

/-- A variable behind all others is put behind them. -/
theorem insertEntry_last {v : Variable} {entries : List Variable}
    (behind : ∀ w ∈ entries, w.id < v.id) : insertEntry v entries = entries ++ [v] := by
  induction entries with
  | nil => rfl
  | cons w entries ih =>
    obtain ⟨first, others⟩ := List.forall_mem_cons.mp behind
    have ne : v.id ≠ w.id := fun same => UInt16.lt_irrefl _ (same ▸ first)
    rw [insertEntry, if_neg (UInt16.lt_asymm first), if_neg ne, ih others]
    rfl

theorem eq_of_toList_eq {table table' : VariableTable} (same : table.toList = table'.toList) :
    table = table' := by
  cases table
  cases table'
  cases same
  rfl

/-- Variables in order of their ids make the table that lists them. -/
theorem toList_ofList {vars : List Variable} (ordered : vars.Pairwise fun v w => v.id < w.id) :
    (ofList vars).toList = vars := by
  have put : ∀ (vars : List Variable) (table : VariableTable),
      (table.entries ++ vars).Pairwise (fun v w => v.id < w.id) →
        (vars.foldl insert table).entries = table.entries ++ vars := by
    intro vars
    induction vars with
    | nil => simp
    | cons v vars ih =>
      intro table ordered
      have last : (table.insert v).entries = table.entries ++ [v] :=
        insertEntry_last fun w mem =>
          (List.pairwise_append.mp ordered).2.2 w mem v List.mem_cons_self
      rw [List.foldl_cons, ih (table.insert v) (by simpa [last] using ordered), last]
      simp
  exact put vars empty ordered

/-- A table lists no variable that was not put into it. -/
theorem mem_of_mem_ofList {vars : List Variable} {v : Variable} (mem : v ∈ (ofList vars).toList) :
    v ∈ vars := by
  have put : ∀ (vars : List Variable) (table : VariableTable),
      v ∈ (vars.foldl insert table).entries → v ∈ table.entries ∨ v ∈ vars := by
    intro vars
    induction vars with
    | nil => exact fun _ mem => .inl mem
    | cons w vars ih =>
      intro table mem
      rcases ih (table.insert w) mem with inserted | later
      · rcases id_mem_insertEntry inserted with rfl | old
        · exact .inr List.mem_cons_self
        · exact .inl old
      · exact .inr (List.mem_cons_of_mem _ later)
  exact (put vars empty mem).resolve_left (List.not_mem_nil)

/-- The table of the variables restated. -/
def restated (table : VariableTable) : VariableTable :=
  ⟨table.entries.map Variable.restated, List.pairwise_map.mpr table.ordered⟩

/-- What is found in the restated table is what is found in the table, restated. -/
theorem get?_restated (table : VariableTable) (id : UInt16) :
    table.restated.get? id = (table.get? id).map Variable.restated :=
  List.find?_map ..

/-- The file is the same for the restated table. -/
theorem globalJson_restated (table : VariableTable) :
    table.restated.globalJson = table.globalJson := by
  rw [globalJson, toList, restated, List.map_map]
  simp only [Function.comp_def, Variable.globalJson_restated]
  rfl

/-- The declarations are the same for the restated table. -/
theorem declarations_restated (table : VariableTable) :
    table.restated.declarations = table.declarations := by
  rw [declarations, toList, restated, List.filter_map, List.filterMap_map]
  simp only [Function.comp_def, Variable.declaration?_restated]
  rfl

/-- The globals file of a table is read as the table restated, if all values are readable where they
stand. -/
theorem parse_globalsText (table : VariableTable)
    (readable : ∀ v ∈ table.toList, ∀ value ∈ v.value, Json.Readable Json.ReadsBack 125 value) :
    parse (table.globalsText .json) = .ok table.restated := by
  have accepts : (Json.readListOf Variable.record.read).Accepts Json.maxDepth table.globalJson
      (table.toList.map Variable.restated) := by
    refine @Json.accepts_readListOf 126 _ _ _ _ ?_
    rw [List.forall₂_map_left_iff, List.forall₂_map_right_iff]
    exact List.forall₂_same.mpr fun v mem => v.accepts_globalJson (readable v mem)
  have entries : ofList (table.toList.map Variable.restated) = table.restated :=
    eq_of_toList_eq (toList_ofList table.restated.ordered)
  rw [parse, globalsText, Json.pretty,
    Json.readDocument_of_accepts accepts (Json.written_indented _ 0)]
  exact congrArg Except.ok entries

end VariableTable

end NovelScript
