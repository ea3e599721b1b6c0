import NovelScript.Project.Basic
import NovelScript.Proofs.Renaming.Shown
import NovelScript.Proofs.Variable.Restated

/-!
# The globals file — a table of variables that stands for the project's

In JSON form the globals file has the format of a variable table. It is not the table it was written
from, since it names every variable; but it says the same of each of them, it would be written the
same again, and an expression that is reconstructed with it comes out the same. What makes this work
is that nothing but the name a variable is shown by ever looks at its name (`Renaming.Unseen`).

The file has to be readable in the first place. Its values stand one container less deep than they
do in a dump, whole numbers and keys are as the reader left them, and decimals are asked to read
back.

## What is proved

`Project.readable_of_parse`: what a project declares is readable. `globals_faithful`: the
globals file of a project is read as a table that lists the same and shows the same.
-/

set_option autoImplicit false

namespace NovelScript

open Json

/-! ## What a project declares -/

/-- The values that a project declares are bounded by the room that is left inside three containers:
the project, the list of its variables, and a variable. -/
theorem Project.bounded_of_parse {text : String} {project : Project}
    (parsed : parse text = .ok project) : ∀ v ∈ project.declared, v.Bounded 124 := by
  obtain ⟨rest, read⟩ := exists_of_readDocument parsed
  have yields : Yields (record.read (126 + 1)) fun project =>
      ∀ v ∈ project.declared, v.Bounded 124 := by
    refine RecordType.yields_read (fun field mem => ?_) (by rintro _ ⟨⟩)
    simp only [record, List.mem_cons, List.not_mem_nil, or_false] at mem
    rcases mem with rfl | rfl
    · exact RecordField.keeps_withDefault (yields_readListOf (Variable.yields_read 124))
        fun _ bounded _ _ => bounded
    · exact RecordField.keeps_withDefault (yields_true _) fun _ _ _ kept => kept
  exact yields read

/-- Every decimal in an initial value reads back. -/
def VariableTable.DecimalsReadBack (table : VariableTable) : Prop :=
  ∀ v ∈ table.toList, ∀ value ∈ v.value, ∀ x, (Json.decimal x).Within value → ReadsBack x

/-- What a project declares is readable where the globals file has it, inside two containers. -/
theorem Project.readable_of_parse {text : String} {project : Project}
    (parsed : parse text = .ok project) (decimals : project.table.DecimalsReadBack) :
    ∀ v ∈ project.table.toList, ∀ value ∈ v.value, Readable ReadsBack 125 value := by
  intro v mem value given
  have bounded := bounded_of_parse parsed v (VariableTable.mem_of_mem_ofList mem) value given
  have roomy : value.depth ≤ 125 := Nat.le_succ_of_le bounded.depth_le
  exact (bounded.of_depth_le roomy).of_decimals (decimals v mem value given)

/-! ## One table for another -/

/-- Records of one variable that say the same of it: they may differ in how its name is known, and
in whether it has `null` for a value or none. -/
structure Variable.SameRecord (v w : Variable) : Prop where
  scope : v.scope = w.scope
  scriptIndex : v.scriptIndex = w.scriptIndex
  id : v.id = w.id
  typeCode : v.typeCode = w.typeCode
  dimensions : v.dimensions = w.dimensions
  value : v.value.getD .null = w.value.getD .null
  displayName : v.displayName = w.displayName

theorem Variable.sameRecord_restated (v : Variable) : v.SameRecord v.restated where
  scope := rfl
  scriptIndex := rfl
  id := rfl
  typeCode := rfl
  dimensions := rfl
  value := v.getD_value_restated.symm
  displayName := v.displayName_restated.symm

/-- The renaming that restates variables. -/
def Renaming.restating : Renaming := ⟨id, Variable.restated, id⟩

theorem Renaming.unseen_restating : restating.Unseen where
  text _ := rfl
  keyword _ := rfl
  displayName := Variable.displayName_restated
  scope _ := rfl
  scriptIndex _ := rfl
  id _ := rfl
  typeCode _ := rfl
  dimensions _ := rfl

/-- A table reads as it reads restated. -/
theorem VariableTable.readsAlike_restated (table : VariableTable) (encoding : TextEncoding) :
    ReadsAlike .restating .restating table table.restated encoding encoding where
  vars id := by
    have twice : Variable.restated ∘ Variable.restated = Variable.restated :=
      funext Variable.restated_restated
    rw [table.get?_restated, Option.map_map]
    exact congrArg (fun f => (table.get? id).map f) twice.symm
  texts _ := rfl

/-- An expression is shown alike whether it is reconstructed with a table or with the table
restated. -/
theorem VariableTable.shown_reconstruct_restated (table : VariableTable) (bytes : List UInt8)
    (assignment : Option Assignment) (encoding : TextEncoding) :
    (reconstruct bytes assignment table encoding).map Expression.shown =
      (reconstruct bytes assignment table.restated encoding).map Expression.shown := by
  rw [reconstruct_eq, reconstruct_eq]
  exact shown_eq_of_loadedAlike Renaming.unseen_restating
    (rootOf_alike (table.readsAlike_restated encoding) ⟨rfl, rfl⟩ bytes)

/-- The globals file of a project is a variable table. It lists the same ids, says the same of each
variable, and would be written the same, as records and as declarations; and whatever bytes,
whatever assignment and whatever encoding, an expression has the same text and the same tree with
it, or fails with the same error. -/
theorem globals_faithful {text : String} {project : Project}
    (parsed : Project.parse text = .ok project) (decimals : project.table.DecimalsReadBack) :
    ∃ table, VariableTable.parse (project.table.globalsText .json) = .ok table ∧
      List.Forall₂ Variable.SameRecord project.table.toList table.toList ∧
      table.globalJson = project.table.globalJson ∧
      table.declarationText = project.table.declarationText ∧
      ∀ bytes assignment encoding,
        (reconstruct bytes assignment project.table encoding).map Expression.shown =
          (reconstruct bytes assignment table encoding).map Expression.shown := by
  refine ⟨project.table.restated, ?_, ?_, ?_, ?_, ?_⟩
  · exact project.table.parse_globalsText (Project.readable_of_parse parsed decimals)
  · exact List.forall₂_map_right_iff.mpr
      (List.forall₂_same.mpr fun v _ => v.sameRecord_restated)
  · exact project.table.globalJson_restated
  · exact congrArg (fun lines => String.join (lines.map (· ++ "\n")))
      project.table.declarations_restated
  · exact project.table.shown_reconstruct_restated

/-- A dump of two variables without names, one of them with decimals inside its value: they are
listed by the names they are shown by, and read back. -/
theorem globals_faithful_unnamed :
    let half : Binary64 := ⟨0x3FE0000000000000⟩
    let offsets : Json := .object [("a", .array [.null, .int (-1)]), ("b", .decimal half)]
    let dump : Json := .object [("variables", .array [
      .object [("scope", .string "Global"), ("variableId", .int 1), ("type", .int 2),
        ("value", .decimal half)],
      .object [("scope", .string "Local"), ("scriptIndex", .int 3), ("variableId", .int 2),
        ("dimensions", .array [.int 4]), ("name", .string ""), ("value", offsets)]])]
    let project : Project := ⟨[⟨.global, 0, 1, 2, [], none, some (.decimal half)⟩,
      ⟨.script, 3, 2, 0, [4], some "", some offsets⟩], []⟩
    Project.parse dump.compact = .ok project ∧ project.table.DecimalsReadBack ∧
      project.table.toList.map Variable.displayName = ["g1", "l2"] ∧
      ∃ table, VariableTable.parse (project.table.globalsText .json) = .ok table ∧
        List.Forall₂ Variable.SameRecord project.table.toList table.toList ∧
        table.globalJson = project.table.globalJson ∧
        table.declarationText = project.table.declarationText ∧
        ∀ bytes assignment encoding,
          (reconstruct bytes assignment project.table encoding).map Expression.shown =
            (reconstruct bytes assignment table encoding).map Expression.shown := by
  intro half offsets dump project
  have back : ReadsBack half := by
    unfold ReadsBack
    decide +kernel
  have readable : Readable ReadsBack 124 offsets := by
    refine .object (by decide) (List.forall_mem_cons.mpr ⟨?_, List.forall_mem_singleton.mpr ?_⟩)
    · refine .array (List.forall_mem_cons.mpr ⟨.null, List.forall_mem_singleton.mpr ?_⟩)
      exact .int (by decide) (by decide)
    · exact .decimal back
  have first : Variable.record.read.Accepts 125
      (.object [("scope", .string "Global"), ("variableId", .int 1), ("type", .int 2),
        ("value", .decimal half)]) ⟨.global, 0, 1, 2, [], none, some (.decimal half)⟩ :=
    RecordType.accepts_read
      (.step rfl rfl (RecordField.accepts_required (Variable.accepts_word .global)) <|
        .step rfl rfl (RecordField.accepts_required (accepts_readUInt16 1)) <|
        .step rfl rfl (RecordField.accepts_withDefault (accepts_readUInt8 2)) <|
        .step rfl rfl (RecordField.accepts_withDefault
          (accepts_readOptional_readValue (.decimal back))) .done) rfl
  have second : Variable.record.read.Accepts 125
      (.object [("scope", .string "Local"), ("scriptIndex", .int 3), ("variableId", .int 2),
        ("dimensions", .array [.int 4]), ("name", .string ""), ("value", offsets)])
      ⟨.script, 3, 2, 0, [4], some "", some offsets⟩ :=
    RecordType.accepts_read
      (.step rfl rfl (RecordField.accepts_required (Variable.accepts_word .script)) <|
        .step rfl rfl (RecordField.accepts_withDefault (accepts_readInt32 3)) <|
        .step rfl rfl (RecordField.accepts_required (accepts_readUInt16 2)) <|
        .step rfl rfl (RecordField.accepts_withDefault
          (accepts_readListOf (.cons (accepts_readUInt32 4) .nil))) <|
        .step rfl rfl (RecordField.accepts_withDefault (accepts_readOptional_readText "")) <|
        .step rfl rfl (RecordField.accepts_withDefault
          (accepts_readOptional_readValue readable)) .done) rfl
  have parsed : Project.parse dump.compact = .ok project :=
    readDocument_of_accepts (RecordType.accepts_read
      (.step rfl rfl (RecordField.accepts_withDefault
        (accepts_readListOf (.cons first (.cons second .nil)))) .done) rfl) (written_compact dump)
  have decimals : project.table.DecimalsReadBack := by
    refine List.forall_mem_cons.mpr ⟨?_, List.forall_mem_singleton.mpr ?_⟩
    · rintro value ⟨⟩ x within
      exact @Readable.decimal_within 0 _ _ (.decimal back) _ within
    · rintro value ⟨⟩ x within
      exact readable.decimal_within within
  exact ⟨parsed, decimals, by with_unfolding_all rfl, globals_faithful parsed decimals⟩

end NovelScript
