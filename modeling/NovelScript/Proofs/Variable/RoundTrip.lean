import NovelScript.Proofs.Json.Depth
import NovelScript.Proofs.Json.Records
import NovelScript.Variable.Json

/-!
# Variables read and written

A variable is written as an object in the order of its fields. It is read from much else: from the
fields in any order, with members among them that no field has, from a list of the fields, without
those that may be missing. So a text is not written again as it was, but the variable that was read
from it is written in a way that is read as the same variable.

Not every variable can be read. An initial value that is `null` is written, and read as none. And a
value stands in the record of its variable, which is a container like another, so it may nest one
less deep than a document. This is all there is in the way (`round_trip`), where a value is as the
reader leaves values and its decimals read back.

## What is proved

`Variable.parse_of_written`: however a variable is written, it is read without a value that is
`null`. `Variable.limits_of_parse`: what is read has no such value, and none that nests too deep.
`Variable.round_trip`: what was read is read again; and which variables can be read.
-/

set_option autoImplicit false

namespace NovelScript

namespace Variable

open Json

variable {room : Nat}

/-! ## Written -/

theorem accepts_word (s : Scope) : Scope.read.Accepts room (.string s.word) s := by
  refine accepts_readWordOf ?_
  cases s <;> rfl

theorem accepts_dimensionsJson (v : Variable) :
    (readListOf readUInt32).Accepts (room + 1) v.dimensionsJson v.dimensions := by
  refine accepts_readListOf ?_
  rw [List.forall₂_map_left_iff]
  exact List.forall₂_same.mpr fun n _ => accepts_readUInt32 n

/-- The members that a record always has are taken as all of a variable but its name and its initial
value. -/
theorem takes_leadingMembers (v : Variable) :
    RecordType.TakesFields record (room + 1) ⟨[], blank⟩ v.leadingMembers
      ⟨["dimensions", "type", "variableId", "scriptIndex", "scope"],
        { v with name := none, value := none }⟩ :=
  .step rfl rfl (RecordField.accepts_required (accepts_word v.scope)) <|
    .step rfl rfl (RecordField.accepts_withDefault (accepts_readInt32 v.scriptIndex)) <|
    .step rfl rfl (RecordField.accepts_required (accepts_readUInt16 v.id)) <|
    .step rfl rfl (RecordField.accepts_withDefault (accepts_readUInt8 v.typeCode)) <|
    .step rfl rfl (RecordField.accepts_withDefault v.accepts_dimensionsJson) .done

/-- What is written of a variable is read as the variable, but without a value that is `null`. -/
theorem accepts_toJson (v : Variable)
    (readable : ∀ value ∈ v.value, Readable ReadsBack (room + 1) value) :
    record.read.Accepts (room + 2) v.toJson { v with value := v.value.bind proper? } := by
  have front := @takes_leadingMembers room v
  unfold toJson
  rw [List.append_assoc]
  obtain ⟨scope, scriptIndex, id, typeCode, dimensions, name, value⟩ := v
  -- A name and a value are members only where there are any, so a record has one of four forms.
  cases name with
  | none =>
    cases value with
    | none => exact RecordType.accepts_read (front.append .done) rfl
    | some value =>
      have taken := accepts_readOptional_readValue (readable value rfl)
      exact RecordType.accepts_read (front.append
        (.step rfl rfl (RecordField.accepts_withDefault taken) .done)) rfl
  | some name =>
    have named := @accepts_readOptional_readText (room + 1) name
    cases value with
    | none =>
      exact RecordType.accepts_read (front.append
        (.step rfl rfl (RecordField.accepts_withDefault named) .done)) rfl
    | some value =>
      have taken := accepts_readOptional_readValue (readable value rfl)
      exact RecordType.accepts_read (front.append
        (.step rfl rfl (RecordField.accepts_withDefault named) <|
          .step rfl rfl (RecordField.accepts_withDefault taken) .done)) rfl

/-- However the record of a variable is laid out, it is read as the variable, but without a value
that is `null`. -/
theorem parse_of_written {v : Variable} {text : String}
    (readable : ∀ value ∈ v.value, Readable ReadsBack 126 value)
    (written : Written v.toJson text.toList) :
    parse text = .ok { v with value := v.value.bind proper? } :=
  readDocument_of_accepts (accepts_toJson v readable) written

/-! ## Read -/

/-- The initial value of a variable that was read is what the reader of values yields, or none. -/
theorem yields_read_value {Q : Option Json → Prop}
    (yields : Yields (readOptional readValue room) Q) (none : Q none) :
    Yields (record.read (room + 1)) fun v => Q v.value := by
  refine RecordType.yields_read (fun field mem => ?_) none
  simp only [record, List.mem_cons, List.not_mem_nil, or_false] at mem
  -- All fields but the last leave the value as it is.
  rcases mem with rfl | rfl | rfl | rfl | rfl | rfl | rfl
  · exact RecordField.keeps_required (yields_true _) fun _ _ _ kept => kept
  · exact RecordField.keeps_withDefault (yields_true _) fun _ _ _ kept => kept
  · exact RecordField.keeps_required (yields_true _) fun _ _ _ kept => kept
  · exact RecordField.keeps_withDefault (yields_true _) fun _ _ _ kept => kept
  · exact RecordField.keeps_withDefault (yields_true _) fun _ _ _ kept => kept
  · exact RecordField.keeps_withDefault (yields_true _) fun _ _ _ kept => kept
  · exact RecordField.keeps_withDefault yields fun _ given _ _ => given

/-- The initial value is bounded, if there is one. -/
def Bounded (room : Nat) (v : Variable) : Prop := ∀ value ∈ v.value, Json.Bounded room value

/-- The initial value of a variable has the room that is left inside its record. -/
theorem yields_read (room : Nat) : Yields (record.read (room + 1)) (Bounded room) :=
  yields_read_value (yields_readOptional (yields_readValue room)) nofun

/-! ## Round trips -/

/-- The initial value is as a value in memory is: its whole numbers fit sixty-four bits, and the
members of its objects stand in the order of their keys. -/
def Regular (v : Variable) : Prop := ∀ value ∈ v.value, value.Regular

/-- Every decimal in the initial value reads back. -/
def DecimalsReadBack (v : Variable) : Prop :=
  ∀ value ∈ v.value, ∀ x, (Json.decimal x).Within value → ReadsBack x

/-- The value of a variable that was read is not `null`, and leaves room for the record. -/
theorem limits_of_parse {text : String} {v : Variable} (parsed : parse text = .ok v) :
    v.Regular ∧ v.value ≠ some .null ∧ ∀ value ∈ v.value, value.depth < maxDepth := by
  obtain ⟨rest, read⟩ := exists_of_readDocument parsed
  have bounded : v.Bounded 126 := yields_read 126 read
  have notNull := yields_read_value (yields_readOptional_readValue 126) nofun read
  exact ⟨fun value given => ⟨126, bounded value given⟩, notNull,
    fun value given => Nat.lt_succ_of_le (bounded value given).depth_le⟩

/-- A value other than `null` stays where `null` is no value. -/
theorem bind_proper? {v : Variable} (notNull : v.value ≠ some .null) :
    v.value.bind proper? = v.value := by
  cases given : v.value with
  | none => rfl
  | some value => cases value <;> first | rfl | exact absurd given notNull

/-- A variable whose decimals read back is read from what is written of it, if its value leaves room
for its record and is not `null`. -/
theorem parse_compact_toJson {v : Variable} (regular : v.Regular) (decimals : v.DecimalsReadBack)
    (notNull : v.value ≠ some .null) (shallow : ∀ value ∈ v.value, value.depth < maxDepth) :
    parse v.toJson.compact = .ok v := by
  have readable : ∀ value ∈ v.value, Readable ReadsBack 126 value := fun value given =>
    (regular value given).readable (decimals value given) (Nat.le_of_lt_succ (shallow value given))
  rw [parse_of_written readable (written_compact _), bind_proper? notNull]

/-- A variable that was read from any text is read again from what is written of it, as the same
variable, which is written as the same text. And the variables that are read from what is written of
them are those whose value is not `null` and leaves room for the record. All this is where the
decimals of the value read back. -/
theorem round_trip :
    (∀ text v, parse text = .ok v → v.DecimalsReadBack →
      parse v.toJson.compact = .ok v ∧
      (parse v.toJson.compact).map (fun again => again.toJson.compact) = .ok v.toJson.compact) ∧
    ∀ v : Variable, v.Regular → v.DecimalsReadBack →
      (parse v.toJson.compact = .ok v ↔
        v.value ≠ some .null ∧ ∀ value ∈ v.value, value.depth < maxDepth) := by
  constructor
  · intro text v parsed decimals
    obtain ⟨regular, notNull, shallow⟩ := limits_of_parse parsed
    have again : parse v.toJson.compact = .ok v :=
      parse_compact_toJson regular decimals notNull shallow
    exact ⟨again, congrArg (Except.map _) again⟩
  · intro v regular decimals
    constructor
    · intro parsed
      exact (limits_of_parse parsed).2
    · rintro ⟨notNull, shallow⟩
      exact parse_compact_toJson regular decimals notNull shallow

set_option maxRecDepth 4000 in
/-- A record in another order, with a member that no field has and a name that is `null`, and the
list of its fields are read as one variable, which is read again. A variable with a decimal for a
value is read as well. -/
theorem round_trip_shuffled_and_listed :
    let shuffled := "\x7b\"value\":\x7b\"b\":-1,\"a\":[]\x7d,\"remark\":[\x7b\x7d]," ++
      "\"name\":null,\"variableId\":2,\"scope\":\"Local\"\x7d"
    let listed := "[\"Local\",0,2,0,[],null,\x7b\"a\":[],\"b\":-1\x7d]"
    let offsets : Json := .object [("a", .array []), ("b", .int (-1))]
    let v : Variable := ⟨.script, 0, 2, 0, [], none, some offsets⟩
    let half : Binary64 := ⟨0x3FE0000000000000⟩
    let w : Variable := ⟨.global, 0, 1, 2, [4], some "half", some (.decimal half)⟩
    (parse shuffled = .ok v ∧ parse listed = .ok v ∧ v.DecimalsReadBack ∧
      parse v.toJson.compact = .ok v ∧
      (parse v.toJson.compact).map (fun again => again.toJson.compact) = .ok v.toJson.compact) ∧
    w.Regular ∧ w.DecimalsReadBack ∧ parse w.toJson.compact = .ok w := by
  intro shuffled listed offsets v half w
  have ofShuffled : parse shuffled = .ok v := by
    dsimp only [shuffled, String.reduceAppend]
    with_unfolding_all rfl
  have ofListed : parse listed = .ok v := by
    dsimp only [listed]
    with_unfolding_all rfl
  have decimals : v.DecimalsReadBack := by
    have readable : Readable ReadsBack 2 offsets := by
      refine .object (by decide) (List.forall_mem_cons.mpr
        ⟨.array nofun, List.forall_mem_singleton.mpr (.int ?_ ?_)⟩) <;> decide
    rintro value ⟨⟩ x within
    exact readable.decimal_within within
  have regular : w.Regular := by
    rintro value ⟨⟩
    exact ⟨0, .decimal trivial⟩
  have halves : w.DecimalsReadBack := by
    have back : ReadsBack half := by
      unfold ReadsBack
      decide +kernel
    rintro value ⟨⟩ x within
    exact @Readable.decimal_within 0 _ _ (.decimal back) _ within
  have shallow : ∀ value ∈ w.value, value.depth < maxDepth := by
    rintro value ⟨⟩
    decide
  exact ⟨⟨ofShuffled, ofListed, decimals, round_trip.1 shuffled v ofShuffled decimals⟩,
    regular, halves, (round_trip.2 w regular halves).mpr ⟨nofun, shallow⟩⟩

/-- A variable whose value stands in as many containers as a document may have does not come back:
its record is one more. -/
theorem parse_compact_nested_ne :
    let deep : Variable := ⟨.global, 0, 1, 0, [], none, some (Json.nested maxDepth)⟩
    deep.Regular ∧ deep.DecimalsReadBack ∧ deep.value ≠ some .null ∧
      parse deep.toJson.compact ≠ .ok deep := by
  intro deep
  have within (P : Binary64 → Prop) : ∀ value ∈ deep.value, Readable P maxDepth value := by
    rintro value ⟨⟩
    exact readable_nested P maxDepth
  refine ⟨fun value given => ⟨maxDepth, within _ value given⟩,
    fun value given x => (within ReadsBack value given).decimal_within, nofun, fun parsed => ?_⟩
  have shallow := (limits_of_parse parsed).2.2 _ rfl
  rw [depth_nested] at shallow
  exact Nat.lt_irrefl _ shallow

end Variable

end NovelScript
