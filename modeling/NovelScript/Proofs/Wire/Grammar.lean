import NovelScript.Proofs.Wire.Tiles

/-!
# The wire grammar — which bytes are decoded

The opcode table declares for every opcode how the payload of its tokens is laid out. Read as a
grammar, this says which byte strings are lists of tokens: tiles of listed opcodes, each with a
payload of the declared layout (`InGrammar`). A variable is part of its layout, since its id has to
be declared.

Decoding keeps to the grammar but for one layout. Operators are declared to have no payload, and the
decoder takes any and drops it. So what decodes is the grammar with that layout left unchecked
(`Tile.Taken`), and the two are one exactly on bytes whose operators have no payload.

## What is proved

`decodes_iff`: which bytes decode, and when they are in the grammar. `decodes_operator_payload`: two
bytes behind an addition are not in the grammar, and decode to the addition alone.
-/

set_option autoImplicit false

namespace NovelScript

/-- A payload is laid out as the table declares it: nothing, anything, as many bytes as the number
has, or a mode byte and the id of a variable of the table, low byte first. -/
def Layout.Describes (table : VariableTable) : Layout → List UInt8 → Prop
  | .none, payload => payload = []
  | .any, _ => True
  | .i8, payload => payload.length = 1
  | .i16, payload => payload.length = 2
  | .i32, payload => payload.length = 4
  | .i64, payload => payload.length = 8
  | .f64, payload => payload.length = 8
  | .text, _ => True
  | .var, payload => ∃ mode low high, payload = [mode, low, high] ∧
      ∃ v ∈ table.toList, v.id.toNat = low.toNat + 256 * high.toNat

/-- Whether the tokens of an opcode are operators. -/
def Opcode.isOperator (op : Opcode) : Bool :=
  match op.meaning with
  | .binary _ | .unary _ => true
  | _ => false

namespace Tile

/-- The tile is a token of the grammar: its opcode is listed, and its payload has the layout that
the opcode is declared with. -/
def Declared (table : VariableTable) (tile : Tile) : Prop :=
  ∃ op ∈ Opcode.table, op.code = tile.code ∧ op.layout.Describes table tile.payload

/-- The tile is a token that is decoded: its opcode is listed, and its payload has the declared
layout or is that of an operator. -/
def Taken (table : VariableTable) (tile : Tile) : Prop :=
  ∃ op ∈ Opcode.table, op.code = tile.code ∧
    (op.isOperator = true ∨ op.layout.Describes table tile.payload)

/-- If the tile is an operator, it has no payload. -/
def BareIfOperator (tile : Tile) : Prop :=
  ∀ op ∈ Opcode.table, op.code = tile.code → op.isOperator = true → tile.payload = []

end Tile

/-- The bytes are tokens as the opcode table declares them, one behind the other. -/
def InGrammar (table : VariableTable) (bytes : List UInt8) : Prop :=
  ∃ tiles, bytes = Tile.layOut tiles ∧ ∀ tile ∈ tiles, tile.Declared table

/-- The layout that tokens of a meaning are declared with. -/
def Meaning.layout : Meaning → Layout
  | .nop | .element => .any
  | .binary _ | .unary _ => .none
  | .byte => .i8
  | .short => .i16
  | .int => .i32
  | .long => .i64
  | .decimal => .f64
  | .text => .text
  | .access | .reference => .var

/-- The layout of an opcode is that of its meaning. -/
theorem Opcode.layout_eq : ∀ op ∈ table, op.layout = op.meaning.layout := by decide

/-- Operators are declared without a payload. -/
theorem Opcode.layout_of_isOperator : ∀ op ∈ table, op.isOperator = true → op.layout = .none := by
  decide

namespace Decoder

open Tile

variable {table : VariableTable} {encoding : TextEncoding} {pc : Nat}

/-- A place is found exactly for the payloads that lay out a variable of the table. -/
theorem exists_place_iff {payload : List UInt8} (length : payload.length = 3) :
    (∃ found, place table pc payload = .ok found) ↔ Layout.var.Describes table payload := by
  match payload, length with
  | [mode, low, high], _ =>
    have bound : LittleEndian.read [low, high] < UInt16.size := LittleEndian.read_lt [low, high]
    have id : (UInt16.ofNat (LittleEndian.read [low, high])).toNat =
        low.toNat + 256 * high.toNat := by
      rw [UInt16.toNat_ofNat_of_lt' bound]
      simp [LittleEndian.read]
    simp only [place, List.drop_succ_cons, List.drop_zero, Layout.Describes]
    constructor
    · rintro ⟨found, made⟩
      split at made
      next v listed =>
        obtain ⟨mem, same⟩ := (table.get?_eq_some_iff _ v).mp listed
        exact ⟨mode, low, high, rfl, v, mem, by rw [same, id]⟩
      next => cases made
    · rintro ⟨_, _, _, ⟨⟩, v, mem, same⟩
      have listed := (table.get?_eq_some_iff (UInt16.ofNat (LittleEndian.read [low, high])) v).mpr
        ⟨mem, UInt16.toNat_inj.mp (by rw [same, id])⟩
      rw [listed]
      exact ⟨_, rfl⟩

/-- The payloads that are read for an opcode are those of its layout, and for an operator all. -/
theorem exists_node_iff {op : Opcode} (listed : op ∈ Opcode.table) (payload : List UInt8) :
    (op.Fits payload ∧ ∃ result, node table encoding pc payload op.meaning = .ok result) ↔
      op.isOperator = true ∨ op.layout.Describes table payload := by
  have declared := Opcode.layout_eq op listed
  obtain ⟨mnemonic, code, meaning, layout⟩ := op
  obtain rfl : layout = meaning.layout := declared
  -- The meaning decides which size is checked, and only a variable may still be refused.
  cases meaning with
  | access | reference =>
    have mapped : ∀ {f : Place → Node},
        (∃ result, (place table pc payload).map f = .ok result) ↔
          ∃ found, place table pc payload = .ok found :=
      exists_map_eq_ok_iff
    simp only [Opcode.Fits, checkedSize?, Meaning.layout, Layout.size?, Option.some.injEq,
      forall_eq', node, mapped, Opcode.isOperator, Bool.false_eq_true, false_or]
    constructor
    · rintro ⟨length, found⟩
      exact (exists_place_iff length).mp found
    · intro described
      have length : payload.length = 3 := by
        obtain ⟨_, _, _, rfl, -⟩ := described
        rfl
      exact ⟨length, (exists_place_iff length).mpr described⟩
  | _ =>
    simp [Opcode.Fits, checkedSize?, Meaning.layout, Layout.size?, node, Opcode.isOperator,
      Layout.Describes]

/-- The tiles that stand for a node are the tokens that are decoded. -/
theorem exists_readsAs_iff {tile : Tile} :
    (∃ result, tile.ReadsAs table encoding result) ↔ tile.Taken table := by
  constructor
  · rintro ⟨result, op, listed, code, fits, meant⟩
    exact ⟨op, listed, code, (exists_node_iff listed _).mp ⟨fits, result, meant⟩⟩
  · rintro ⟨op, listed, code, taken⟩
    obtain ⟨fits, result, meant⟩ := (exists_node_iff listed _).mpr taken
    exact ⟨result, op, listed, code, fits, meant⟩

/-- Bytes that decode are tokens that are decoded, and the other way round. -/
theorem decodes_iff_taken {bytes : List UInt8} :
    ((ofTable table encoding).decodeAll bytes).failure = none ↔
      ∃ tiles, bytes = layOut tiles ∧ ∀ tile ∈ tiles, tile.Taken table := by
  constructor
  · intro decodes
    obtain ⟨tiles, laid, reads⟩ := exists_tiles_of_decodes decodes
    refine ⟨tiles, laid, fun tile mem => ?_⟩
    obtain ⟨i, bound, rfl⟩ := List.mem_iff_getElem.mp mem
    exact exists_readsAs_iff.mp ⟨_, reads.get bound (reads.length_eq ▸ bound)⟩
  · rintro ⟨tiles, rfl, taken⟩
    have read : ∃ nodes, List.Forall₂ (ReadsAs table encoding) tiles nodes := by
      induction tiles with
      | nil => exact ⟨[], .nil⟩
      | cons tile tiles ih =>
        obtain ⟨first, others⟩ := List.forall_mem_cons.mp taken
        obtain ⟨result, reads⟩ := exists_readsAs_iff.mpr first
        obtain ⟨nodes, rest⟩ := ih others
        exact ⟨result :: nodes, .cons reads rest⟩
    obtain ⟨nodes, reads⟩ := read
    have run := decodeAll_layOut_append reads []
    rw [List.append_nil, decodeAll_nil] at run
    rw [run]
    rfl

/-- A tile is declared if it is decoded and has no payload where it is an operator. -/
theorem declared_iff {tile : Tile} :
    tile.Declared table ↔ tile.Taken table ∧ tile.BareIfOperator := by
  constructor
  · rintro ⟨op, listed, code, described⟩
    refine ⟨⟨op, listed, code, .inr described⟩, fun other listed' code' operator => ?_⟩
    -- One byte is the code of one opcode, so the declared layout is that of an operator.
    have same : other = op := by
      have first := Opcode.ofCode?_code op listed
      rw [code, ← code', Opcode.ofCode?_code other listed'] at first
      exact Option.some.inj first
    subst same
    rw [Opcode.layout_of_isOperator other listed operator] at described
    exact described
  · rintro ⟨⟨op, listed, code, taken⟩, bare⟩
    refine ⟨op, listed, code, ?_⟩
    rcases taken with operator | described
    · rw [Opcode.layout_of_isOperator op listed operator]
      exact bare op listed code operator
    · exact described

/-- What is read for an operator does not depend on the payload. -/
theorem exists_node_of_isOperator {op : Opcode} (operator : op.isOperator = true) :
    ∃ result, ∀ payload, node table encoding pc payload op.meaning = .ok result := by
  unfold Opcode.isOperator at operator
  split at operator
  next meant => exact ⟨_, fun _ => by rw [meant]; rfl⟩
  next meant => exact ⟨_, fun _ => by rw [meant]; rfl⟩
  next => cases operator

/-- The payload of an operator leaves no trace in what is decoded. -/
theorem nodes_of_operator {op : Opcode} (listed : op ∈ Opcode.table)
    (operator : op.isOperator = true) {payload : List UInt8}
    (small : payload.length ≤ Token.maxPayload) (bytes : List UInt8) :
    ((ofTable table encoding).decodeAll (Token.bytes op.code payload ++ bytes)).nodes =
      ((ofTable table encoding).decodeAll (Token.bytes op.code [] ++ bytes)).nodes := by
  obtain ⟨result, meant⟩ := @exists_node_of_isOperator table encoding 0 op operator
  have fits : ∀ payload, op.Fits payload := fun payload =>
    ((@exists_node_iff table encoding 0 op listed payload).mpr (.inl operator)).1
  rw [decodeAll_cons listed small (fits payload) (meant payload),
    decodeAll_cons listed (Nat.zero_le _) (fits []) (meant [])]
  rfl

/-- Bytes decode exactly if they are tokens of listed opcodes, each with a payload of the declared
layout or, where it is an operator, with any payload at all. So bytes are in the grammar exactly if
they decode and no operator among their tokens has a payload; an operator that has one decodes as if
it had none. -/
theorem decodes_iff (table : VariableTable) (encoding : TextEncoding) (bytes : List UInt8) :
    let decodeAll := (ofTable table encoding).decodeAll
    ((decodeAll bytes).failure = none ↔
      ∃ tiles, bytes = layOut tiles ∧ ∀ tile ∈ tiles, tile.Taken table) ∧
    (InGrammar table bytes ↔ (decodeAll bytes).failure = none ∧
      ∀ tiles, bytes = layOut tiles → ∀ tile ∈ tiles, tile.BareIfOperator) ∧
    ∀ op ∈ Opcode.table, op.isOperator = true →
      ∀ payload : List UInt8, payload.length ≤ Token.maxPayload →
        (decodeAll (Token.bytes op.code payload ++ bytes)).nodes =
          (decodeAll (Token.bytes op.code [] ++ bytes)).nodes := by
  intro decodeAll
  refine ⟨decodes_iff_taken, ?_, fun op listed operator payload small =>
    nodes_of_operator listed operator small bytes⟩
  rw [decodes_iff_taken]
  constructor
  · rintro ⟨tiles, rfl, declared⟩
    refine ⟨⟨tiles, rfl, fun tile mem => (declared_iff.mp (declared tile mem)).1⟩,
      fun others same tile mem => ?_⟩
    obtain rfl := layOut_injective same
    exact (declared_iff.mp (declared tile mem)).2
  · rintro ⟨⟨tiles, laid, taken⟩, bare⟩
    exact ⟨tiles, laid, fun tile mem => declared_iff.mpr ⟨taken tile mem, bare tiles laid tile mem⟩⟩

/-- Two bytes behind an addition are not in the grammar, and decode to the addition. -/
theorem decodes_operator_payload :
    let bytes : List UInt8 := [0x2B, 2, 0, 0x41, 0x42]
    ¬ InGrammar .empty bytes ∧
      (ofTable .empty .utf8).decodeAll bytes = ⟨[.binaryToken (.arithmetic .add)], none⟩ := by
  refine ⟨?_, by with_unfolding_all rfl⟩
  rintro ⟨tiles, laid, declared⟩
  let sum : Tile := ⟨0x2B, [0x41, 0x42], by decide⟩
  have written : layOut [sum] = [0x2B, 2, 0, 0x41, 0x42] := by decide
  obtain rfl := layOut_injective (written.trans laid)
  have bare := (declared_iff.mp (declared sum List.mem_cons_self)).2
  cases bare ⟨"add", 0x2B, .binary (.arithmetic .add), .none⟩ (by decide) rfl rfl

end Decoder

end NovelScript
