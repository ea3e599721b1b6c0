import NovelScript.Proofs.Text.Utf8
import NovelScript.Proofs.Wire.Tiles

/-!
# Written tokens — the bytes of a flat list

Here is the other way: the token of a node. A node that the decoder can give has one opcode, the one
of its meaning in the opcode table, and a payload: the bytes of its number, low byte first, the
UTF-8 bytes of its text, or the mode and the id of its variable. Operators have an empty payload,
and the two kinds of tokens whose payload has no meaning may have any.

## What is proved

`decodeAll_written`: the tokens of decodable nodes, one behind the other, are decoded to those nodes
in order.
-/

set_option autoImplicit false

namespace NovelScript

/-- The opcode with a meaning. -/
def Opcode.ofMeaning? (meaning : Meaning) : Option Opcode :=
  table.find? (fun op => op.meaning == meaning)

/-- Every meaning has an opcode. -/
theorem Opcode.exists_ofMeaning (meaning : Meaning) :
    ∃ op ∈ table, op.meaning = meaning ∧ ofMeaning? meaning = some op := by
  have found : ∃ op, ofMeaning? meaning = some op := by
    apply Option.isSome_iff_exists.mp
    cases meaning with
    | binary op =>
      cases op with
      | arithmetic op | relational op | logical op => cases op <;> rfl
    | unary op => cases op <;> rfl
    | _ => rfl
  obtain ⟨op, found⟩ := found
  exact ⟨op, List.mem_of_find?_eq_some found, by simpa using List.find?_some found, found⟩

/-- The size of the payloads that a meaning can be given to; none where every size can. -/
def Meaning.size? : Meaning → Option Nat
  | .byte => some 1
  | .short => some 2
  | .int => some 4
  | .long | .decimal => some 8
  | .access | .reference => some 3
  | .nop | .binary _ | .unary _ | .element | .text => none

/-- The opcodes of a meaning are checked for its size. -/
theorem Decoder.checkedSize?_eq : ∀ op ∈ Opcode.table, checkedSize? op = op.meaning.size? := by
  decide

namespace Node

/-- What the token of a node means; nothing for a node that no token stands for. -/
def meaning? : Node → Option Meaning
  | .nop => some .nop
  | .binary op _ _ _ => some (.binary op)
  | .unary op _ => some (.unary op)
  | .element _ _ _ => some .element
  | .byte _ => some .byte
  | .short _ => some .short
  | .int _ => some .int
  | .long _ => some .long
  | .decimal _ => some .decimal
  | .text _ => some .text
  | .access _ _ => some .access
  | .reference _ => some .reference
  | .raw _ | .keyword _ => none

/-- The payload of a node's token; where payloads have no meaning, `padding`. -/
def payload (padding : List UInt8) : Node → List UInt8
  | .nop | .element _ _ _ => padding
  | .byte v => LittleEndian.write 1 v.toUInt8.toNat
  | .short v => LittleEndian.write 2 v.toUInt16.toNat
  | .int v => LittleEndian.write 4 v.toUInt32.toNat
  | .long v => LittleEndian.write 8 v.toUInt64.toNat
  | .decimal x => LittleEndian.write 8 x.bits.toNat
  | .text s => Utf8.encode s
  | .access _ place | .reference place => place.mode :: LittleEndian.write 2 place.var.id.toNat
  | .binary .. | .unary .. | .raw _ | .keyword _ => []

/-- The token of a node. -/
def token? (node : Node) (padding : List UInt8) : Option (List UInt8) := do
  let op ← Opcode.ofMeaning? (← node.meaning?)
  Token.encode? op.code (node.payload padding)

/-- The nodes that tokens stand for: literals, with texts that fit a token, variables of the table
that are not negated, operators and the array token without operands, and `nop`. -/
inductive Decodable (table : VariableTable) : Node → Prop
  | nop : Decodable table .nop
  | binary (op : BinaryOp) : Decodable table (binaryToken op)
  | unary (op : UnaryOp) : Decodable table (unaryToken op)
  | element : Decodable table elementToken
  | byte (v : Int8) : Decodable table (.byte v)
  | short (v : Int16) : Decodable table (.short v)
  | int (v : Int32) : Decodable table (.int v)
  | long (v : Int64) : Decodable table (.long v)
  | decimal (x : Binary64) : Decodable table (.decimal x)
  | text {s : String} : s.utf8ByteSize ≤ Token.maxPayload → Decodable table (.text s)
  | access {place : Place} : place.var ∈ table.toList → Decodable table (.access false place)
  | reference {place : Place} : place.var ∈ table.toList → Decodable table (.reference place)

end Node

namespace Decoder

open Tile

/-- A number that was written in its width is read back. -/
theorem read_written (width n : Nat) (h : n < LittleEndian.capacity width) :
    LittleEndian.read (LittleEndian.write width n) = n := by
  rw [LittleEndian.read_write, Nat.mod_eq_of_lt h]

/-- A place is found again from its mode and the id of its variable. -/
theorem place_payload {table : VariableTable} {here : Place} (h : here.var ∈ table.toList)
    (pc : Nat) :
    place table pc (here.mode :: LittleEndian.write 2 here.var.id.toNat) = .ok here := by
  have id : UInt16.ofNat (LittleEndian.read (LittleEndian.write 2 here.var.id.toNat)) =
      here.var.id := by
    rw [read_written 2 _ here.var.id.toNat_lt, UInt16.ofNat_toNat]
  simp only [place, List.drop_succ_cons, List.drop_zero, id,
    (table.get?_eq_some_iff here.var.id here.var).mpr ⟨h, rfl⟩, List.headD_cons]

/-- The payload of a decodable node stands for it. -/
theorem node_payload {table : VariableTable} {result : Node} (h : result.Decodable table)
    (padding : List UInt8) :
    ∃ meaning, result.meaning? = some meaning ∧
      node table .utf8 0 (result.payload padding) meaning = .ok result := by
  cases h with
  | byte v =>
    refine ⟨.byte, rfl, ?_⟩
    simp only [node, Node.payload, read_written 1 _ v.toUInt8.toNat_lt]
    simp
  | short v =>
    refine ⟨.short, rfl, ?_⟩
    simp only [node, Node.payload, read_written 2 _ v.toUInt16.toNat_lt]
    simp
  | int v =>
    refine ⟨.int, rfl, ?_⟩
    simp only [node, Node.payload, read_written 4 _ v.toUInt32.toNat_lt]
    simp
  | long v =>
    refine ⟨.long, rfl, ?_⟩
    simp only [node, Node.payload, read_written 8 _ v.toUInt64.toNat_lt]
    simp
  | decimal x =>
    refine ⟨.decimal, rfl, ?_⟩
    simp only [node, Node.payload, read_written 8 _ x.bits.toNat_lt]
    simp
  | text => exact ⟨.text, rfl, by simp only [node, Node.payload, Utf8.decode_encode]⟩
  | access known =>
    exact ⟨.access, rfl, by simp only [node, Node.payload, place_payload known]; rfl⟩
  | reference known =>
    exact ⟨.reference, rfl, by simp only [node, Node.payload, place_payload known]; rfl⟩
  | nop | binary | unary | element => exact ⟨_, rfl, rfl⟩

/-- The payload of a decodable node fits a token. -/
theorem length_payload_le {table : VariableTable} {result : Node} (h : result.Decodable table)
    {padding : List UInt8} (short : padding.length ≤ Token.maxPayload) :
    (result.payload padding).length ≤ Token.maxPayload := by
  cases h with
  | nop | element => exact short
  | text small =>
    rw [Node.payload, Utf8.length_encode]
    exact small
  | access | reference | byte | short | int | long | decimal =>
    simp only [Node.payload, LittleEndian.length_write, List.length_cons]
    decide
  | binary | unary => exact Nat.zero_le _

/-- The payload of a decodable node has the size that its opcode asks for. -/
theorem payload_fits {table : VariableTable} {result : Node} (h : result.Decodable table)
    (padding : List UInt8) {op : Opcode} (listed : op ∈ Opcode.table)
    (meant : result.meaning? = some op.meaning) : op.Fits (result.payload padding) := by
  intro size checked
  rw [checkedSize?_eq op listed] at checked
  cases h with
  | byte | short | int | long | decimal | access | reference =>
    have same := Option.some.inj meant
    rw [← same] at checked
    cases checked
    simp only [Node.payload, LittleEndian.length_write, List.length_cons]
  | nop | binary | unary | element | text =>
    have same := Option.some.inj meant
    rw [← same] at checked
    cases checked

/-- A decodable node has a token, and the token is read as the node. -/
theorem exists_tile {table : VariableTable} {result : Node} (h : result.Decodable table)
    {padding : List UInt8} (short : padding.length ≤ Token.maxPayload) :
    ∃ tile : Tile, result.token? padding = some tile.bytes ∧ tile.ReadsAs table .utf8 result := by
  obtain ⟨meaning, meant, stands⟩ := node_payload h padding
  obtain ⟨op, listed, rfl, found⟩ := Opcode.exists_ofMeaning meaning
  have small := length_payload_le h short
  refine ⟨⟨op.code, result.payload padding, small⟩, ?_, op, listed, rfl,
    payload_fits h padding listed meant, stands⟩
  simp only [Node.token?, meant, found, Option.bind_eq_bind, Option.bind_some]
  exact (Token.encode?_eq_some_iff ..).mpr ⟨small, rfl⟩

/-- Decodable nodes have tokens, and the tokens, one behind the other, are decoded to the nodes in
order. The paddings are the payloads of the tokens whose payload has no meaning. -/
theorem decodeAll_written {table : VariableTable} {items : List (Node × List UInt8)}
    (decodable : ∀ item ∈ items, item.1.Decodable table)
    (short : ∀ item ∈ items, item.2.length ≤ Token.maxPayload) :
    ∃ tokens, items.mapM (fun item => item.1.token? item.2) = some tokens ∧
      (ofTable table .utf8).decodeAll tokens.flatten = ⟨items.map Prod.fst, none⟩ := by
  -- The tokens are tiles, each of which is read as its node.
  have laid : ∃ tiles : List Tile,
      items.mapM (fun item => item.1.token? item.2) = some (tiles.map Tile.bytes) ∧
        List.Forall₂ (ReadsAs table .utf8) tiles (items.map Prod.fst) := by
    induction items with
    | nil => exact ⟨[], rfl, .nil⟩
    | cons item items ih =>
      obtain ⟨first, others⟩ := List.forall_mem_cons.mp decodable
      obtain ⟨firstShort, othersShort⟩ := List.forall_mem_cons.mp short
      obtain ⟨tile, token, reads⟩ := exists_tile first firstShort
      obtain ⟨tiles, tokens, others⟩ := ih others othersShort
      refine ⟨tile :: tiles, ?_, .cons reads others⟩
      rw [List.mapM_cons, token, tokens]
      rfl
  obtain ⟨tiles, tokens, reads⟩ := laid
  have run := decodeAll_layOut_append reads []
  rw [decodeAll_nil, List.append_nil, List.append_nil] at run
  exact ⟨tiles.map Tile.bytes, tokens, run⟩

/-- A negative byte, a text past ASCII, an access, a negation, an array token and a `nop` with
payloads of their own. -/
theorem decodeAll_written_mixed :
    let place : Place := ⟨0x40, ⟨.global, 0, 300, 1, [], none, none⟩⟩
    let table := VariableTable.ofList [place.var]
    let items : List (Node × List UInt8) := [(.byte (-1), []), (.text "é", []),
      (.access false place, []), (.unaryToken .negate, []), (.elementToken, [1, 2]), (.nop, [3])]
    ∃ tokens, items.mapM (fun item => item.1.token? item.2) = some tokens ∧
      tokens.flatten = [0x42, 1, 0, 0xFF, 0x4D, 2, 0, 0xC3, 0xA9, 0x48, 3, 0, 0x40, 0x2C, 1,
        0x52, 0, 0, 0x29, 2, 0, 1, 2, 0x2C, 1, 0, 3] ∧
      (ofTable table .utf8).decodeAll tokens.flatten = ⟨items.map Prod.fst, none⟩ := by
  intro place table items
  have known : place.var ∈ table.toList := List.mem_singleton.mpr rfl
  obtain ⟨tokens, written, decoded⟩ := @decodeAll_written table items
    (by simpa [items] using ⟨.byte _, .text (by decide), .access known, .unary _, .element, .nop⟩)
    (by simp [items, Token.maxPayload])
  have bytes : items.mapM (fun item => item.1.token? item.2) = some [[0x42, 1, 0, 0xFF],
      [0x4D, 2, 0, 0xC3, 0xA9], [0x48, 3, 0, 0x40, 0x2C, 1], [0x52, 0, 0], [0x29, 2, 0, 1, 2],
      [0x2C, 1, 0, 3]] := by
    simp only [items, place]
    decide +kernel
  refine ⟨tokens, written, ?_, decoded⟩
  rw [← Option.some.inj (bytes.symm.trans written)]
  rfl

end Decoder

end NovelScript
