import Mathlib.Data.List.Forall2
import NovelScript.Proofs.Wire.Tokens

/-!
# Tiles — a byte string as tokens without gaps

A tile is an opcode byte with a payload that its size field can hold; it says how many bytes it
has, so a byte string is tiled in one way at most (`Tile.layOut_injective`). A run of the decoder
lays tiles from the left: every byte string is tiles that are read, one node each, and then either
nothing or a token that is not read (`exists_tiles`). Everything about runs follows from where that
is, since a run over tiles that are read is those nodes and the run over what comes behind
(`decodeAll_layOut_append`).

## What is proved

`decodeAll_tiles`: bytes that decode are tiled in one way, a tile for each node; they decode the
same in front of any bytes, which in turn decode as they do on their own, further on; and bytes that
do not decode are cut in one way only into a front that decodes and a rest whose first token fails.
-/

set_option autoImplicit false

namespace NovelScript

/-- An opcode byte and a payload that the size field can hold. -/
structure Tile where
  code : UInt8
  payload : List UInt8
  small : payload.length ≤ Token.maxPayload

namespace Tile

/-- The bytes of a tile: the opcode byte, the size field, the payload. -/
def bytes (tile : Tile) : List UInt8 := Token.bytes tile.code tile.payload

/-- The bytes of tiles, one behind the other. -/
def layOut (tiles : List Tile) : List UInt8 := tiles.flatMap bytes

/-- The first tile comes first. -/
theorem layOut_cons (tile : Tile) (tiles : List Tile) :
    layOut (tile :: tiles) = tile.bytes ++ layOut tiles :=
  List.flatMap_cons

/-- The tile is a token of a listed opcode that stands for the node. -/
def ReadsAs (table : VariableTable) (encoding : TextEncoding) (tile : Tile) (node : Node) : Prop :=
  ∃ op ∈ Opcode.table, op.code = tile.code ∧ op.Fits tile.payload ∧
    Decoder.node table encoding 0 tile.payload op.meaning = .ok node

/-- Of two tiles in front of two equal byte strings neither is longer. -/
theorem append_inj {tile other : Tile} {rest behind : List UInt8}
    (h : tile.bytes ++ rest = other.bytes ++ behind) : tile = other ∧ rest = behind := by
  obtain ⟨code, payload, small⟩ := tile
  obtain ⟨code', payload', small'⟩ := other
  simp only [bytes, Token.bytes, List.cons_append, List.append_assoc, List.cons.injEq] at h
  obtain ⟨rfl, h⟩ := h
  obtain ⟨field, h⟩ := List.append_inj h (by simp)
  have length : payload.length = payload'.length := by
    rw [← Token.read_size small, field, Token.read_size small']
  obtain ⟨rfl, rfl⟩ := List.append_inj h length
  exact ⟨rfl, rfl⟩

/-- A byte string is tiled in one way at most. -/
theorem layOut_injective : Function.Injective layOut := by
  intro tiles others h
  induction tiles generalizing others with
  | nil =>
    cases others with
    | nil => rfl
    | cons => cases h
  | cons tile tiles ih =>
    cases others with
    | nil => cases h
    | cons other others =>
      rw [layOut_cons, layOut_cons] at h
      obtain ⟨rfl, behind⟩ := append_inj h
      rw [ih behind]

end Tile

/-- Distances add up. -/
theorem DecodeError.shift_shift (near far : Nat) (error : DecodeError) :
    (error.shift near).shift far = error.shift (far + near) := by
  cases error <;> simp only [shift, Nat.add_assoc, Nat.add_comm near]

namespace Decoder

open Tile

variable {table : VariableTable} {encoding : TextEncoding}

/-- A run over tiles that are read has their nodes, and then what the further bytes give on their
own. -/
theorem decodeAll_layOut_append {tiles : List Tile} {nodes : List Node}
    (reads : List.Forall₂ (ReadsAs table encoding) tiles nodes) (rest : List UInt8) :
    (ofTable table encoding).decodeAll (layOut tiles ++ rest) =
      ⟨nodes ++ ((ofTable table encoding).decodeAll rest).nodes,
        ((ofTable table encoding).decodeAll rest).failure.map
          (DecodeError.shift (layOut tiles).length)⟩ := by
  induction reads with
  | nil =>
    have still : DecodeError.shift 0 = id := by
      funext error
      cases error <;> rfl
    simp only [layOut, List.flatMap_nil, List.nil_append, List.length_nil, still, Option.map_id_fun,
      id_eq]
  | @cons tile node tiles nodes first _ ih =>
    obtain ⟨op, listed, code, fits, meant⟩ := first
    rw [layOut_cons, bytes, ← code, List.append_assoc, decodeAll_cons listed tile.small fits meant,
      ih, List.length_append]
    simp only [Decoded.shift, Decoded.after, Option.map_map, List.cons_append]
    congr 2
    funext error
    exact DecodeError.shift_shift ..

/-- The first token of the bytes fails. -/
def FailsAtOnce (table : VariableTable) (encoding : TextEncoding) (bytes : List UInt8)
    (error : DecodeError) : Prop :=
  bytes ≠ [] ∧ (ofTable table encoding).decode bytes 0 = .error error

/-- Every byte string is tiles that are read, and then nothing or a token that fails. -/
theorem exists_tiles (table : VariableTable) (encoding : TextEncoding) (bytes : List UInt8) :
    ∃ tiles nodes rest, bytes = layOut tiles ++ rest ∧
      List.Forall₂ (ReadsAs table encoding) tiles nodes ∧
      (rest = [] ∨ ∃ error, FailsAtOnce table encoding rest error) := by
  -- On the length: what lies behind the first token is shorter.
  induction hlength : bytes.length using Nat.strongRecOn generalizing bytes with
  | ind length ih =>
    by_cases some : bytes = []
    · exact ⟨[], [], bytes, rfl, .nil, .inl some⟩
    · cases read : (ofTable table encoding).decode bytes 0 with
      | error error => exact ⟨[], [], bytes, rfl, .nil, .inr ⟨error, some, read⟩⟩
      | ok result =>
        obtain ⟨op, listed, payload, rest, small, fits, split, meant, -⟩ := token_eq_ok_iff.mp read
        rw [List.drop_zero] at split
        subst split
        have shorter : rest.length < length := by
          rw [← hlength, List.length_append, Token.length_bytes]
          omega
        obtain ⟨tiles, nodes, behind, rfl, reads, last⟩ := ih rest.length shorter rest rfl
        refine ⟨⟨op.code, payload, small⟩ :: tiles, result.1 :: nodes, behind, ?_,
          .cons ⟨op, listed, rfl, fits, meant⟩ reads, last⟩
        rw [layOut_cons, List.append_assoc]
        rfl

/-- Bytes that decode are tiles that are read, one for each node. -/
theorem exists_tiles_of_decodes {bytes : List UInt8}
    (decodes : ((ofTable table encoding).decodeAll bytes).failure = none) :
    ∃ tiles, bytes = layOut tiles ∧
      List.Forall₂ (ReadsAs table encoding) tiles
        ((ofTable table encoding).decodeAll bytes).nodes := by
  obtain ⟨tiles, nodes, rest, rfl, reads, rfl | ⟨error, some, failed⟩⟩ :=
    exists_tiles table encoding bytes
  · rw [decodeAll_layOut_append reads, decodeAll_nil, List.append_nil, List.append_nil]
    exact ⟨tiles, rfl, reads⟩
  · rw [decodeAll_layOut_append reads, decodeAll_of_error some failed] at decodes
    cases decodes

/-- What decodes behind a front that decodes does so on its own, and the other way round. -/
theorem decodeAll_append {front : List UInt8}
    (decodes : ((ofTable table encoding).decodeAll front).failure = none) (back : List UInt8) :
    (ofTable table encoding).decodeAll (front ++ back) =
      ⟨((ofTable table encoding).decodeAll front).nodes ++
          ((ofTable table encoding).decodeAll back).nodes,
        ((ofTable table encoding).decodeAll back).failure.map
          (DecodeError.shift front.length)⟩ := by
  obtain ⟨tiles, laid, reads⟩ := exists_tiles_of_decodes decodes
  have run := decodeAll_layOut_append reads back
  rw [← laid] at run
  exact run

/-- Where a front that decodes ends and a token fails, there is no other such place further on. -/
theorem eq_nil_of_failsAtOnce {more rest : List UInt8} {error : DecodeError}
    (decodes : ((ofTable table encoding).decodeAll more).failure = none)
    (fails : FailsAtOnce table encoding (more ++ rest) error) : more = [] := by
  obtain ⟨tiles, laid, reads⟩ := exists_tiles_of_decodes decodes
  have run := decodeAll_layOut_append reads rest
  rw [← laid, decodeAll_of_error fails.1 fails.2] at run
  have none : ((ofTable table encoding).decodeAll more).nodes = [] :=
    (List.append_eq_nil_iff.mp (congrArg Decoded.nodes run).symm).1
  rw [none] at reads
  cases reads
  exact laid

/-- Two cuts into a front that decodes and a rest whose first token fails are one. -/
theorem cut_unique {front rest front' rest' : List UInt8} {error error' : DecodeError}
    (same : front ++ rest = front' ++ rest')
    (decodes : ((ofTable table encoding).decodeAll front).failure = none)
    (fails : FailsAtOnce table encoding rest error)
    (decodes' : ((ofTable table encoding).decodeAll front').failure = none)
    (fails' : FailsAtOnce table encoding rest' error') : front' = front ∧ rest' = rest := by
  have further : ∀ {front more : List UInt8},
      ((ofTable table encoding).decodeAll front).failure = none →
      ((ofTable table encoding).decodeAll (front ++ more)).failure = none →
      ((ofTable table encoding).decodeAll more).failure = none := by
    intro front more decodes both
    rw [decodeAll_append decodes] at both
    exact Option.map_eq_none_iff.mp both
  -- One front is a prefix of the other, and what it is short of decodes on its own.
  rcases List.append_eq_append_iff.mp same with ⟨more, rfl, rfl⟩ | ⟨more, rfl, rfl⟩
  · have := eq_nil_of_failsAtOnce (further decodes decodes') fails
    subst this
    exact ⟨List.append_nil front, rfl⟩
  · have := eq_nil_of_failsAtOnce (further decodes' decodes) fails'
    subst this
    exact ⟨(List.append_nil front').symm, rfl⟩

/-- Bytes that decode are tiled in one way, by a token of a listed opcode for each node, and in
front of any bytes they add their nodes to what those bytes give on their own: no failure if those
have none, else the same failure, further on by their length. Bytes that do not decode are cut in
one way only into a front that decodes, to the nodes that the run kept, and a rest whose first token
fails, which is the failure of the run. -/
theorem decodeAll_tiles (table : VariableTable) (encoding : TextEncoding) :
    let decodeAll := (ofTable table encoding).decodeAll
    (∀ front, (decodeAll front).failure = none →
      (∃ tiles, front = layOut tiles ∧
        List.Forall₂ (ReadsAs table encoding) tiles (decodeAll front).nodes ∧
        ∀ others, front = layOut others → others = tiles) ∧
      ∀ back, decodeAll (front ++ back) =
        ⟨(decodeAll front).nodes ++ (decodeAll back).nodes,
          (decodeAll back).failure.map (DecodeError.shift front.length)⟩) ∧
    ∀ bytes error, (decodeAll bytes).failure = some error →
      ∃ front rest cause, bytes = front ++ rest ∧
        decodeAll front = ⟨(decodeAll bytes).nodes, none⟩ ∧
        FailsAtOnce table encoding rest cause ∧ error = cause.shift front.length ∧
        ∀ front' rest' cause', bytes = front' ++ rest' → (decodeAll front').failure = none →
          FailsAtOnce table encoding rest' cause' → front' = front ∧ rest' = rest := by
  dsimp only
  refine ⟨fun front decodes => ⟨?_, decodeAll_append decodes⟩, fun bytes error failed => ?_⟩
  · obtain ⟨tiles, laid, reads⟩ := exists_tiles_of_decodes decodes
    exact ⟨tiles, laid, reads, fun others laid' => layOut_injective (laid'.symm.trans laid)⟩
  · obtain ⟨tiles, nodes, rest, rfl, reads, last⟩ := exists_tiles table encoding bytes
    have alone : (ofTable table encoding).decodeAll (layOut tiles) = ⟨nodes, none⟩ := by
      have run := decodeAll_layOut_append reads []
      rw [decodeAll_nil, List.append_nil, List.append_nil] at run
      exact run
    have run := decodeAll_layOut_append reads rest
    rcases last with rfl | ⟨cause, fails⟩
    · rw [List.append_nil, alone] at failed
      cases failed
    · rw [decodeAll_of_error fails.1 fails.2, List.append_nil] at run
      refine ⟨layOut tiles, rest, cause, rfl, ?_, fails, ?_,
        fun front' rest' cause' same decodes' fails' =>
          cut_unique same (by rw [alone]) fails decodes' fails'⟩
      · rw [alone, run]
      · rw [run] at failed
        exact (Option.some.inj failed).symm

/-- A byte and an addition in front of an unlisted opcode: two tiles, and the cut lies behind
them. -/
theorem decodeAll_tiles_unlisted :
    let decodeAll := (ofTable .empty .utf8).decodeAll
    let front : List UInt8 := [0x42, 1, 0, 5, 0x2B, 0, 0]
    (∃ tiles, front = layOut tiles ∧ tiles.length = 2) ∧
      (decodeAll (front ++ [1, 0, 0])).failure = some (.invalidOpcode 7 1) ∧
      ∃ rest cause, FailsAtOnce .empty .utf8 rest cause ∧ front ++ [1, 0, 0] = front ++ rest ∧
        DecodeError.invalidOpcode 7 1 = cause.shift front.length := by
  intro _ front
  let decoder := ofTable .empty .utf8
  obtain ⟨tiling, cutting⟩ := decodeAll_tiles .empty .utf8
  have decoded : decoder.decodeAll front = ⟨[.byte 5, .binaryToken (.arithmetic .add)], none⟩ := by
    with_unfolding_all rfl
  have unlisted : decoder.decodeAll [1, 0, 0] = ⟨[], some (.invalidOpcode 0 1)⟩ := by
    with_unfolding_all rfl
  have decodes : (decoder.decodeAll front).failure = none := congrArg Decoded.failure decoded
  obtain ⟨⟨tiles, laid, reads, -⟩, behind⟩ := tiling front decodes
  have failed : (decoder.decodeAll (front ++ [1, 0, 0])).failure = some (.invalidOpcode 7 1) := by
    have run := congrArg Decoded.failure (behind [1, 0, 0])
    exact run.trans (congrArg (·.failure.map (DecodeError.shift front.length)) unlisted)
  obtain ⟨cut, rest, cause, same, -, fails, place, only⟩ := cutting _ _ failed
  obtain ⟨rfl, rfl⟩ := only front [1, 0, 0] (.invalidOpcode 0 1) rfl decodes
    ⟨by simp, by with_unfolding_all rfl⟩
  refine ⟨⟨tiles, laid, ?_⟩, failed, _, cause, fails, rfl, place⟩
  rw [reads.length_eq]
  exact congrArg (List.length ∘ Decoded.nodes) decoded

end Decoder

end NovelScript
