import NovelScript.Proofs.Results
import NovelScript.Wire.Decoder

/-!
# Tokens at the head — what one call of the decoder reads

A call of the decoder looks at no byte past the token it reads, and the place where the token lies
has no part in it: the place is only added to what is reported. So a call is known from the token
alone, and a run over bytes is a run over its first token and then, further on, over the rest.

## What is proved

`Decoder.token_eq_ok_iff`: a token is read exactly when the bytes begin with one that fits its
opcode and stands for a node. `Decoder.token_shift` and `Decoder.decodeFrom_shift`: reading further
on gives the same nodes and failures, further on. `Decoder.decodeAll_cons` and
`Decoder.decodeAll_of_error`: a run is its first token and the run behind it.
-/

set_option autoImplicit false

namespace NovelScript

/-- The payload has the size that tokens of the opcode are checked for, if they are. -/
def Opcode.Fits (op : Opcode) (payload : List UInt8) : Prop :=
  ∀ size, Decoder.checkedSize? op = some size → payload.length = size

/-- The same failure, so many bytes further on. -/
def DecodeError.shift (distance : Nat) : DecodeError → DecodeError
  | .endOfInput => .endOfInput
  | .invalidOpcode pc code => .invalidOpcode (pc + distance) code
  | .truncated pc size remaining => .truncated (pc + distance) size remaining
  | .wrongSize pc mnemonic expected actual => .wrongSize (pc + distance) mnemonic expected actual
  | .unknownVariable pc id => .unknownVariable (pc + distance) id
  | .noProgress offset => .noProgress (offset + distance)

/-- The same run, so many bytes further on. -/
def Decoded.shift (distance : Nat) (d : Decoded) : Decoded :=
  ⟨d.nodes, d.failure.map (DecodeError.shift distance)⟩

namespace Token

/-- The size field of a payload that it can hold says its length. -/
theorem read_size {payload : List UInt8} (fits : payload.length ≤ maxPayload) :
    LittleEndian.read (LittleEndian.write 2 payload.length) = payload.length := by
  have capacity : LittleEndian.capacity 2 = maxPayload + 1 := rfl
  rw [LittleEndian.read_write, capacity]
  exact Nat.mod_eq_of_lt (by omega)

/-- Three bytes in front of as many as they say are a token and what follows it. -/
theorem exists_bytes (code : UInt8) {low high : UInt8} {rest : List UInt8}
    (enough : LittleEndian.read [low, high] ≤ rest.length) :
    ∃ payload behind, payload.length = LittleEndian.read [low, high] ∧
      payload.length ≤ maxPayload ∧
      rest = payload ++ behind ∧ code :: low :: high :: rest = bytes code payload ++ behind := by
  have length : (rest.take (LittleEndian.read [low, high])).length =
      LittleEndian.read [low, high] := by
    rw [List.length_take]
    omega
  have bound := LittleEndian.read_lt [low, high]
  have capacity : LittleEndian.capacity [low, high].length = maxPayload + 1 := rfl
  refine ⟨rest.take (LittleEndian.read [low, high]), rest.drop (LittleEndian.read [low, high]),
    length, by omega, (List.take_append_drop ..).symm, ?_⟩
  have field : LittleEndian.write 2 (LittleEndian.read [low, high]) = [low, high] :=
    LittleEndian.write_read [low, high]
  rw [bytes, length, field, List.append_assoc, List.take_append_drop]
  rfl

end Token

namespace Decoder

variable {table : VariableTable} {encoding : TextEncoding} {pc : Nat}

/-- A token that fits its opcode is read for what its payload stands for. -/
theorem token_bytes {op : Opcode} {payload : List UInt8} (listed : op ∈ Opcode.table)
    (small : payload.length ≤ Token.maxPayload) (fits : op.Fits payload) (rest : List UInt8) :
    token table encoding pc (Token.bytes op.code payload ++ rest) =
      (node table encoding pc payload op.meaning).map (·, pc + 3 + payload.length) := by
  have size := Token.read_size small
  rw [Token.bytes, List.append_assoc]
  simp only [LittleEndian.write] at size ⊢
  simp only [List.cons_append, List.nil_append, token, Opcode.ofCode?_code op listed, size,
    List.length_append, List.take_left]
  rw [if_neg (by omega)]
  split
  next expected checked => rw [if_pos (fits expected checked)]
  next => rfl

/-- What is read begins with a listed opcode, a size field and as many bytes as that says, and fits
the opcode. -/
theorem exists_token_of_ok {bytes : List UInt8} {result : Node × Nat}
    (h : token table encoding pc bytes = .ok result) :
    ∃ op ∈ Opcode.table, ∃ payload rest, payload.length ≤ Token.maxPayload ∧ op.Fits payload ∧
      bytes = Token.bytes op.code payload ++ rest := by
  rcases bytes with _ | ⟨code, bytes⟩
  · cases h
  cases listed : Opcode.ofCode? code with
  | none => simp only [token, listed, reduceCtorEq] at h
  | some op =>
    rcases bytes with _ | ⟨low, _ | ⟨high, rest⟩⟩
    · simp only [token, listed, reduceCtorEq] at h
    · simp only [token, listed, reduceCtorEq] at h
    have code_eq : op.code = code := by simpa using List.find?_some listed
    simp only [token, listed] at h
    split at h
    next => cases h
    next enough =>
      obtain ⟨payload, behind, length, small, rfl, split⟩ :=
        Token.exists_bytes code (Nat.le_of_not_lt enough)
      refine ⟨op, List.mem_of_find?_eq_some listed, payload, behind, small, ?_, code_eq ▸ split⟩
      intro size checked
      simp only [checked] at h
      split at h
      next equal => exact length.trans equal
      next => cases h

/-- A token is read exactly when the bytes begin with one: one of a listed opcode, with a payload
that fits it and stands for a node. -/
theorem token_eq_ok_iff {bytes : List UInt8} {result : Node} {next : Nat} :
    token table encoding pc bytes = .ok (result, next) ↔
      ∃ op ∈ Opcode.table, ∃ payload rest,
        payload.length ≤ Token.maxPayload ∧ op.Fits payload ∧
        bytes = Token.bytes op.code payload ++ rest ∧
        node table encoding pc payload op.meaning = .ok result ∧
        next = pc + 3 + payload.length := by
  constructor
  · intro h
    obtain ⟨op, listed, payload, rest, small, fits, rfl⟩ := exists_token_of_ok h
    rw [token_bytes listed small fits] at h
    obtain ⟨other, meant, same⟩ := exists_of_map_eq_ok h
    cases same
    exact ⟨op, listed, payload, rest, small, fits, rfl, meant, rfl⟩
  · rintro ⟨op, listed, payload, rest, small, fits, rfl, meant, rfl⟩
    rw [token_bytes listed small fits, meant]
    rfl

/-- Every token is the node of some meaning and payload. -/
theorem node_of_token {bytes : List UInt8} {next : Nat} {result : Node}
    (h : token table encoding pc bytes = .ok (result, next)) :
    ∃ payload meaning, node table encoding pc payload meaning = .ok result := by
  obtain ⟨op, -, payload, rest, -, -, -, meant, -⟩ := token_eq_ok_iff.mp h
  exact ⟨payload, op.meaning, meant⟩

/-- The variable of a decoded place is in the table. -/
theorem var_mem_of_place {payload : List UInt8} {found : Place}
    (h : place table pc payload = .ok found) : found.var ∈ table.toList := by
  unfold place at h
  dsimp only at h
  split at h
  next var result =>
    cases h
    exact ((table.get?_eq_some_iff _ _).mp result).1
  next => cases h

/-! ## Further on -/

/-- The same outcome of reading a token, so many bytes further on. -/
def shifted (distance : Nat) :
    Except DecodeError (Node × Nat) → Except DecodeError (Node × Nat)
  | .ok (node, next) => .ok (node, next + distance)
  | .error e => .error (e.shift distance)

/-- What a payload stands for does not depend on its place, but its failure is reported there. -/
theorem node_shift (distance : Nat) (payload : List UInt8) (meaning : Meaning) :
    node table encoding (pc + distance) payload meaning =
      (node table encoding pc payload meaning).mapError (DecodeError.shift distance) := by
  have places : place table (pc + distance) payload =
      (place table pc payload).mapError (DecodeError.shift distance) := by
    simp only [place]
    split <;> rfl
  cases meaning with
  | access | reference =>
    simp only [node, places]
    cases place table pc payload <;> rfl
  | _ => rfl

/-- A token that lies further on is read the same. -/
theorem token_shift (distance : Nat) (bytes : List UInt8) :
    token table encoding (pc + distance) bytes =
      shifted distance (token table encoding pc bytes) := by
  have finish : ∀ (payload : List UInt8) (meaning : Meaning) (size : Nat),
      (node table encoding (pc + distance) payload meaning).map (·, pc + distance + 3 + size) =
        shifted distance ((node table encoding pc payload meaning).map (·, pc + 3 + size)) := by
    intro payload meaning size
    have place : pc + distance + 3 + size = pc + 3 + size + distance := by omega
    rw [node_shift, place]
    cases node table encoding pc payload meaning <;> rfl
  rcases bytes with _ | ⟨code, bytes⟩
  · rfl
  cases listed : Opcode.ofCode? code with
  | none => simp only [token, listed]; rfl
  | some op =>
    rcases bytes with _ | ⟨low, _ | ⟨high, rest⟩⟩
    · simp only [token, listed]; rfl
    · simp only [token, listed]; rfl
    simp only [token, listed]
    split
    next => rfl
    next =>
      split
      next =>
        split
        next => exact finish ..
        next => rfl
      next => exact finish ..

/-- A call further on reads the same. -/
theorem decode_shift (front bytes : List UInt8) (offset : Nat) :
    (ofTable table encoding).decode (front ++ bytes) (offset + front.length) =
      shifted front.length ((ofTable table encoding).decode bytes offset) := by
  simp only [ofTable, ← token_shift]
  rw [Nat.add_comm offset, ← List.drop_drop, List.drop_left]

/-- A run that begins further on gives the same. -/
theorem decodeFrom_shift (front bytes : List UInt8) (offset : Nat) :
    (ofTable table encoding).decodeFrom (front ++ bytes) (offset + front.length) =
      ((ofTable table encoding).decodeFrom bytes offset).shift front.length := by
  have inside : offset + front.length < (front ++ bytes).length ↔ offset < bytes.length := by
    rw [List.length_append]
    omega
  -- The offsets of both runs grow alike, so both end, fail or stop at the same call.
  fun_induction decodeFrom (ofTable table encoding) bytes offset with
  | case1 offset more error failed =>
    rw [decodeFrom, if_pos (inside.mpr more), decode_shift, failed]
    rfl
  | case2 offset more node next read later ih =>
    have inside' : next + front.length < (front ++ bytes).length ↔ next < bytes.length := by
      rw [List.length_append]
      omega
    rw [decodeFrom, if_pos (inside.mpr more), decode_shift, read]
    simp only [shifted]
    rw [if_pos (by omega), ih inside']
    rfl
  | case3 offset more node next read stuck =>
    rw [decodeFrom, if_pos (inside.mpr more), decode_shift, read]
    simp only [shifted]
    rw [if_neg (by omega)]
    rfl
  | case4 offset done =>
    rw [decodeFrom, if_neg (mt inside.mp done)]
    rfl

/-! ## Runs -/

/-- Every node of a decoded list comes from one call of the decoder. -/
theorem decode_of_mem_decodeFrom (decoder : Decoder) (bytes : List UInt8) (offset : Nat)
    {node : Node} (h : node ∈ (decoder.decodeFrom bytes offset).nodes) :
    ∃ place next, decoder.decode bytes place = .ok (node, next) := by
  fun_induction decodeFrom decoder bytes offset with
  | case1 => exact absurd h List.not_mem_nil
  | case2 offset _ first next decoded _ ih =>
    rcases List.mem_cons.mp h with rfl | later
    · exact ⟨offset, next, decoded⟩
    · exact ih later
  | case3 => exact absurd h List.not_mem_nil
  | case4 => exact absurd h List.not_mem_nil

/-- No bytes, no nodes. -/
@[simp] theorem decodeAll_nil (decoder : Decoder) : decoder.decodeAll [] = ⟨[], none⟩ := by
  rw [decodeAll, decodeFrom]
  rfl

/-- A run over a token and further bytes has the node of the token and then what the further bytes
give on their own. -/
theorem decodeAll_cons {op : Opcode} {payload : List UInt8} {result : Node}
    (listed : op ∈ Opcode.table) (small : payload.length ≤ Token.maxPayload)
    (fits : op.Fits payload) (meant : node table encoding 0 payload op.meaning = .ok result)
    (rest : List UInt8) :
    (ofTable table encoding).decodeAll (Token.bytes op.code payload ++ rest) =
      (((ofTable table encoding).decodeAll rest).shift (Token.bytes op.code payload).length).after
        result := by
  have length := Token.length_bytes op.code payload
  have read : (ofTable table encoding).decode (Token.bytes op.code payload ++ rest) 0 =
      .ok (result, 0 + (Token.bytes op.code payload).length) := by
    simp only [ofTable, List.drop_zero, token_bytes listed small fits, meant, length]
    simp only [Except.map, Except.ok.injEq, Prod.mk.injEq, true_and]
    omega
  rw [decodeAll, decodeFrom, if_pos (by rw [List.length_append]; omega), read]
  simp only
  rw [if_pos (by omega), decodeFrom_shift]
  rfl

/-- A run whose first token fails gives nothing but the failure. -/
theorem decodeAll_of_error {bytes : List UInt8} {error : DecodeError} (some : bytes ≠ [])
    (failed : (ofTable table encoding).decode bytes 0 = .error error) :
    (ofTable table encoding).decodeAll bytes = ⟨[], .some error⟩ := by
  rw [decodeAll, decodeFrom, if_pos (List.length_pos_iff.mpr some), failed]

end Decoder

end NovelScript
