import NovelScript.Proofs.Results
import NovelScript.Proofs.Renaming.Nodes
import NovelScript.Wire.Decoder

/-!
# Renaming and decoding — what two decoders of one byte string have in common

The table of variables and the encoding have little part in decoding. An encoding decides what a
string says, a table what is known of a variable and whether there is one; how long a token is, what
it stands for and whether it fails depends on neither, but for the ids that the table lists. Two
decoders read alike up to renaming (`ReadsAlike`) if some renamings make one of what each finds
under an id, and one of what each takes bytes for.

## What is proved

`decodeAll_rename`: decoders that read alike up to renaming give the same nodes up to renaming, and
the same failure.
-/

set_option autoImplicit false

namespace NovelScript

/-- Two tables and two encodings that renamings, one for each side, make the same. -/
structure ReadsAlike (r r' : Renaming) (table table' : VariableTable)
    (encoding encoding' : TextEncoding) : Prop where
  vars : ∀ id, (table.get? id).map r.var = (table'.get? id).map r'.var
  texts : ∀ bytes, r.text (encoding.decode bytes) = r'.text (encoding'.decode bytes)

/-- The same run with its nodes renamed. -/
def Decoded.rename (r : Renaming) (d : Decoded) : Decoded :=
  ⟨d.nodes.map (Node.rename r), d.failure⟩

namespace Decoder

variable {r r' : Renaming} {table table' : VariableTable} {encoding encoding' : TextEncoding}

/-- The same place up to renaming, or the same failure. -/
theorem place_rename (alike : ReadsAlike r r' table table' encoding encoding') (pc : Nat)
    (payload : List UInt8) :
    (place table pc payload).map (Place.rename r) =
      (place table' pc payload).map (Place.rename r') := by
  have vars := alike.vars (UInt16.ofNat (LittleEndian.read (payload.drop 1)))
  simp only [place]
  cases found : table.get? (UInt16.ofNat (LittleEndian.read (payload.drop 1))) with
  | none =>
    rw [found, Option.map_none, eq_comm, Option.map_eq_none_iff] at vars
    rw [vars]
    rfl
  | some v =>
    rw [found, Option.map_some, eq_comm] at vars
    obtain ⟨w, found', same⟩ := Option.map_eq_some_iff.mp vars
    rw [found']
    simp only [Except.map, Place.rename, same]

/-- The same node up to renaming, or the same failure. -/
theorem node_rename (alike : ReadsAlike r r' table table' encoding encoding') (pc : Nat)
    (payload : List UInt8) (meaning : Meaning) :
    (node table encoding pc payload meaning).map (Node.rename r) =
      (node table' encoding' pc payload meaning).map (Node.rename r') := by
  have places := place_rename alike pc payload
  cases meaning with
  | text => simp only [node, Except.map, Node.rename, alike.texts]
  | access => exact map_map_eq_of_map_eq places fun _ _ same => congrArg (Node.access false) same
  | reference => exact map_map_eq_of_map_eq places fun _ _ same => congrArg Node.reference same
  | _ => rfl

/-- The same token up to renaming, or the same failure. -/
theorem token_rename (alike : ReadsAlike r r' table table' encoding encoding') (pc : Nat)
    (bytes : List UInt8) :
    (token table encoding pc bytes).map (Prod.map (Node.rename r) id) =
      (token table' encoding' pc bytes).map (Prod.map (Node.rename r') id) := by
  have finish : ∀ (payload : List UInt8) (meaning : Meaning) (next : Nat),
      ((node table encoding pc payload meaning).map (·, next)).map (Prod.map (Node.rename r) id) =
        ((node table' encoding' pc payload meaning).map (·, next)).map
          (Prod.map (Node.rename r') id) := fun payload meaning next =>
    map_map_eq_of_map_eq (node_rename alike pc payload meaning) fun _ _ same =>
      congrArg (·, next) same
  rcases bytes with _ | ⟨code, bytes⟩
  · rfl
  cases listed : Opcode.ofCode? code with
  | none => simp only [token, listed]; rfl
  | some op =>
    rcases bytes with _ | ⟨low, _ | ⟨high, rest⟩⟩
    · simp only [token, listed]; rfl
    · simp only [token, listed]; rfl
    simp only [token, listed]
    split
    next => rfl
    next =>
      split
      next =>
        split
        next => exact finish ..
        next => rfl
      next => exact finish ..

/-- Runs over the same bytes go on at the same offsets, so they give the same nodes up to renaming
and fail alike. -/
theorem decodeFrom_rename (alike : ReadsAlike r r' table table' encoding encoding')
    (bytes : List UInt8) (offset : Nat) :
    (decodeFrom (ofTable table encoding) bytes offset).rename r =
      (decodeFrom (ofTable table' encoding') bytes offset).rename r' := by
  rw [decodeFrom.eq_1 (ofTable table encoding), decodeFrom.eq_1 (ofTable table' encoding')]
  by_cases more : offset < bytes.length
  · rw [if_pos more, if_pos more]
    simp only [ofTable]
    rcases map_eq_map_cases (token_rename alike offset (bytes.drop offset)) with
      ⟨error, failed, failed'⟩ | ⟨⟨node, next⟩, ⟨node', next'⟩, read, read', same⟩
    · rw [failed, failed']
      rfl
    · obtain ⟨nodes, rfl⟩ := Prod.mk.inj same
      rw [read, read']
      dsimp only [id]
      by_cases later : offset < next
      · have rest := Decoded.mk.inj (decodeFrom_rename alike bytes next)
        rw [if_pos later, if_pos later]
        simp only [Decoded.rename, Decoded.after, List.map_cons, Decoded.mk.injEq, List.cons.injEq]
        exact ⟨⟨nodes, rest.1⟩, rest.2⟩
      · rw [if_neg later, if_neg later]
        rfl
  · rw [if_neg more, if_neg more]
    rfl
termination_by bytes.length - offset

/-- Decoders that read alike up to renaming give the same nodes up to renaming, and the same
failure. -/
theorem decodeAll_rename (alike : ReadsAlike r r' table table' encoding encoding')
    (bytes : List UInt8) :
    ((ofTable table encoding).decodeAll bytes).rename r =
      ((ofTable table' encoding').decodeAll bytes).rename r' :=
  decodeFrom_rename alike bytes 0

end Decoder

end NovelScript
