import NovelScript.Wire.Token
import NovelScript.Expr.Text
import NovelScript.Text.Encoding
import NovelScript.Variable.Table

/-!
# Decoding — from bytes to the flat list

A decoder reads one node at an offset and says where the next one begins. The decoder of the opcode
table (`Decoder.ofTable`) reads a token: the opcode byte has to be in the table, the payload has to
be there in full, literals and variables need a payload of their one size, and a variable has to be
declared. The payload of an operator is not looked at, whatever its size.

The loop (`Decoder.decodeAll`) works with any decoder, so it cannot trust the offsets it is given:
it goes on only while they grow, and so ends. What it decoded before a failure is part of its
answer, since reports show it.
-/

set_option autoImplicit false

namespace NovelScript

/-- Why a byte string is no list of tokens. -/
inductive DecodeError where
  /-- The bytes end inside the opcode or the size field. -/
  | endOfInput
  | invalidOpcode (pc : Nat) (code : UInt8)
  /-- The bytes end inside the payload. -/
  | truncated (pc size remaining : Nat)
  /-- The payload does not have the size that its layout needs. -/
  | wrongSize (pc : Nat) (mnemonic : String) (expected actual : Nat)
  | unknownVariable (pc : Nat) (id : UInt16)
  /-- A decoder named no later offset to go on at. -/
  | noProgress (offset : Nat)
  deriving DecidableEq, Repr

/-- The two digits of a byte. -/
def hexByte (b : UInt8) : String :=
  String.ofList [Json.hexDigit (b.toNat / 16), Json.hexDigit (b.toNat % 16)]

/-- The text of a failure. -/
def DecodeError.message : DecodeError → String
  | .endOfInput => "unexpected end of input"
  | .invalidOpcode pc code => "invalid opcode 0x" ++ hexByte code ++ " at pc=" ++ Nat.repr pc
  | .truncated pc size remaining =>
    "truncated operand at pc=" ++ Nat.repr pc ++ " (operand size=" ++ Nat.repr size ++
      ", remaining=" ++ Nat.repr remaining ++ ")"
  | .wrongSize pc mnemonic expected actual =>
    "operand width mismatch for " ++ mnemonic ++ " at pc=" ++ Nat.repr pc ++ " (expected " ++
      Nat.repr expected ++ ", got " ++ Nat.repr actual ++ ")"
  | .unknownVariable pc id =>
    "unknown variable id " ++ Nat.repr id.toNat ++ " at pc=" ++ Nat.repr pc
  | .noProgress offset => "decoder did not advance past offset " ++ Nat.repr offset

/-- What reads the nodes and the texts of a byte string. -/
structure Decoder where
  /-- The node at an offset, and the offset after it. -/
  decode : List UInt8 → Nat → Except DecodeError (Node × Nat)
  /-- The text that bytes stand for. -/
  text : List UInt8 → String

/-- What a run over a byte string gives: the nodes up to the end or to a failure. -/
structure Decoded where
  nodes : List Node
  failure : Option DecodeError

/-- The same run behind a node. -/
def Decoded.after (node : Node) (d : Decoded) : Decoded := ⟨node :: d.nodes, d.failure⟩

namespace Decoder

/-- The place that a variable payload names: a mode byte, then the id. -/
def place (table : VariableTable) (pc : Nat) (payload : List UInt8) : Except DecodeError Place :=
  let id := UInt16.ofNat (LittleEndian.read (payload.drop 1))
  match table.get? id with
  | some var => .ok ⟨payload.headD 0, var⟩
  | none => .error (.unknownVariable pc id)

/-- The node that a token with this meaning and payload stands for; the payload has the size that
the layout asks for. -/
def node (table : VariableTable) (encoding : TextEncoding) (pc : Nat) (payload : List UInt8) :
    Meaning → Except DecodeError Node
  | .nop => .ok .nop
  | .binary op => .ok (.binaryToken op)
  | .unary op => .ok (.unaryToken op)
  | .element => .ok .elementToken
  | .byte => .ok (.byte (UInt8.ofNat (LittleEndian.read payload)).toInt8)
  | .short => .ok (.short (UInt16.ofNat (LittleEndian.read payload)).toInt16)
  | .int => .ok (.int (UInt32.ofNat (LittleEndian.read payload)).toInt32)
  | .long => .ok (.long (UInt64.ofNat (LittleEndian.read payload)).toInt64)
  | .decimal => .ok (.decimal ⟨UInt64.ofNat (LittleEndian.read payload)⟩)
  | .text => .ok (.text (encoding.decode payload))
  | .access => (place table pc payload).map (.access false)
  | .reference => (place table pc payload).map .reference

/-- The size that a payload is checked against: that of its layout, but operators go unchecked. -/
def checkedSize? (op : Opcode) : Option Nat :=
  match op.meaning with
  | .binary _ | .unary _ => none
  | _ => op.layout.size?

/-- The token at the head of the bytes that begin at `pc`. -/
def token (table : VariableTable) (encoding : TextEncoding) (pc : Nat) :
    List UInt8 → Except DecodeError (Node × Nat)
  | [] => .error .endOfInput
  | code :: rest =>
    match Opcode.ofCode? code with
    | none => .error (.invalidOpcode pc code)
    | some op =>
      match rest with
      | low :: high :: rest =>
        let size := LittleEndian.read [low, high]
        if rest.length < size then .error (.truncated pc size rest.length)
        else
          match checkedSize? op with
          | some expected =>
            if size = expected then
              (node table encoding pc (rest.take size) op.meaning).map (·, pc + 3 + size)
            else .error (.wrongSize pc op.mnemonic expected size)
          | none => (node table encoding pc (rest.take size) op.meaning).map (·, pc + 3 + size)
      | _ => .error .endOfInput

/-- The decoder of the opcode table. -/
def ofTable (table : VariableTable) (encoding : TextEncoding) : Decoder where
  decode bytes offset := token table encoding offset (bytes.drop offset)
  text := encoding.decode

/-- The run of a decoder from an offset on. -/
def decodeFrom (decoder : Decoder) (bytes : List UInt8) (offset : Nat) : Decoded :=
  if offset < bytes.length then
    match decoder.decode bytes offset with
    | .error e => ⟨[], some e⟩
    | .ok (node, next) =>
      if offset < next then (decodeFrom decoder bytes next).after node
      else ⟨[], some (.noProgress offset)⟩
  else ⟨[], none⟩
termination_by bytes.length - offset

/-- The run of a decoder over all bytes. -/
def decodeAll (decoder : Decoder) (bytes : List UInt8) : Decoded :=
  decodeFrom decoder bytes 0

end Decoder

end NovelScript
