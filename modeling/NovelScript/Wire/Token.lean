import NovelScript.Wire.LittleEndian
import NovelScript.Wire.Opcode

/-!
# Tokens — opcode, length, payload

A token on the wire is an opcode byte, the size of the payload in two bytes, and the payload. The
size field bounds the payload at 65535 bytes, so a longer one has no token (`Token.encode?`).

## What is proved

`encode?_eq_some_iff`: a payload has a token exactly when it fits the size field, and the token is
three bytes longer.
-/

set_option autoImplicit false

namespace NovelScript.Token

/-- The largest payload, by the two bytes of the size field. -/
def maxPayload : Nat := 65535

/-- The bytes of a token. -/
def bytes (code : UInt8) (payload : List UInt8) : List UInt8 :=
  code :: LittleEndian.write 2 payload.length ++ payload

/-- The bytes of a token, unless the payload is too long for one. -/
def encode? (code : UInt8) (payload : List UInt8) : Option (List UInt8) :=
  if payload.length ≤ maxPayload then some (bytes code payload) else none

/-- The refusal of a payload. -/
def oversizedMessage (payload : List UInt8) : String :=
  "operand of " ++ Nat.repr payload.length ++ " bytes does not fit a token"

theorem length_bytes (code : UInt8) (payload : List UInt8) :
    (bytes code payload).length = payload.length + 3 := by
  simp [bytes]
  omega

/-- Exactly the payloads that fit the size field have a token. -/
theorem encode?_eq_some_iff (code : UInt8) (payload token : List UInt8) :
    encode? code payload = some token ↔
      payload.length ≤ maxPayload ∧ token = bytes code payload := by
  unfold encode?
  split
  next fits => simp [fits, eq_comm]
  next long => simp [long]

end NovelScript.Token
