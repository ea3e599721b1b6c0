import NovelScript.Json.Lexeme
import NovelScript.Text.Blank

/-!
# Hexadecimal input — bytes in pairs of digits

White space counts for nothing, wherever it stands, and what is left is taken in pairs. A pair is a
number in base sixteen of at most two digits, so besides two digits it may be a plus sign and one.
-/

set_option autoImplicit false

namespace NovelScript

/-- Why a text is no list of bytes. -/
inductive HexError where
  | oddLength
  | badPair (pair : String)
  deriving DecidableEq, Repr

namespace Hex

/-- The byte of a pair of characters. -/
def byte? (high low : Char) : Option UInt8 :=
  match (if high = '+' then some 0 else Json.hexValue? high), Json.hexValue? low with
  | some high, some low => some (UInt8.ofNat (high * 16 + low))
  | _, _ => none

/-- The bytes of characters in pairs; a last one without a partner is left out. -/
def readPairs : List Char → Except HexError (List UInt8)
  | high :: low :: rest =>
    match byte? high low with
    | some b => (readPairs rest).map (b :: ·)
    | none => .error (.badPair (String.ofList [high, low]))
  | _ => .ok []

/-- The bytes of a text. -/
def parse (text : String) : Except HexError (List UInt8) :=
  let digits := text.toList.filter fun c => !isBlank c
  if digits.length % 2 = 0 then readPairs digits else .error .oddLength

end Hex

end NovelScript
