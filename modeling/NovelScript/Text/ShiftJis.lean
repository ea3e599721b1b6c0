import NovelScript.Text.Utf8
import NovelScript.Text.ShiftJisIndex

/-!
# Shift_JIS — one byte or two

ASCII, U+0080 and the half-width katakana take one byte, everything else a lead byte and a trail
byte. A pair without a character becomes one U+FFFD; its trail byte is read again if it is ASCII, so
a broken pair never swallows an ASCII character. A lead byte at the end is one U+FFFD.
-/

set_option autoImplicit false

namespace NovelScript.ShiftJis

/-- The character of a byte that stands alone, if it has one. -/
def single? (b : UInt8) : Option Char :=
  if b ≤ 0x80 then some (Char.ofNat b.toNat)
  else if 0xA1 ≤ b && b ≤ 0xDF then some (Char.ofNat (0xFF61 + (b.toNat - 0xA1)))
  else none

/-- The number of a lead byte's row. -/
def row? (lead : UInt8) : Option Nat :=
  if 0x81 ≤ lead && lead ≤ 0x9F then some (lead.toNat - 0x81)
  else if 0xE0 ≤ lead && lead ≤ 0xFC then some (lead.toNat - 0xC1)
  else none

/-- The number of a trail byte's cell within a row. -/
def column? (trail : UInt8) : Option Nat :=
  if 0x40 ≤ trail && trail ≤ 0x7E then some (trail.toNat - 0x40)
  else if 0x80 ≤ trail && trail ≤ 0xFC then some (trail.toNat - 0x41)
  else none

/-- The character at a pointer; the rows between the two tables belong to users and map in order
into the private use area. -/
def atPointer? (pointer : Nat) : Option Char :=
  let cell? :=
    if pointer < 8836 then lowerCells[pointer]?
    else if pointer ≤ 10715 then some (Char.ofNat (0xE000 + (pointer - 8836)))
    else upperCells[pointer - 10716]?
  cell?.filter (· ≠ hole)

/-- The character of a trail byte in a row. -/
def pair? (row : Nat) (trail : UInt8) : Option Char :=
  (column? trail).bind fun column => atPointer? (row * rowLength + column)

/-- The characters of a text. -/
def decode : List UInt8 → List Char
  | [] => []
  | b :: rest =>
    match single? b, row? b, rest with
    | some c, _, rest => c :: decode rest
    | none, none, rest => replacement :: decode rest
    | none, some _, [] => [replacement]
    | none, some row, trail :: rest =>
      match pair? row trail with
      | some c => c :: decode rest
      | none => replacement :: (if trail < 0x80 then decode (trail :: rest) else decode rest)

end NovelScript.ShiftJis
