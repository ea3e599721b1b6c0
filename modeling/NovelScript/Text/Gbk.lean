import NovelScript.Text.Utf8
import NovelScript.Text.GbkIndex

/-!
# GBK — one, two or four bytes

The reader takes all of GB 18030, of which GBK is the part of one and two bytes. ASCII and the euro
sign take one byte, a pair is a row and a cell of the index, and a pair whose second byte is a digit
begins a character of four bytes.

What has no character becomes one U+FFFD, and the reader goes on where nothing readable is lost:
after a broken pair at its second byte if that is ASCII, after a broken four-byte form at its second
byte. Bytes that end inside a character are one U+FFFD together.
-/

set_option autoImplicit false

namespace NovelScript.Gbk

/-- The character of a byte that stands alone, if it has one. -/
def single? (b : UInt8) : Option Char :=
  if b < 0x80 then some (Char.ofNat b.toNat)
  else if b = 0x80 then some '\u20ac'
  else none

/-- The number of a lead byte's row. -/
def row? (lead : UInt8) : Option Nat :=
  if 0x81 ≤ lead && lead ≤ 0xFE then some (lead.toNat - 0x81) else none

/-- The number of a second byte's cell within a row. -/
def column? (second : UInt8) : Option Nat :=
  if 0x40 ≤ second && second ≤ 0x7E then some (second.toNat - 0x40)
  else if 0x80 ≤ second && second ≤ 0xFE then some (second.toNat - 0x41)
  else none

/-- The character of a cell in the zones left to users: two blocks of 94 columns, then one of the
96 columns before those. -/
def userDefined? (row column : Nat) : Option Char :=
  if 41 ≤ row && row ≤ 46 && 96 ≤ column then
    some (Char.ofNat (0xE000 + (row - 41) * 94 + (column - 96)))
  else if 119 ≤ row && 96 ≤ column then
    some (Char.ofNat (0xE234 + (row - 119) * 94 + (column - 96)))
  else if 32 ≤ row && row ≤ 38 && column < 96 then
    some (Char.ofNat (0xE4C6 + (row - 32) * 96 + column))
  else none

/-- The character of a second byte in a row: that of its cell, or that of the zone if the cell is
marked as left to users. -/
def pair? (row : Nat) (second : UInt8) : Option Char :=
  (column? second).bind fun column =>
    match cells[row * rowLength + column]? with
    | some '.' => userDefined? row column
    | cell => cell

/-- The code point that a pointer of the basic plane reaches from the last skip before it. -/
def afterSkip (pointer : Nat) : Nat :=
  match (ranges.takeWhile fun skip => skip.1 ≤ pointer).getLast? with
  | some skip => skip.2 + (pointer - skip.1)
  | none => 0

/-- The character of a four-byte pointer. One pointer of the basic plane traded its character for
one that has a pair. -/
def quad? (pointer : Nat) : Option Char :=
  if pointer = 7457 then some '\ue7c7'
  else if pointer ≤ 39419 then some (Char.ofNat (afterSkip pointer))
  else if 189000 ≤ pointer && pointer ≤ 1237575 then
    some (Char.ofNat (0x10000 + (pointer - 189000)))
  else none

/-- Whether a byte is an ASCII digit, as the second and fourth of four bytes are. -/
def isDigit (b : UInt8) : Bool := 0x30 ≤ b && b ≤ 0x39

/-- The characters of a text. -/
def decode : List UInt8 → List Char
  | [] => []
  | b :: rest =>
    match single? b, row? b, rest with
    | some c, _, rest => c :: decode rest
    | none, none, rest => replacement :: decode rest
    | none, some _, [] => [replacement]
    | none, some row, second :: rest =>
      if isDigit second then
        match rest with
        | [] => [replacement]
        | third :: rest =>
          match row? third, rest with
          | none, rest => replacement :: decode (second :: third :: rest)
          | some _, [] => [replacement]
          | some middle, fourth :: rest =>
            if isDigit fourth then
              let pointer := row * 12600 + (second.toNat - 0x30) * 1260 + middle * 10 +
                (fourth.toNat - 0x30)
              (quad? pointer).getD replacement :: decode rest
            else replacement :: decode (second :: third :: fourth :: rest)
      else
        match pair? row second with
        | some c => c :: decode rest
        | none => replacement :: (if second < 0x80 then decode (second :: rest) else decode rest)

end NovelScript.Gbk
