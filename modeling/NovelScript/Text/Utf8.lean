/-!
# UTF-8 — one byte at a time

The reader is a machine with two kinds of states: between characters, or inside one, with the
number of bytes still owed, the bounds of the next one, and the bits read so far. The first byte of
a character fixes the bounds of the second, which is what keeps out overlong forms, surrogates and
values past U+10FFFF; every later byte only has to be a continuation byte.

A byte out of bounds ends the character that was begun: U+FFFD stands for what was read of it, and
the byte is read again between characters. So every longest ill-formed beginning of a character
becomes one U+FFFD. A byte order mark is a character like any other.
-/

set_option autoImplicit false

namespace NovelScript

/-- What stands for malformed text. -/
def replacement : Char := '\ufffd'

namespace Utf8

/-- Where the reader stands. -/
inductive State where
  | start
  /-- Inside a character: `owed` bytes to come after the next one, which lies between `low` and
  `high`; `bits` is the value so far. -/
  | inside (owed : Nat) (low high : UInt8) (bits : Nat)
  deriving Repr

/-- What a byte between characters gives: a character at once, a begun character, or nothing. -/
inductive Opening where
  | character (c : Char)
  | begun (state : State)
  | malformed

/-- The first byte of a character. -/
def opening (b : UInt8) : Opening :=
  if b < 0x80 then .character (Char.ofNat b.toNat)
  else if b < 0xC2 then .malformed
  else if b < 0xE0 then .begun (.inside 0 0x80 0xBF (b.toNat - 0xC0))
  else if b = 0xE0 then .begun (.inside 1 0xA0 0xBF 0)
  else if b = 0xED then .begun (.inside 1 0x80 0x9F 0xD)
  else if b < 0xF0 then .begun (.inside 1 0x80 0xBF (b.toNat - 0xE0))
  else if b = 0xF0 then .begun (.inside 2 0x90 0xBF 0)
  else if b < 0xF4 then .begun (.inside 2 0x80 0xBF (b.toNat - 0xF0))
  else if b = 0xF4 then .begun (.inside 2 0x80 0x8F 4)
  else .malformed

/-- The characters that a byte between characters completes, and the state after it. -/
def restart (b : UInt8) : List Char × State :=
  match opening b with
  | .character c => ([c], .start)
  | .begun state => ([], state)
  | .malformed => ([replacement], .start)

/-- One byte: the characters it completes, and the state after it. -/
def step : State → UInt8 → List Char × State
  | .start, b => restart b
  | .inside owed low high bits, b =>
    if low ≤ b && b ≤ high then
      let bits := bits * 64 + (b.toNat - 0x80)
      match owed with
      | 0 => ([Char.ofNat bits], .start)
      | owed + 1 => ([], .inside owed 0x80 0xBF bits)
    else
      let again := restart b
      (replacement :: again.1, again.2)

/-- What is left to say at the end of the bytes. -/
def finish : State → List Char
  | .start => []
  | .inside .. => [replacement]

/-- The characters of the bytes from a state on. -/
def run : State → List UInt8 → List Char
  | state, [] => finish state
  | state, b :: rest => (step state b).1 ++ run (step state b).2 rest

/-- The characters of a text. -/
def decode (bytes : List UInt8) : List Char := run .start bytes

end Utf8

end NovelScript
