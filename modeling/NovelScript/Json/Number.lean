import NovelScript.Json.Lexeme
import NovelScript.Decimal.Nearest

/-!
# Numbers — whole within sixty-four bits, else decimal

A number without point and exponent is whole if it fits sixty-four bits, signed or unsigned; a
negative zero and everything larger is a decimal.

A decimal is made from its significand and its power of ten. The significand takes digits while it
fits sixty-four bits; of the digits beyond, those before the point only raise the power, and those
after it count for nothing. Then the significand is rounded to a binary64, and that is multiplied or
divided by a power of ten, which is a binary64 itself; a power too small to be one is divided out in
steps. So a decimal of many digits may be read as a neighbour of the nearest value.
-/

set_option autoImplicit false

namespace NovelScript

/-- A number as it is read. -/
inductive Number where
  | whole (value : Int)
  | decimal (value : Binary64)
  deriving DecidableEq, Repr

namespace Number

/-- The value of a decimal digit. -/
def digit? (c : Char) : Option Nat := if '0' ≤ c && c ≤ '9' then some (c.toNat - 48) else none

/-- The digits at the front of a text, and the rest. -/
def spanDigits : List Char → List Nat × List Char
  | [] => ([], [])
  | c :: text =>
    match digit? c with
    | some d => (d :: (spanDigits text).1, (spanDigits text).2)
    | none => ([], c :: text)

/-- The largest significand. -/
def maxSignificand : Nat := 0xFFFFFFFFFFFFFFFF

/-- A significand extended by digits while it fits, and the number of digits that were left over. -/
def absorb : (significand : Nat) → List Nat → Nat × Nat
  | significand, [] => (significand, 0)
  | significand, d :: rest =>
    if significand * 10 + d ≤ maxSignificand then absorb (significand * 10 + d) rest
    else (significand, rest.length + 1)

/-- The largest power of ten that is a binary64. -/
def maxPower : Nat := 308

/-- A value divided by `10 ^ n`, by the largest power first, until nothing is left of either. -/
def divideByPower (x : Binary64) (n : Nat) : Binary64 :=
  if n ≤ maxPower then x.dividedBy (Binary64.powerOfTen n)
  else if x = Binary64.zero then x
  else divideByPower (x.dividedBy (Binary64.powerOfTen maxPower)) (n - maxPower)
termination_by n
decreasing_by simp only [maxPower] at *; omega

/-- A value multiplied by `10 ^ n`, unless that is out of range. -/
def multiplyByPower (x : Binary64) (n : Nat) : Option Binary64 :=
  if n ≤ maxPower then
    let product := x.times (Binary64.powerOfTen n)
    if product = Binary64.infinity then none else some product
  else if x = Binary64.zero then some x
  else none

/-- The value with its sign. -/
def signed (negative : Bool) (x : Binary64) : Binary64 := if negative then x.negate else x

/-- The decimal of a significand and a power of ten. -/
def ofParts (negative : Bool) (significand : Nat) : (power : Int) → Except ReadFault Number
  | .ofNat n =>
    match multiplyByPower (Binary64.nearest significand 1) n with
    | some x => .ok (.decimal (signed negative x))
    | none => .error (.malformed .numberOutOfRange)
  | .negSucc n =>
    .ok (.decimal (signed negative (divideByPower (Binary64.nearest significand 1) (n + 1))))

/-- The number of a significand alone. -/
def ofSignificand (negative : Bool) (significand : Nat) : Number :=
  if negative then
    if 1 ≤ significand && significand ≤ 0x8000000000000000 then .whole (-(significand : Int))
    else .decimal (signed true (Binary64.nearest significand 1))
  else .whole significand

/-- The fault of a number that lacks a digit in front of a text. -/
def digitMissing (text : List Char) : ReadFault :=
  if text.isEmpty then .ended .value else .malformed .badNumber

/-- The largest exponent that is still counted. -/
def maxExponent : Nat := 0x7FFFFFFF

/-- The value of an exponent's digits, unless it is past counting. -/
def exponentValue? : (value : Nat) → List Nat → Option Nat
  | value, [] => some value
  | value, d :: rest =>
    if value * 10 + d ≤ maxExponent then exponentValue? (value * 10 + d) rest else none

/-- The sign in front of an exponent, and the text behind it. -/
def exponentSign : List Char → Bool × List Char
  | '-' :: text => (true, text)
  | '+' :: text => (false, text)
  | text => (false, text)

/-- The end of a number, from behind the letter of its exponent. An exponent past counting gives
zero or nothing. -/
def readExponent (negative : Bool) (significand : Nat) (power : Int) (text : List Char) :
    ReadResult Number :=
  let (down, text) := exponentSign text
  match spanDigits text with
  | ([], rest) => .error (digitMissing rest)
  | (digits, rest) =>
    match exponentValue? 0 digits with
    | some e =>
      (ofParts negative significand (if down then power - e else power + e)).map (·, rest)
    | none =>
      if significand ≠ 0 && !down then .error (.malformed .numberOutOfRange)
      else .ok (.decimal (signed negative Binary64.zero), rest)

/-- A decimal from behind its significand: an exponent or the end. -/
def readPower (negative : Bool) (significand : Nat) (power : Int) (text : List Char) :
    ReadResult Number :=
  match text with
  | 'e' :: rest => readExponent negative significand power rest
  | 'E' :: rest => readExponent negative significand power rest
  | rest => (ofParts negative significand power).map (·, rest)

/-- A decimal from behind its point. -/
def readFraction (negative : Bool) (significand : Nat) (power : Int) (text : List Char) :
    ReadResult Number :=
  match spanDigits text with
  | ([], rest) => .error (digitMissing rest)
  | (digits, rest) =>
    let (significand, left) := absorb significand digits
    readPower negative significand (power - ((digits.length - left : Nat) : Int)) rest

/-- A number from behind the digits before its point; `left` of them were left over. -/
def readTail (negative : Bool) (significand left : Nat) (text : List Char) : ReadResult Number :=
  match text with
  | '.' :: rest => readFraction negative significand left rest
  | 'e' :: rest => readExponent negative significand left rest
  | 'E' :: rest => readExponent negative significand left rest
  | rest =>
    if left = 0 then .ok (ofSignificand negative significand, rest)
    else (ofParts negative significand left).map (·, rest)

/-- A number from behind its sign. A zero stands alone before the point. -/
def readUnsigned (negative : Bool) (text : List Char) : ReadResult Number :=
  match spanDigits text with
  | ([], rest) => .error (digitMissing rest)
  | (0 :: _ :: _, _) => .error (.malformed .badNumber)
  | (digits, rest) =>
    let (significand, left) := absorb 0 digits
    readTail negative significand left rest

/-- The sign of a number, and the text behind it. -/
def sign : List Char → Bool × List Char
  | '-' :: text => (true, text)
  | text => (false, text)

/-- The number at the front of a text. -/
def read (text : List Char) : ReadResult Number :=
  let (negative, text) := sign text
  readUnsigned negative text

/-- The rest of a text behind at least one digit. -/
def passDigits (text : List Char) : ReadResult Unit :=
  match spanDigits text with
  | ([], _) => .error (.malformed .badNumber)
  | (_, rest) => .ok ((), rest)

/-- The rest of a text behind an exponent, if there is one. -/
def passExponent : List Char → ReadResult Unit
  | 'e' :: text => passDigits (exponentSign text).2
  | 'E' :: text => passDigits (exponentSign text).2
  | text => .ok ((), text)

/-- The rest of a text behind a number that is passed over. Its value may be out of range. -/
def pass (text : List Char) : ReadResult Unit :=
  match spanDigits (sign text).2 with
  | ([], _) => .error (.malformed .badNumber)
  | (0 :: _ :: _, _) => .error (.malformed .badNumber)
  | (_, '.' :: rest) =>
    match passDigits rest with
    | .ok ((), rest) => passExponent rest
    | .error fault => .error fault
  | (_, rest) => passExponent rest

/-- Whether a character begins a number. -/
def begins (c : Char) : Bool := c == '-' || (digit? c).isSome

end Number

end NovelScript
