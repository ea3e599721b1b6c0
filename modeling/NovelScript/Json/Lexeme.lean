import NovelScript.Json.Fault

/-!
# Lexemes — blanks, words and strings

The readers of this library take a list of characters and give what they read with the rest, or a
fault. Here are the smallest of them.

A string is read by a machine that looks at one character at a time (`StringState`): plain text,
after a backslash, inside the four digits of a numbered escape, or between the two halves of a pair
of surrogates. A text that is only passed over is read by the same machine in its lenient mode,
where surrogates need no partner.
-/

set_option autoImplicit false

namespace NovelScript

/-- The outcome of reading: a value and the rest of the text. -/
abbrev ReadResult (α : Type) := Except ReadFault (α × List Char)

namespace Json

/-- Whether a character may stand between tokens. -/
def isSpace (c : Char) : Bool := c == ' ' || c == '\n' || c == '\t' || c == '\x0d'

/-- The text from its first token on. -/
def skipSpace (text : List Char) : List Char := text.dropWhile isSpace

/-- The rest of a text behind the letters of a word. -/
def readWord : (letters : List Char) → List Char → ReadResult Unit
  | [], text => .ok ((), text)
  | _ :: _, [] => .error (.ended .value)
  | letter :: letters, c :: text =>
    if c = letter then readWord letters text else .error (.malformed .wordExpected)

/-- The value of a hexadecimal digit. -/
def hexValue? (c : Char) : Option Nat :=
  if '0' ≤ c && c ≤ '9' then some (c.toNat - 48)
  else if 'a' ≤ c && c ≤ 'f' then some (c.toNat - 87)
  else if 'A' ≤ c && c ≤ 'F' then some (c.toNat - 55)
  else none

/-- A digit is read as the value it was written for. -/
theorem hexValue?_hexDigit : ∀ n < 16, hexValue? (hexDigit n) = some n := by decide

/-- What a letter after a backslash stands for, numbered escapes apart. -/
def simpleEscape? (c : Char) : Option Char :=
  if c = '"' || c = '\\' || c = '/' then some c
  else if c = 'b' then some '\x08'
  else if c = 'f' then some '\x0c'
  else if c = 'n' then some '\n'
  else if c = 'r' then some '\x0d'
  else if c = 't' then some '\t'
  else none

/-- Where the reader of a string stands. `high` is the first half of a pair of surrogates, once that
has been read. -/
inductive StringState where
  | plain
  | escaped
  /-- Inside a numbered escape: how many digits were read, and their value. -/
  | digits (high : Option Nat) (count value : Nat)
  /-- After the first half of a pair: a backslash has to come. -/
  | paired (high : Nat)
  /-- After that backslash: the letter of a numbered escape has to come. -/
  | pairedEscape (high : Nat)

/-- What a complete numbered escape gives: a character or the first half of a pair. -/
def closeEscape (lenient : Bool) (high : Option Nat) (value : Nat) :
    Except ReadFault (Option Char × StringState) :=
  if lenient then .ok (none, .plain)
  else
    match high with
    | some high =>
      if 0xDC00 ≤ value && value ≤ 0xDFFF then
        .ok (some (Char.ofNat (0x10000 + (high - 0xD800) * 1024 + (value - 0xDC00))), .plain)
      else .error (.malformed .loneSurrogate)
    | none =>
      if 0xDC00 ≤ value && value ≤ 0xDFFF then .error (.malformed .loneSurrogate)
      else if 0xD800 ≤ value && value ≤ 0xDBFF then .ok (none, .paired value)
      else .ok (some (Char.ofNat value), .plain)

/-- The number of bytes that a text takes. -/
def byteCount (text : List Char) : Nat := text.foldl (fun bytes c => bytes + c.utf8Size) 0

/-- The fault of a numbered escape that breaks off after `count` digits. An escape takes four bytes,
so a text with fewer of them left has ended, whatever they are. -/
def brokenEscape (count : Nat) (text : List Char) : ReadFault :=
  if count + byteCount (text.take 4) < 4 then .ended .string else .malformed .badEscape

/-- The text of a string up to its closing quote. -/
def readStringFrom (lenient : Bool) : StringState → List Char → ReadResult (List Char)
  | .plain, [] => .error (.ended .string)
  | .plain, c :: text =>
    if c = '"' then .ok ([], text)
    else if c = '\\' then readStringFrom lenient .escaped text
    else if c.toNat < 32 then .error (.malformed .controlCharacter)
    else (readStringFrom lenient .plain text).map fun (s, rest) => (c :: s, rest)
  | .escaped, [] => .error (.ended .string)
  | .escaped, c :: text =>
    if c = 'u' then readStringFrom lenient (.digits none 0 0) text
    else
      match simpleEscape? c with
      | some c => (readStringFrom lenient .plain text).map fun (s, rest) => (c :: s, rest)
      | none => .error (.malformed .badEscape)
  | .digits _ count _, [] => .error (brokenEscape count [])
  | .digits high count value, c :: text =>
    match hexValue? c with
    | none => .error (brokenEscape count (c :: text))
    | some digit =>
      if count < 3 then readStringFrom lenient (.digits high (count + 1) (value * 16 + digit)) text
      else
        match closeEscape lenient high (value * 16 + digit) with
        | .error fault => .error fault
        | .ok (some c, state) =>
          (readStringFrom lenient state text).map fun (s, rest) => (c :: s, rest)
        | .ok (none, state) => readStringFrom lenient state text
  | .paired _, [] => .error (.ended .string)
  | .paired high, c :: text =>
    if c = '\\' then readStringFrom lenient (.pairedEscape high) text
    else .error (.malformed .unpairedSurrogate)
  | .pairedEscape _, [] => .error (.ended .string)
  | .pairedEscape high, c :: text =>
    if c = 'u' then readStringFrom lenient (.digits (some high) 0 0) text
    else .error (.malformed .unpairedSurrogate)

/-- A string, from behind its opening quote. -/
def readString (text : List Char) : ReadResult String :=
  (readStringFrom false .plain text).map fun (s, rest) => (String.ofList s, rest)

/-- A string that is passed over. -/
def passString (text : List Char) : ReadResult Unit :=
  (readStringFrom true .plain text).map fun (_, rest) => ((), rest)

end Json

end NovelScript
