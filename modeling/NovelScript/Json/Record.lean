import NovelScript.Json.Reader

/-!
# Records — JSON read as a type

The readers here know what they want: a whole number of a range, a text, one of some words, a list,
something or `null`, or a record. Where something else stands, it is read just far enough to say
what it is (`typeFault`), and the fault says what was wanted.

A record is read from an object, whose members may come in any order, or from a list of its fields
in the order of their declaration. A field may be optional; a missing one that is not is a fault
when the record ends. No field may come twice. A record is described by its fields (`RecordField`),
each with a reader and with where its value goes, and read into a start value that holds what
missing fields have.
-/

set_option autoImplicit false

namespace NovelScript

namespace Json

/-- The fault of a value, given from its first character, where something else was wanted. -/
def typeFault (expected : String) (text : List Char) : ReadFault :=
  let wrong (found : Found) : ReadFault := .mismatch (.wrongType found expected)
  match text with
  | [] => .ended .value
  | '[' :: _ => wrong .list
  | '\x7b' :: _ => wrong .object
  | text =>
    match readScalar text with
    | .error fault => fault
    | .ok (.null, _) => wrong .null
    | .ok (.bool b, _) => wrong (.bool b)
    | .ok (.int n, _) => wrong (.int n)
    | .ok (.decimal x, _) => wrong (.decimal x)
    | .ok (.string s, _) => wrong (.string s)
    | .ok (.array _, _) => wrong .list
    | .ok (.object _, _) => wrong .object

/-- A whole number between two bounds. -/
def readWhole (expected : String) (low high : Int) : JsonReader Int := fun _ text =>
  match skipSpace text with
  | [] => .error (.ended .value)
  | c :: rest =>
    if Number.begins c then
      match Number.read (c :: rest) with
      | .error fault => .error fault
      | .ok (.decimal x, _) => .error (.mismatch (.wrongType (.decimal x) expected))
      | .ok (.whole n, rest) =>
        if low ≤ n ∧ n ≤ high then .ok (n, rest)
        else .error (.mismatch (.outOfRange n expected))
    else .error (typeFault expected (c :: rest))

/-- The same reader with its value changed. -/
def JsonReader.map {α β : Type} (f : α → β) (reader : JsonReader α) : JsonReader β :=
  fun room text => (reader room text).map fun (x, rest) => (f x, rest)

/-- An unsigned number of eight bits. -/
def readUInt8 : JsonReader UInt8 := JsonReader.map (UInt8.ofNat ·.toNat) (readWhole "u8" 0 255)

/-- An unsigned number of sixteen bits. -/
def readUInt16 : JsonReader UInt16 :=
  JsonReader.map (UInt16.ofNat ·.toNat) (readWhole "u16" 0 65535)

/-- An unsigned number of thirty-two bits. -/
def readUInt32 : JsonReader UInt32 :=
  JsonReader.map (UInt32.ofNat ·.toNat) (readWhole "u32" 0 4294967295)

/-- A signed number of thirty-two bits. -/
def readInt32 : JsonReader Int32 :=
  JsonReader.map Int32.ofInt (readWhole "i32" (-2147483648) 2147483647)

/-- A place in a list. -/
def readIndex : JsonReader Nat :=
  JsonReader.map Int.toNat (readWhole "usize" 0 18446744073709551615)

/-- A text. -/
def readText : JsonReader String := fun _ text =>
  match skipSpace text with
  | '"' :: rest => readString rest
  | text => .error (typeFault "a string" text)

/-- Something, or `null` for nothing. -/
def readOptional {α : Type} (reader : JsonReader α) : JsonReader (Option α) := fun room text =>
  match skipSpace text with
  | 'n' :: rest => (readWord ['u', 'l', 'l'] rest).map fun (_, rest) => (none, rest)
  | text => (reader room text).map fun (x, rest) => (some x, rest)

/-- A list. -/
def readListOf {α : Type} (item : JsonReader α) : JsonReader (List α) := fun room text =>
  match skipSpace text with
  | '[' :: rest =>
    match room with
    | 0 => .error (.malformed .tooDeep)
    | room + 1 => readList false (item room) rest
  | text => .error (typeFault "a sequence" text)

/-- The value of a word among known words. -/
def lookupWord {α : Type} (words : List (String × α)) (word : String) : Except ReadFault α :=
  match words.lookup word with
  | some value => .ok value
  | none => .error (.mismatch (.unknownVariant word (words.map Prod.fst)))

/-- A word, from behind its opening quote. -/
def readKnownWord {α : Type} (words : List (String × α)) (text : List Char) : ReadResult α :=
  match readString text with
  | .error fault => .error fault
  | .ok (word, rest) => (lookupWord words word).map (·, rest)

/-- A word as the key of an object, from behind the opening brace, and the colon behind it. An
object that is read as a word has a key, so what stands there has to be one. -/
def readWordKey {α : Type} (words : List (String × α)) (text : List Char) : ReadResult α :=
  match skipSpace text with
  | [] => .error (.ended .object)
  | '"' :: rest =>
    match readKnownWord words rest with
    | .error fault => .error fault
    | .ok (value, rest) => (readColon rest).map fun ((), rest) => (value, rest)
  | _ => .error (.malformed .keyExpected)

/-- `null`, where nothing else can stand. -/
def readNull (text : List Char) : ReadResult Unit :=
  match skipSpace text with
  | 'n' :: rest => readWord ['u', 'l', 'l'] rest
  | text => .error (typeFault "unit" text)

/-- One of some words: in quotes, or as the only key of an object, over `null`. -/
def readWordOf {α : Type} (words : List (String × α)) : JsonReader α := fun room text =>
  match skipSpace text with
  | [] => .error (.ended .value)
  | '"' :: rest => readKnownWord words rest
  | '\x7b' :: rest =>
    if room = 0 then .error (.malformed .tooDeep)
    else
      match readWordKey words rest with
      | .error fault => .error fault
      | .ok (value, rest) =>
        match readNull rest with
        | .error fault => .error fault
        | .ok ((), rest) =>
          match skipSpace rest with
          | '\x7d' :: rest => .ok (value, rest)
          | [] => .error (.ended .object)
          | _ => .error (.malformed .valueExpected)
  | _ => .error (.malformed .valueExpected)

end Json

/-- A field of a record that is read into a `σ`. -/
structure RecordField (σ : Type) where
  name : String
  /-- Whether the field may be missing. -/
  optional : Bool
  /-- What reads the value, and where it goes. -/
  read : JsonReader (σ → σ)

/-- A field that has to be there. -/
def RecordField.required {σ α : Type} (name : String) (reader : JsonReader α) (put : α → σ → σ) :
    RecordField σ :=
  ⟨name, false, Json.JsonReader.map put reader⟩

/-- A field that may be missing. -/
def RecordField.withDefault {σ α : Type} (name : String) (reader : JsonReader α)
    (put : α → σ → σ) : RecordField σ :=
  ⟨name, true, Json.JsonReader.map put reader⟩

/-- A record: what messages call it, its fields in order, and what it is before any was read. -/
structure RecordType (σ : Type) where
  name : String
  fields : List (RecordField σ)
  start : σ

namespace RecordType

variable {σ : Type} (type : RecordType σ)

/-- What was read of a record so far: its fields' names, and the value. -/
structure Progress (σ : Type) where
  seen : List String
  value : σ

/-- A member of an object that is read as a record. -/
def member (room : Nat) (progress : Progress σ) (key : String) (text : List Char) :
    ReadResult (Progress σ) :=
  match type.fields.find? (fun f => f.name == key) with
  | some field =>
    if progress.seen.contains key then .error (.mismatch (.duplicateField key))
    else
      match Json.readColon text with
      | .error fault => .error fault
      | .ok ((), rest) =>
        (field.read room rest).map fun (put, rest) =>
          (⟨key :: progress.seen, put progress.value⟩, rest)
  | none =>
    match Json.readColon text with
    | .error fault => .error fault
    | .ok ((), rest) => (Json.passValue rest).map fun (_, rest) => (progress, rest)

/-- The value of a record whose members have all been read, unless a field is missing. -/
def complete (progress : Progress σ) : Except ReadFault σ :=
  match type.fields.find? (fun f => !f.optional && !progress.seen.contains f.name) with
  | some field => .error (.mismatch (.missingField field.name))
  | none => .ok progress.value

/-- A record from behind the brace that opens an object. -/
def readObject (room : Nat) (text : List Char) : ReadResult σ :=
  match Json.readMembers false Json.readString (type.member room) ⟨[], type.start⟩ text with
  | .error fault => .error fault
  | .ok (progress, rest) => (type.complete progress).map (·, rest)

/-- The end of a list that is read as a record, after all fields. -/
def closeList (text : List Char) : ReadResult Unit :=
  match Json.skipSpace text with
  | [] => .error (.ended .list)
  | ']' :: rest => .ok ((), rest)
  | ',' :: rest =>
    match Json.skipSpace rest with
    | ']' :: _ => .error (.malformed .trailingComma)
    | _ => .error (.malformed .trailingCharacters)
  | _ => .error (.malformed .trailingCharacters)

/-- The value of a record whose list ended in front of these fields, the first of which has this
number. -/
def completeList (count index : Nat) (value : σ) : List (RecordField σ) → Except ReadFault σ
  | [] => .ok value
  | field :: fields =>
    if field.optional then completeList count (index + 1) value fields
    else
      .error (.mismatch (.wrongLength index
        ("struct " ++ type.name ++ " with " ++ Nat.repr count ++
          (if count = 1 then " element" else " elements"))))

/-- Fields from a list, the first of which has this number. -/
def readFields (room count : Nat) :
    (index : Nat) → σ → List (RecordField σ) → List Char → ReadResult σ
  | _, value, [], text => (closeList text).map fun (_, rest) => (value, rest)
  | index, value, field :: fields, text =>
    match Json.nextItem false (index == 0) text with
    | .error fault => .error fault
    | .ok (.done rest) =>
      (type.completeList count index value (field :: fields)).map (·, rest)
    | .ok (.item rest) =>
      match field.read room rest with
      | .error fault => .error fault
      | .ok (put, rest) => readFields room count (index + 1) (put value) fields rest

/-- The record, from an object or from a list. -/
def read : JsonReader σ := fun room text =>
  match Json.skipSpace text, room with
  | '[' :: _, 0 => .error (.malformed .tooDeep)
  | '\x7b' :: _, 0 => .error (.malformed .tooDeep)
  | '[' :: rest, room + 1 =>
    type.readFields room type.fields.length 0 type.start type.fields rest
  | '\x7b' :: rest, room + 1 => type.readObject room rest
  | text, _ => .error (Json.typeFault ("struct " ++ type.name) text)

end RecordType

end NovelScript
