import NovelScript.Json.Number

/-!
# The reader — values, containers, and what is passed over

A `JsonReader` reads one value of a type from the front of a text. It is told how many containers
may still be opened inside one another; opening one more than `maxDepth` is a fault, so a text
cannot make the reader nest without bound. That number is also what the reading of free values
recurses on.

Lists and objects are read by loops over any reader of their parts. A loop makes progress with every
part, so the length of the text bounds its rounds; the bound is computed here and never shows.

Members that a record does not know are passed over: they have to be JSON, but neither their depth
nor the range of their numbers nor the pairing of their surrogates is looked at. Nor is a comma
before the end of a container told apart from any other place that lacks an item or a key. So the
loops are told whether they are `passing`.
-/

set_option autoImplicit false

namespace NovelScript

/-- What reads a value when `room` containers may still be opened. -/
abbrev JsonReader (α : Type) := (room : Nat) → List Char → ReadResult α

namespace Json

/-- How many containers may stand inside one another. -/
def maxDepth : Nat := 127

/-- What the next token of a list is: its end, or an item that begins at the rest. -/
inductive NextItem where
  | done (rest : List Char)
  | item (rest : List Char)

/-- The next item of a list. Every item but the first has a comma before it, and a comma needs an
item after it. -/
def nextItem (passing first : Bool) (text : List Char) : Except ReadFault NextItem :=
  match skipSpace text with
  | [] => .error (.ended .list)
  | ']' :: rest => .ok (.done rest)
  | c :: rest =>
    if first then .ok (.item (c :: rest))
    else if c = ',' then
      match skipSpace rest with
      | [] => .error (.ended .value)
      | ']' :: _ => .error (.malformed (if passing then .valueExpected else .trailingComma))
      | rest => .ok (.item rest)
    else .error (.malformed .listEndExpected)

/-- The items of a list up to its end, in at most `rounds` rounds. -/
def readItems {α : Type} (passing : Bool) (item : List Char → ReadResult α) :
    (rounds : Nat) → (first : Bool) → List Char → ReadResult (List α)
  | 0, _, _ => .error (.malformed .valueExpected)
  | rounds + 1, first, text =>
    match nextItem passing first text with
    | .error fault => .error fault
    | .ok (.done rest) => .ok ([], rest)
    | .ok (.item rest) =>
      match item rest with
      | .error fault => .error fault
      | .ok (x, rest) =>
        (readItems passing item rounds false rest).map fun (xs, rest) => (x :: xs, rest)

/-- The items of a list, from behind its opening bracket. -/
def readList {α : Type} (passing : Bool) (item : List Char → ReadResult α) (text : List Char) :
    ReadResult (List α) :=
  readItems passing item (text.length + 1) true text

/-- What the next token of an object is: its end, or a key whose quote was opened. -/
inductive NextKey where
  | done (rest : List Char)
  | key (rest : List Char)

/-- The next key of an object. Every key but the first has a comma before it, and a comma needs a
key after it. -/
def nextKey (passing first : Bool) (text : List Char) : Except ReadFault NextKey :=
  match skipSpace text with
  | [] => .error (.ended .object)
  | '\x7d' :: rest => .ok (.done rest)
  | c :: rest =>
    if first then
      if c = '"' then .ok (.key rest) else .error (.malformed .keyExpected)
    else if c = ',' then
      match skipSpace rest with
      | [] => .error (.ended (if passing then .object else .value))
      | '"' :: rest => .ok (.key rest)
      | '\x7d' :: _ => .error (.malformed (if passing then .keyExpected else .trailingComma))
      | _ => .error (.malformed .keyExpected)
    else .error (.malformed .objectEndExpected)

/-- The rest of a text behind the colon of a member. -/
def readColon (text : List Char) : ReadResult Unit :=
  match skipSpace text with
  | [] => .error (.ended .object)
  | ':' :: rest => .ok ((), rest)
  | _ => .error (.malformed .colonExpected)

/-- The members of an object up to its end, in at most `rounds` rounds. What becomes of a member is
for `member` to say: it is given what was read so far, the key, and the text behind the key. -/
def readMembersFrom {σ κ : Type} (passing : Bool) (key : List Char → ReadResult κ)
    (member : σ → κ → List Char → ReadResult σ) :
    (rounds : Nat) → (first : Bool) → σ → List Char → ReadResult σ
  | 0, _, _, _ => .error (.malformed .valueExpected)
  | rounds + 1, first, state, text =>
    match nextKey passing first text with
    | .error fault => .error fault
    | .ok (.done rest) => .ok (state, rest)
    | .ok (.key rest) =>
      match key rest with
      | .error fault => .error fault
      | .ok (k, rest) =>
        match member state k rest with
        | .error fault => .error fault
        | .ok (state, rest) => readMembersFrom passing key member rounds false state rest

/-- The members of an object, from behind its opening brace. -/
def readMembers {σ κ : Type} (passing : Bool) (key : List Char → ReadResult κ)
    (member : σ → κ → List Char → ReadResult σ) (start : σ) (text : List Char) : ReadResult σ :=
  readMembersFrom passing key member (text.length + 1) true start text

/-- A number as a value. -/
def ofNumber : Number → Json
  | .whole n => .int n
  | .decimal x => .decimal x

/-- A value that is no container, from its first character on. -/
def readScalar (text : List Char) : ReadResult Json :=
  match text with
  | [] => .error (.ended .value)
  | 'n' :: rest => (readWord ['u', 'l', 'l'] rest).map fun (_, rest) => (.null, rest)
  | 't' :: rest => (readWord ['r', 'u', 'e'] rest).map fun (_, rest) => (.bool true, rest)
  | 'f' :: rest => (readWord ['a', 'l', 's', 'e'] rest).map fun (_, rest) => (.bool false, rest)
  | '"' :: rest => (readString rest).map fun (s, rest) => (.string s, rest)
  | c :: rest =>
    if Number.begins c then (Number.read (c :: rest)).map fun (n, rest) => (ofNumber n, rest)
    else .error (.malformed .valueExpected)

/-- A member of a free object: the colon and the value, put among the members read so far. -/
def readFreeMember (value : List Char → ReadResult Json) (members : List (String × Json))
    (key : String) (text : List Char) : ReadResult (List (String × Json)) :=
  match readColon text with
  | .error fault => .error fault
  | .ok ((), rest) => (value rest).map fun (v, rest) => (insertMember key v members, rest)

/-- Any value. Members are sorted by key, and of members with one key the last one counts. -/
def readValue : JsonReader Json
  | 0, text =>
    match skipSpace text with
    | '[' :: _ => .error (.malformed .tooDeep)
    | '\x7b' :: _ => .error (.malformed .tooDeep)
    | text => readScalar text
  | room + 1, text =>
    match skipSpace text with
    | '[' :: rest =>
      (readList false (readValue room) rest).map fun (items, rest) => (.array items, rest)
    | '\x7b' :: rest =>
      (readMembers false readString (readFreeMember (readValue room)) [] rest).map
        fun (members, rest) => (.object members, rest)
    | text => readScalar text

/-- The rest of a text behind a value that is no container. -/
def passScalar (text : List Char) : ReadResult Unit :=
  match text with
  | [] => .error (.ended .value)
  | 'n' :: rest => readWord ['u', 'l', 'l'] rest
  | 't' :: rest => readWord ['r', 'u', 'e'] rest
  | 'f' :: rest => readWord ['a', 'l', 's', 'e'] rest
  | '"' :: rest => passString rest
  | c :: rest =>
    if Number.begins c then Number.pass (c :: rest) else .error (.malformed .valueExpected)

/-- A member that is passed over. -/
def passMember (value : List Char → ReadResult Unit) (_ _ : Unit) (text : List Char) :
    ReadResult Unit :=
  match readColon text with
  | .error fault => .error fault
  | .ok ((), rest) => value rest

/-- The rest of a text behind any value, nested at most `depth` deep. -/
def passValueWithin : (depth : Nat) → List Char → ReadResult Unit
  | 0, _ => .error (.malformed .valueExpected)
  | depth + 1, text =>
    match skipSpace text with
    | '[' :: rest => (readList true (passValueWithin depth) rest).map fun (_, rest) => ((), rest)
    | '\x7b' :: rest => readMembers true passString (passMember (passValueWithin depth)) () rest
    | text => passScalar text

/-- The rest of a text behind any value; its length bounds how deep it can nest. -/
def passValue (text : List Char) : ReadResult Unit := passValueWithin (text.length + 1) text

/-- A whole document: one value, and nothing but space behind it. -/
def readDocument {α : Type} (reader : JsonReader α) (text : String) : Except ReadFault α :=
  match reader maxDepth text.toList with
  | .error fault => .error fault
  | .ok (value, rest) =>
    if (skipSpace rest).isEmpty then .ok value else .error (.malformed .trailingCharacters)

/-- The value that a text is. -/
def parse (text : String) : Except ReadFault Json := readDocument readValue text

end Json

end NovelScript
