import NovelScript.Json.Value
import NovelScript.Decimal.Style

/-!
# JSON texts — the compact form and the indented form

Both forms write the same tokens. The compact form puts nothing between them; the indented form
gives every item and member a line of its own, two spaces deeper than its container, and a space
after the colon. An empty container is closed at once in both.

In a string a quote, a backslash and the control characters below U+0020 are escaped, five of them
by a letter and the others by four hexadecimal digits, and nothing else is: a slash, U+007F and
every character past ASCII stand for themselves.
-/

set_option autoImplicit false

namespace NovelScript.Json

/-- The digit of a value below sixteen, in lower case. -/
def hexDigit (n : Nat) : Char :=
  if n < 10 then Char.ofNat (48 + n) else Char.ofNat (87 + n)

/-- A character as it stands inside a quoted string. -/
def escape (c : Char) : List Char :=
  if c = '"' then ['\\', '"']
  else if c = '\\' then ['\\', '\\']
  else if c = '\x08' then ['\\', 'b']
  else if c = '\x0c' then ['\\', 'f']
  else if c = '\n' then ['\\', 'n']
  else if c = '\x0d' then ['\\', 'r']
  else if c = '\t' then ['\\', 't']
  else if c.toNat < 32 then ['\\', 'u', '0', '0', hexDigit (c.toNat / 16), hexDigit (c.toNat % 16)]
  else [c]

/-- A string in quotes. -/
def quote (text : String) : String :=
  "\"" ++ String.ofList (text.toList.flatMap escape) ++ "\""

/-- The word of a truth value. -/
def boolWord (b : Bool) : String := if b then "true" else "false"

/-- A whole number in decimal digits, behind its sign if it is negative. -/
def wholeText : Int → String
  | .ofNat n => Nat.repr n
  | .negSucc n => "-" ++ Nat.repr (n + 1)

mutual
/-- The compact text of a value. -/
def compact : Json → String
  | .null => "null"
  | .bool b => boolWord b
  | .int n => wholeText n
  | .decimal x => DecimalStyle.json.write x
  | .string s => quote s
  | .array items => "[" ++ String.intercalate "," (compactItems items) ++ "]"
  | .object members => "\x7b" ++ String.intercalate "," (compactMembers members) ++ "\x7d"
/-- The compact texts of items. -/
def compactItems : List Json → List String
  | [] => []
  | item :: rest => item.compact :: compactItems rest
/-- The compact texts of members. -/
def compactMembers : List (String × Json) → List String
  | [] => []
  | (key, value) :: rest => (quote key ++ ":" ++ value.compact) :: compactMembers rest
end

/-- The start of a line at a depth. -/
def lineStart (depth : Nat) : String := "\n" ++ String.ofList (List.replicate (2 * depth) ' ')

/-- Parts on lines of their own between an opening and a closing mark; nothing between the marks
of an empty container. -/
def block (opening closing : String) (depth : Nat) : List String → String
  | [] => opening ++ closing
  | parts =>
    opening ++ String.intercalate "," (parts.map (lineStart (depth + 1) ++ ·)) ++
      lineStart depth ++ closing

mutual
/-- The indented text of a value inside `depth` containers. -/
def indented (depth : Nat) : Json → String
  | .null => "null"
  | .bool b => boolWord b
  | .int n => wholeText n
  | .decimal x => DecimalStyle.json.write x
  | .string s => quote s
  | .array items => block "[" "]" depth (indentedItems (depth + 1) items)
  | .object members => block "\x7b" "\x7d" depth (indentedMembers (depth + 1) members)
/-- The indented texts of items. -/
def indentedItems (depth : Nat) : List Json → List String
  | [] => []
  | item :: rest => item.indented depth :: indentedItems depth rest
/-- The indented texts of members. -/
def indentedMembers (depth : Nat) : List (String × Json) → List String
  | [] => []
  | (key, value) :: rest =>
    (quote key ++ ": " ++ value.indented depth) :: indentedMembers depth rest
end

/-- The indented text of a whole document. -/
def pretty (value : Json) : String := value.indented 0

end NovelScript.Json
