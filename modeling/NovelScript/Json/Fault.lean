import NovelScript.Json.Printer
import NovelScript.Text.Quoted

/-!
# Faults — why a text is not the JSON that was asked for

Reading fails in three ways. The text is no JSON (`Malformation`); it is the beginning of one and
ends too early (`Container`, by what was open); or it is JSON of the wrong shape (`Mismatch`). The
first fault in the order of the text is the one that is reported.
-/

set_option autoImplicit false

namespace NovelScript

/-- How a text breaks the rules of JSON. -/
inductive Malformation where
  | colonExpected
  | listEndExpected
  | objectEndExpected
  | wordExpected
  | valueExpected
  | badEscape
  | badNumber
  | numberOutOfRange
  | controlCharacter
  | keyExpected
  | loneSurrogate
  | trailingComma
  | trailingCharacters
  | unpairedSurrogate
  | tooDeep
  deriving DecidableEq, Repr

/-- The text of a malformation. -/
def Malformation.message : Malformation → String
  | .colonExpected => "expected `:`"
  | .listEndExpected => "expected `,` or `]`"
  | .objectEndExpected => "expected `,` or `\x7d`"
  | .wordExpected => "expected ident"
  | .valueExpected => "expected value"
  | .badEscape => "invalid escape"
  | .badNumber => "invalid number"
  | .numberOutOfRange => "number out of range"
  | .controlCharacter =>
    "control character (\\u0000-\\u001F) found while parsing a string"
  | .keyExpected => "key must be a string"
  | .loneSurrogate => "lone leading surrogate in hex escape"
  | .trailingComma => "trailing comma"
  | .trailingCharacters => "trailing characters"
  | .unpairedSurrogate => "unexpected end of hex escape"
  | .tooDeep => "recursion limit exceeded"

/-- What was open when the text ended. -/
inductive Container where
  | value
  | string
  | list
  | object
  deriving DecidableEq, Repr

/-- The text of an early end. -/
def Container.message : Container → String
  | .value => "EOF while parsing a value"
  | .string => "EOF while parsing a string"
  | .list => "EOF while parsing a list"
  | .object => "EOF while parsing an object"

/-- What stands in the text where something else was asked for. -/
inductive Found where
  | null
  | bool (value : Bool)
  | int (value : Int)
  | decimal (value : Binary64)
  | string (value : String)
  | list
  | object
  deriving DecidableEq, Repr

/-- The words for what was found. -/
def Found.text : Found → String
  | .null => "null"
  | .bool b => "boolean `" ++ Json.boolWord b ++ "`"
  | .int n => "integer `" ++ Json.wholeText n ++ "`"
  | .decimal x => "floating point `" ++ DecimalStyle.json.write x ++ "`"
  | .string s => "string " ++ QuoteStyle.text.quote s
  | .list => "sequence"
  | .object => "map"

/-- How JSON has the wrong shape. -/
inductive Mismatch where
  | missingField (name : String)
  | duplicateField (name : String)
  | unknownVariant (given : String) (known : List String)
  | wrongType (found : Found) (expected : String)
  | outOfRange (value : Int) (expected : String)
  | wrongLength (length : Nat) (expected : String)
  deriving DecidableEq, Repr

/-- Names in a sentence: two with an "or", more than two as a list. -/
def expectedOneOf (names : List String) : String :=
  let quoted := names.map fun n => "`" ++ n ++ "`"
  match quoted with
  | [] => "there are no variants"
  | [a] => "expected " ++ a
  | [a, b] => "expected " ++ a ++ " or " ++ b
  | _ => "expected one of " ++ String.intercalate ", " quoted

/-- The text of a mismatch. -/
def Mismatch.message : Mismatch → String
  | .missingField name => "missing field `" ++ name ++ "`"
  | .duplicateField name => "duplicate field `" ++ name ++ "`"
  | .unknownVariant given known =>
    "unknown variant `" ++ given ++ "`, " ++ expectedOneOf known
  | .wrongType found expected => "invalid type: " ++ found.text ++ ", expected " ++ expected
  | .outOfRange value expected =>
    "invalid value: integer `" ++ Json.wholeText value ++ "`, expected " ++ expected
  | .wrongLength length expected =>
    "invalid length " ++ Nat.repr length ++ ", expected " ++ expected

/-- Why a text could not be read. -/
inductive ReadFault where
  | malformed (how : Malformation)
  | ended (inside : Container)
  | mismatch (how : Mismatch)
  deriving DecidableEq, Repr

/-- The text of a fault. -/
def ReadFault.message : ReadFault → String
  | .malformed how => how.message
  | .ended inside => inside.message
  | .mismatch how => how.message

end NovelScript
