import NovelScript.Variable.Table
import NovelScript.Json.Record

/-!
# Variables as JSON — the records of dumps and variable tables

A variable is a record with two required fields, its scope and its id. A missing number is zero, a
missing list of dimensions is empty, and a name or a value that is missing or `null` is none. What
is none is left out when a variable is written.
-/

set_option autoImplicit false

namespace NovelScript

/-- One of the scopes. -/
def Scope.read : JsonReader Scope := Json.readWordOf (Scope.all.map fun s => (s.word, s))

namespace Variable

/-- The variable that has only what a record has to have. -/
def blank : Variable where
  scope := .global
  scriptIndex := 0
  id := 0
  typeCode := 0
  dimensions := []
  name := none
  value := none

/-- The record of a variable. -/
def record : RecordType Variable where
  name := "VarInfo"
  start := blank
  fields := [
    .required "scope" Scope.read fun x v => { v with scope := x },
    .withDefault "scriptIndex" Json.readInt32 fun x v => { v with scriptIndex := x },
    .required "variableId" Json.readUInt16 fun x v => { v with id := x },
    .withDefault "type" Json.readUInt8 fun x v => { v with typeCode := x },
    .withDefault "dimensions" (Json.readListOf Json.readUInt32) fun x v =>
      { v with dimensions := x },
    .withDefault "name" (Json.readOptional Json.readText) fun x v => { v with name := x },
    .withDefault "value" (Json.readOptional Json.readValue) fun x v => { v with value := x }]

/-- The variable that a text is. -/
def parse (text : String) : Except ReadFault Variable := Json.readDocument record.read text

/-- The dimensions as a value. -/
def dimensionsJson (v : Variable) : Json := .array (v.dimensions.map fun d => .int d.toNat)

/-- The members of the fields that a record always has. -/
def leadingMembers (v : Variable) : List (String × Json) := [
  ("scope", .string v.scope.word),
  ("scriptIndex", .int v.scriptIndex.toInt),
  ("variableId", .int v.id.toNat),
  ("type", .int v.typeCode.toNat),
  ("dimensions", v.dimensionsJson)]

/-- A member for something, no member for nothing. -/
def memberIf (key : String) : Option Json → List (String × Json)
  | some value => [(key, value)]
  | none => []

/-- The variable as a record. -/
def toJson (v : Variable) : Json :=
  .object (v.leadingMembers ++ memberIf "name" (v.name.map .string) ++ memberIf "value" v.value)

end Variable

/-- The table of the variables that a text lists. -/
def VariableTable.parse (text : String) : Except ReadFault VariableTable :=
  (Json.readDocument (Json.readListOf Variable.record.read) text).map VariableTable.ofList

end NovelScript
