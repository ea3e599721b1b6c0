import NovelScript.Options
import NovelScript.Variable.Json

/-!
# The globals file — the declared variables of a project

In text form the file declares the global variables, one to a line and in order of their ids; those
of a type that cannot be declared are left out. In JSON form it lists every variable of the project
under the name it is shown by, and has every field of every variable.
-/

set_option autoImplicit false

namespace NovelScript

/-- A variable as the globals file lists it. -/
def Variable.globalJson (v : Variable) : Json :=
  .object [
    ("scope", .string v.scope.word),
    ("scriptIndex", .int v.scriptIndex.toInt),
    ("variableId", .int v.id.toNat),
    ("type", .int v.typeCode.toNat),
    ("name", .string v.displayName),
    ("dimensions", v.dimensionsJson),
    ("value", v.value.getD .null)]

namespace VariableTable

/-- The declarations of the global variables. -/
def declarations (table : VariableTable) : List String :=
  (table.toList.filter fun v => v.scope == .global).filterMap Variable.declaration?

/-- The declarations as lines. -/
def declarationText (table : VariableTable) : String :=
  String.join (table.declarations.map (· ++ "\n"))

/-- All variables as the globals file lists them. -/
def globalJson (table : VariableTable) : Json := .array (table.toList.map Variable.globalJson)

/-- The name of the globals file. -/
def globalsName : OutputFormat → String
  | .text => "global.txt"
  | .json => "global.json"

/-- The contents of the globals file. -/
def globalsText (table : VariableTable) : OutputFormat → String
  | .text => table.declarationText
  | .json => table.globalJson.pretty

end VariableTable

end NovelScript
