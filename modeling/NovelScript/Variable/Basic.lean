import NovelScript.Json.Printer

/-!
# Variables — what a project declares

Compiled scripts address a variable by its id alone; all else that is known of it comes from the
project's declarations. Names are not compiled, so most variables have none, and one is made up
from the scope and the id (`Variable.displayName`): a letter for the scope, then the id. A name that
is present but empty counts as absent.

A declaration is written only for the three types that source text can declare.
-/

set_option autoImplicit false

namespace NovelScript

/-- How far a variable is visible. -/
inductive Scope where
  | global
  | static
  | folder
  /-- One script's own. -/
  | script
  deriving DecidableEq, Repr, Inhabited

namespace Scope

/-- The scopes, widest first. -/
def all : List Scope := [.global, .static, .folder, .script]

/-- The scope's word in dumps and trees. -/
def word : Scope → String
  | .global => "Global"
  | .static => "Static"
  | .folder => "Folder"
  | .script => "Local"

/-- The letter that opens a made-up name. -/
def letter : Scope → Char
  | .global => 'g'
  | .static => 's'
  | .folder => 'f'
  | .script => 'l'

/-- What a declaration writes before the type. -/
def qualifier : Scope → String
  | .global => "G_"
  | .static => "S_"
  | .folder => "F_"
  | .script => ""

end Scope

/-- A declared variable. -/
structure Variable where
  scope : Scope
  /-- The script that declares it. -/
  scriptIndex : Int32
  id : UInt16
  /-- The declared type, as a code. -/
  typeCode : UInt8
  /-- The extent of each dimension; none for a variable that is no array. -/
  dimensions : List UInt32
  /-- The declared name, if the dump has one. -/
  name : Option String
  /-- The initial value, if the dump has one. -/
  value : Option Json
  deriving Inhabited

namespace Variable

/-- The declared name, or one made up from scope and id where that is missing or empty. -/
def displayName (v : Variable) : String :=
  match v.name with
  | some name => if name.isEmpty then madeUp else name
  | none => madeUp
where
  madeUp := String.singleton v.scope.letter ++ Nat.repr v.id.toNat

/-- Whether the variable has dimensions. -/
def isArray (v : Variable) : Bool := !v.dimensions.isEmpty

/-- The keyword and the access mark of a type that can be declared. -/
def typeWord? : UInt8 → Option (String × Char)
  | 1 => some ("INT", '@')
  | 2 => some ("FLT", '@')
  | 3 => some ("STR", '$')
  | _ => none

/-- The dimensions in round brackets; nothing for none. -/
def dimensionsText (v : Variable) : String :=
  if v.isArray then
    "(" ++ String.intercalate "," (v.dimensions.map fun d => Nat.repr d.toNat) ++ ")"
  else ""

/-- The initial value behind an equals sign. A string stands between quotes as it is, without any
escapes; every other value is written as JSON. -/
def valueText (v : Variable) : String :=
  match v.value with
  | none | some .null => ""
  | some (.string s) => "=\"" ++ s ++ "\""
  | some value => "=" ++ value.compact

/-- The declaration, such as `G_INT[@score=5]`; none for a type that cannot be declared. -/
def declaration? (v : Variable) : Option String :=
  (typeWord? v.typeCode).map fun (word, mark) =>
    v.scope.qualifier ++ word ++ "[" ++ String.singleton mark ++ v.displayName ++
      v.dimensionsText ++ v.valueText ++ "]"

end Variable

end NovelScript
