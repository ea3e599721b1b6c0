/-!
# Assignments — what an expression is assigned to

Some expressions of a command give a value to one of its named arguments. The command table
describes the argument by its keyword and its declared type, and the expression itself says with
which operator the value is loaded: plainly or compounded with the old one. An empty keyword counts
as none. A string-typed assignment is not compiled at all; its bytes are the text.
-/

set_option autoImplicit false

namespace NovelScript

/-- The declared type of an assignment's value. -/
inductive ResultType where
  | any
  | int
  | decimal
  | string
  deriving DecidableEq, Repr, Inhabited

namespace ResultType

/-- The types, the default first. -/
def all : List ResultType := [.any, .int, .decimal, .string]

/-- The type's word in dumps and reports. -/
def word : ResultType → String
  | .any => "Any"
  | .int => "Int"
  | .decimal => "Decimal"
  | .string => "String"

end ResultType

/-- What the command table says of an assignment's target. -/
structure Target where
  keyword : Option String
  resultType : ResultType
  deriving DecidableEq, Repr, Inhabited

/-- A target and the operator that loads it, such as `=` or `+=`. -/
structure Assignment where
  target : Target
  loadOp : String
  deriving DecidableEq, Repr, Inhabited

namespace Assignment

/-- The load operator of an assignment that names none. -/
def defaultLoadOp : String := "="

/-- The target's keyword, unless it is missing or empty. -/
def keyword? (a : Assignment) : Option String := a.target.keyword.filter (fun k => !k.isEmpty)

/-- The keyword that stands for the target in a tree; the empty one if it is missing. -/
def standIn (a : Assignment) : String := a.target.keyword.getD ""

/-- Whether the bytes of the expression are text. -/
def isString (a : Assignment) : Bool := a.target.resultType == .string

end Assignment

end NovelScript
