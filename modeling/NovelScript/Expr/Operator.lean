/-!
# Operators — the symbols an expression is built with

There are three families of binary operators and one of unary ones. Each operator has a mnemonic,
by which the opcode table names it, a symbol, by which source text writes it, and an English name.
The mnemonics of one family are not known in another.

Every family lists its operators in `all`, in the order in which the tables and reports use them;
finding an operator by its mnemonic is a search of that list.
-/

set_option autoImplicit false

namespace NovelScript

/-- Operators on numbers, whose result can be negated in place. -/
inductive ArithmeticOp where
  | add
  | sub
  | mul
  | div
  | mod
  deriving DecidableEq, Repr, Inhabited

/-- Comparisons. -/
inductive RelationalOp where
  | equal
  | notEqual
  | less
  | lessEqual
  | greater
  | greaterEqual
  deriving DecidableEq, Repr, Inhabited

/-- Connectives of truth values and of bits. -/
inductive LogicalOp where
  | andAlso
  | orElse
  | bitAnd
  | bitOr
  | bitXor
  deriving DecidableEq, Repr, Inhabited

/-- Operators with one operand. -/
inductive UnaryOp where
  | negate
  | not
  | bitNot
  deriving DecidableEq, Repr, Inhabited

/-- An operator with two operands, of any of the three families. -/
inductive BinaryOp where
  | arithmetic (op : ArithmeticOp)
  | relational (op : RelationalOp)
  | logical (op : LogicalOp)
  deriving DecidableEq, Repr, Inhabited

namespace ArithmeticOp

/-- Every operator of the family. -/
def all : List ArithmeticOp := [.add, .sub, .mul, .div, .mod]

/-- The name in the opcode table. -/
def mnemonic : ArithmeticOp → String
  | .add => "add"
  | .sub => "sub"
  | .mul => "mul"
  | .div => "div"
  | .mod => "mod"

/-- The sign in source text. -/
def symbol : ArithmeticOp → String
  | .add => "+"
  | .sub => "-"
  | .mul => "*"
  | .div => "/"
  | .mod => "%"

/-- The English name. -/
def name : ArithmeticOp → String
  | .add => "Add"
  | .sub => "Sub"
  | .mul => "Mul"
  | .div => "Div"
  | .mod => "Mod"

/-- The operator with a mnemonic. -/
def ofMnemonic? (m : String) : Option ArithmeticOp := all.find? (fun op => op.mnemonic == m)

end ArithmeticOp

namespace RelationalOp

/-- Every operator of the family. -/
def all : List RelationalOp := [.equal, .notEqual, .less, .lessEqual, .greater, .greaterEqual]

/-- The name in the opcode table. -/
def mnemonic : RelationalOp → String
  | .equal => "eq"
  | .notEqual => "neq"
  | .less => "lt"
  | .lessEqual => "lte"
  | .greater => "gt"
  | .greaterEqual => "gte"

/-- The sign in source text. -/
def symbol : RelationalOp → String
  | .equal => "=="
  | .notEqual => "!="
  | .less => "<"
  | .lessEqual => "<="
  | .greater => ">"
  | .greaterEqual => ">="

/-- The English name. -/
def name : RelationalOp → String
  | .equal => "Equal"
  | .notEqual => "NotEqual"
  | .less => "Less"
  | .lessEqual => "LessEqual"
  | .greater => "Greater"
  | .greaterEqual => "GreaterEqual"

/-- The operator with a mnemonic. -/
def ofMnemonic? (m : String) : Option RelationalOp := all.find? (fun op => op.mnemonic == m)

end RelationalOp

namespace LogicalOp

/-- Every operator of the family. -/
def all : List LogicalOp := [.andAlso, .orElse, .bitAnd, .bitOr, .bitXor]

/-- The name in the opcode table. -/
def mnemonic : LogicalOp → String
  | .andAlso => "and_also"
  | .orElse => "or_else"
  | .bitAnd => "bit_and"
  | .bitOr => "bit_or"
  | .bitXor => "bit_xor"

/-- The sign in source text. -/
def symbol : LogicalOp → String
  | .andAlso => "&&"
  | .orElse => "||"
  | .bitAnd => "&"
  | .bitOr => "|"
  | .bitXor => "^"

/-- The English name. -/
def name : LogicalOp → String
  | .andAlso => "AndAlso"
  | .orElse => "OrElse"
  | .bitAnd => "BitAnd"
  | .bitOr => "BitOr"
  | .bitXor => "BitXor"

/-- The operator with a mnemonic. -/
def ofMnemonic? (m : String) : Option LogicalOp := all.find? (fun op => op.mnemonic == m)

end LogicalOp

namespace UnaryOp

/-- Every operator of the family. -/
def all : List UnaryOp := [.negate, .not, .bitNot]

/-- The name in the opcode table. -/
def mnemonic : UnaryOp → String
  | .negate => "negate"
  | .not => "not"
  | .bitNot => "bit_not"

/-- The sign in source text. -/
def symbol : UnaryOp → String
  | .negate => "-"
  | .not => "!"
  | .bitNot => "~"

/-- The English name. -/
def name : UnaryOp → String
  | .negate => "Negate"
  | .not => "Not"
  | .bitNot => "BitNot"

/-- The operator with a mnemonic. -/
def ofMnemonic? (m : String) : Option UnaryOp := all.find? (fun op => op.mnemonic == m)

end UnaryOp

namespace BinaryOp

/-- The sign in source text. -/
def symbol : BinaryOp → String
  | .arithmetic op => op.symbol
  | .relational op => op.symbol
  | .logical op => op.symbol

/-- Whether the result can be negated in place. -/
def isArithmetic : BinaryOp → Bool
  | .arithmetic _ => true
  | _ => false

end BinaryOp

end NovelScript
