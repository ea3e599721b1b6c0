import NovelScript.Expr.Node

/-!
# The tree of a node — JSON form

A node becomes an object that names its kind and holds its parts; operands and indices are objects
again, and an operand that a token lacks is `null`. A variable is written with all that is declared
of it but its initial value, under the name it is shown by. Members stand in the order of their
keys.
-/

set_option autoImplicit false

namespace NovelScript

/-- The tree of a whole-number literal, or of any literal that has a JSON value. -/
def literalTree (width : String) (value : Json) : Json :=
  .object [("kind", .string "Literal"), ("literalType", .string width), ("value", value)]

/-- The tree of a variable as such. -/
def Place.tree (p : Place) : Json :=
  .object [
    ("dimensions", .array (p.var.dimensions.map fun d => .int d.toNat)),
    ("kind", .string "VariableRef"),
    ("mode", .string (String.singleton p.mark)),
    ("name", .string p.var.displayName),
    ("scope", .string p.var.scope.word),
    ("scriptIndex", .int p.var.scriptIndex.toInt),
    ("type", .int p.var.typeCode.toNat),
    ("variableId", .int p.var.id.toNat)]

/-- The tree of an access to a variable. -/
def Place.accessTree (p : Place) (negated : Bool) : Json :=
  .object [
    ("dimensions", .array (p.var.dimensions.map fun d => .int d.toNat)),
    ("kind", .string "VariableAccess"),
    ("mode", .string (String.singleton p.mark)),
    ("name", .string p.var.displayName),
    ("negate", .bool negated),
    ("scope", .string p.var.scope.word),
    ("scriptIndex", .int p.var.scriptIndex.toInt),
    ("type", .int p.var.typeCode.toNat),
    ("variableId", .int p.var.id.toNat)]

/-- The tree of a binary node, given the trees of its operands. -/
def BinaryOp.tree (op : BinaryOp) (negated : Bool) (left right : Json) : Json :=
  match op with
  | .arithmetic op =>
    .object [("kind", .string "Arithmetic"), ("left", left), ("negate", .bool negated),
      ("op", .string op.symbol), ("right", right)]
  | .relational op =>
    .object [("kind", .string "Relational"), ("left", left), ("op", .string op.symbol),
      ("right", right)]
  | .logical op =>
    .object [("kind", .string "Logical"), ("left", left), ("op", .string op.symbol),
      ("right", right)]

mutual
/-- The tree of a node. -/
def Node.tree : Node → Json
  | .binary op negated left right => op.tree negated (operandTree left) (operandTree right)
  | .unary op operand =>
    .object [("kind", .string "Unary"), ("op", .string op.name), ("operand", operandTree operand)]
  | .byte v => literalTree "byte" (.int v.toInt)
  | .short v => literalTree "short" (.int v.toInt)
  | .int v => literalTree "int" (.int v.toInt)
  | .long v => literalTree "long" (.int v.toInt)
  | .decimal x => literalTree "double" (Json.ofDecimal x)
  | .text s => literalTree "string" (.string s)
  | .raw s => .object [("kind", .string "RawString"), ("value", .string s)]
  | .reference place => place.tree
  | .access negated place => place.accessTree negated
  | .element negated base indices =>
    .object [("indices", .array (indexTrees indices)), ("kind", .string "ArrayAccess"),
      ("negate", .bool negated),
      ("variable", match base with | some place => place.tree | none => .null)]
  | .keyword name => .object [("kind", .string "KeywordRef"), ("name", .string name)]
  | .nop => .object [("kind", .string "Nop")]
/-- The tree of an operand; `null` for a missing one. -/
def operandTree : Option Node → Json
  | none => .null
  | some operand => operand.tree
/-- The trees of indices. -/
def indexTrees : List Node → List Json
  | [] => []
  | index :: rest => index.tree :: indexTrees rest
end

end NovelScript
