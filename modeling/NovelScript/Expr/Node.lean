import NovelScript.Expr.Operator
import NovelScript.Variable.Basic

/-!
# Nodes — one type for the flat list and for the tree

An expression is first a flat list in postfix order and then one tree. Both are made of nodes, and
reduction turns a node of the list into a node of the tree by giving it its operands; so an operand
is optional, and a node that still lacks its operands is called a token. A token of the array form
has neither base nor indices.

Negation is not a node of the tree. It is folded into what it applies to (`Node.negate`): a literal
changes its sign, an access, an array access and an arithmetic node flip a flag, and nothing else
can be negated. The two narrow integer literals have a least value whose negative does not fit, and
refuse it; the two wide ones wrap.
-/

set_option autoImplicit false

namespace NovelScript

/-- A variable under an access mode. The mode is the character that source text writes before the
name, kept as the byte it is compiled to. -/
structure Place where
  mode : UInt8
  var : Variable
  deriving Inhabited

/-- The character of the access mode. -/
def Place.mark (p : Place) : Char := Char.ofNat p.mode.toNat

/-- A node of an expression, with or without its operands. -/
inductive Node where
  | binary (op : BinaryOp) (negated : Bool) (left right : Option Node)
  | unary (op : UnaryOp) (operand : Option Node)
  | byte (value : Int8)
  | short (value : Int16)
  | int (value : Int32)
  | long (value : Int64)
  | decimal (value : Binary64)
  /-- A string literal, written in quotes. -/
  | text (value : String)
  /-- A whole expression taken as a string, written as it is. -/
  | raw (value : String)
  /-- A variable as such, the base that an array access looks for. -/
  | reference (place : Place)
  /-- The value of a variable. -/
  | access (negated : Bool) (place : Place)
  /-- An element of an array variable. -/
  | element (negated : Bool) (base : Option Place) (indices : List Node)
  /-- The target of a compound assignment, which bytecode leaves out. -/
  | keyword (name : String)
  | nop
  deriving Inhabited

/-- What kind of node a node is; this is all of it that does not depend on names or encodings. -/
inductive NodeKind where
  | arithmetic
  | relational
  | logical
  | unary
  | byte
  | short
  | int
  | long
  | decimal
  | text
  | raw
  | reference
  | access
  | element
  | keyword
  | nop
  deriving DecidableEq, Repr, Inhabited

/-- The word for a kind in reports. -/
def NodeKind.word : NodeKind → String
  | .arithmetic => "ArithmeticOperator"
  | .relational => "RelationalOperator"
  | .logical => "LogicalOperator"
  | .unary => "UnaryOperator"
  | .byte => "ByteLiteral"
  | .short => "ShortLiteral"
  | .int => "IntLiteral"
  | .long => "LongLiteral"
  | .decimal => "DecimalLiteral"
  | .text => "StringLiteral"
  | .raw => "RawStringLiteral"
  | .reference => "VariableRef"
  | .access => "VariableAccess"
  | .element => "ArrayAccess"
  | .keyword => "KeywordRef"
  | .nop => "Nop"

/-- The kind of a node with this operator. -/
def BinaryOp.kind : BinaryOp → NodeKind
  | .arithmetic _ => .arithmetic
  | .relational _ => .relational
  | .logical _ => .logical

/-- Why a node cannot be negated. -/
inductive NegateError where
  /-- A node of this kind has no negative. -/
  | unsupported (kind : NodeKind)
  /-- The negative does not fit a literal of this kind. -/
  | overflow (kind : NodeKind)
  deriving DecidableEq, Repr

/-- The text of a refusal. -/
def NegateError.message : NegateError → String
  | .unsupported kind => kind.word ++ " does not support negate operator"
  | .overflow kind => "negating " ++ kind.word ++ " overflows"

namespace Node

/-- The token of a binary operator. -/
def binaryToken (op : BinaryOp) : Node := .binary op false none none

/-- The token of a unary operator. -/
def unaryToken (op : UnaryOp) : Node := .unary op none

/-- The token that closes an array access. -/
def elementToken : Node := .element false none []

/-- The kind of a node. -/
def kind : Node → NodeKind
  | .binary op .. => op.kind
  | .unary .. => .unary
  | .byte _ => .byte
  | .short _ => .short
  | .int _ => .int
  | .long _ => .long
  | .decimal _ => .decimal
  | .text _ => .text
  | .raw _ => .raw
  | .reference _ => .reference
  | .access .. => .access
  | .element .. => .element
  | .keyword _ => .keyword
  | .nop => .nop

/-- Whether a node is a binary operator, and so is put in brackets as an operand. -/
def isBinary : Node → Bool
  | .binary .. => true
  | _ => false

/-- The variable that a node stands for as a whole. -/
def var? : Node → Option Variable
  | .access _ place => some place.var
  | .reference place => some place.var
  | _ => none

/-- Negation in place: whether the node allowed it, and the node that is there afterwards. -/
def negateInPlace : Node → Except NegateError Unit × Node
  | .byte v =>
    if v = Int8.minValue then (.error (.overflow .byte), .byte v) else (.ok (), .byte (-v))
  | .short v =>
    if v = Int16.minValue then (.error (.overflow .short), .short v) else (.ok (), .short (-v))
  | .int v => (.ok (), .int (-v))
  | .long v => (.ok (), .long (-v))
  | .decimal x => (.ok (), .decimal x.negate)
  | .element negated base indices => (.ok (), .element (!negated) base indices)
  | .access negated place => (.ok (), .access (!negated) place)
  | .binary (.arithmetic op) negated left right =>
    (.ok (), .binary (.arithmetic op) (!negated) left right)
  | node => (.error (.unsupported node.kind), node)

/-- The negative of a node, if it has one. -/
def negate (node : Node) : Except NegateError Node :=
  node.negateInPlace.1.map fun () => node.negateInPlace.2

/-- What is there afterwards is the negative, or the node as it was. -/
theorem negateInPlace_eq (node : Node) :
    node.negateInPlace =
      match node.negate with
      | .ok negative => (.ok (), negative)
      | .error error => (.error error, node) := by
  cases node with
  | byte v => by_cases least : v = Int8.minValue <;> simp [negate, negateInPlace, least, Except.map]
  | short v =>
    by_cases least : v = Int16.minValue <;> simp [negate, negateInPlace, least, Except.map]
  | binary op => cases op <;> rfl
  | _ => rfl

/-- A byte literal has a negative unless it is the least one. -/
theorem negate_byte {v : Int8} (h : v ≠ Int8.minValue) : (byte v).negate = .ok (byte (-v)) := by
  simp only [negate, negateInPlace, if_neg h, Except.map]

/-- A short literal has a negative unless it is the least one. -/
theorem negate_short {v : Int16} (h : v ≠ Int16.minValue) :
    (short v).negate = .ok (short (-v)) := by
  simp only [negate, negateInPlace, if_neg h, Except.map]

/-- The least byte literal has no negative. -/
theorem negate_leastByte : (byte Int8.minValue).negate = .error (.overflow .byte) := rfl

/-- The least short literal has no negative. -/
theorem negate_leastShort : (short Int16.minValue).negate = .error (.overflow .short) := rfl

/-- The negative of a negative is the node itself. -/
theorem negate_negate {a b : Node} (h : a.negate = .ok b) : b.negate = .ok a := by
  cases a with
  | byte v =>
    by_cases least : v = Int8.minValue
    · rw [least, negate_leastByte] at h
      cases h
    · rw [negate_byte least] at h
      cases h
      have : -v ≠ Int8.minValue := fun e => least (by rw [← @Int8.neg_neg v, e]; decide)
      rw [negate_byte this, Int8.neg_neg]
  | short v =>
    by_cases least : v = Int16.minValue
    · rw [least, negate_leastShort] at h
      cases h
    · rw [negate_short least] at h
      cases h
      have : -v ≠ Int16.minValue := fun e => least (by rw [← @Int16.neg_neg v, e]; decide)
      rw [negate_short this, Int16.neg_neg]
  | int v => cases h; simp [negate, negateInPlace, Except.map]
  | long v => cases h; simp [negate, negateInPlace, Except.map]
  | decimal x => cases h; simp [negate, negateInPlace, Except.map, Binary64.negate_negate]
  | element negated base indices => cases h; simp [negate, negateInPlace, Except.map]
  | access negated place => cases h; simp [negate, negateInPlace, Except.map]
  | binary op negated left right =>
    cases op with
    | arithmetic op => cases h; simp [negate, negateInPlace, Except.map]
    | _ => cases h
  | _ => cases h

end Node

end NovelScript
