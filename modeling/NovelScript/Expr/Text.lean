import NovelScript.Expr.Node

/-!
# The text of a node — source form

A binary node is written between its operands, and a binary operand stands in round brackets, so
the text shows the tree without any precedence. A unary operator is written before its operand. A
negated arithmetic node is written in brackets of its own behind a minus sign; a negated access has
just the sign.

A token has a text too, since reports list tokens: an operator without operands is its symbol, the
array token is a closing bracket, a `nop` is nothing. Where a binary node has one operand and lacks
the other, a question mark stands for the missing one.
-/

set_option autoImplicit false

namespace NovelScript

/-- The mark of the access mode and the variable's name. -/
def Place.text (p : Place) : String := String.singleton p.mark ++ p.var.displayName

/-- A minus sign, if asked for. -/
def minusIf (negated : Bool) : String := if negated then "-" else ""

/-- A text in round brackets, if asked for. -/
def bracketsIf (wanted : Bool) (text : String) : String :=
  if wanted then "(" ++ text ++ ")" else text

/-- The operator between the texts of its operands; alone if it has none. -/
def BinaryOp.between (op : BinaryOp) : Option String → Option String → String
  | none, none => op.symbol
  | left, right => left.getD "?" ++ op.symbol ++ right.getD "?"

mutual
/-- The source text of a node. -/
def Node.source : Node → String
  | .binary op negated left right =>
    let text := op.between (operandText? left) (operandText? right)
    if op.isArithmetic && negated then "-(" ++ text ++ ")" else text
  | .unary op operand => op.symbol ++ (operandText? operand).getD ""
  | .byte v => Json.wholeText v.toInt
  | .short v => Json.wholeText v.toInt
  | .int v => Json.wholeText v.toInt
  | .long v => Json.wholeText v.toInt
  | .decimal x => DecimalStyle.plain.write x
  | .text s => "\"" ++ s ++ "\""
  | .raw s => s
  | .reference place => place.text
  | .access negated place => minusIf negated ++ place.text
  | .element _ none _ => ")"
  | .element negated (some base) indices =>
    minusIf negated ++ base.text ++ "(" ++ String.intercalate "," (indexTexts indices) ++ ")"
  | .keyword name => name
  | .nop => ""
/-- The text of an operand, in brackets if it is binary. -/
def operandText? : Option Node → Option String
  | none => none
  | some operand => some (bracketsIf operand.isBinary operand.source)
/-- The texts of indices. -/
def indexTexts : List Node → List String
  | [] => []
  | index :: rest => index.source :: indexTexts rest
end

end NovelScript
