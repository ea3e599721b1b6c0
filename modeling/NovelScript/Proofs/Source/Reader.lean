import NovelScript.Proofs.Source.Word

/-!
# A reader of source text — from text back to structure

The text of an expression is read from left to right, and one or two characters always tell what
comes: an opening bracket begins a binary operand, a quote a string, `!` and `~` a unary node, `@`
and `$` a variable; a minus sign is the sign of the number or access behind it, or, before a
bracket where no operand is due, a negated arithmetic node. An operator is as long as it can be,
since no operand begins with a character that goes on with one.

What a text does not show cannot be read from it: the width of a number, and whether a variable
without indices was a reference or an access. The reader gives numbers as their digits and variables
as accesses, which is the `outline` of a node. Names are looked up in a table.

## What is proved

`Node.source_outline`: an outline has the text of its node, so it leaves out nothing that text
shows.
-/

set_option autoImplicit false

namespace NovelScript

mutual

/-- What the text of a node shows of it: a number by its printed digits, a reference as the access
to its variable, and everything else as it is. -/
def Node.outline : Node → Node
  | .binary op negated left right =>
    .binary op negated (operandOutline left) (operandOutline right)
  | .unary op operand => .unary op (operandOutline operand)
  | .byte v => .raw (Node.byte v).source
  | .short v => .raw (Node.short v).source
  | .int v => .raw (Node.int v).source
  | .long v => .raw (Node.long v).source
  | .decimal x => .raw (Node.decimal x).source
  | .reference place => .access false place
  | .element negated base indices => .element negated base (indexOutlines indices)
  | node => node

/-- The outline of an operand. -/
def operandOutline : Option Node → Option Node
  | none => none
  | some operand => some operand.outline

/-- The outlines of indices. -/
def indexOutlines : List Node → List Node
  | [] => []
  | index :: rest => index.outline :: indexOutlines rest

end

/-- An outline is binary where its node is. -/
theorem Node.isBinary_outline (node : Node) : node.outline.isBinary = node.isBinary := by
  cases node <;> rfl

mutual

/-- An outline has the text of its node. -/
theorem Node.source_outline : ∀ node : Node, node.outline.source = node.source
  | .binary op negated left right => by
    simp only [Node.outline, Node.source, operandText?_outline left, operandText?_outline right]
  | .unary op operand => by
    simp only [Node.outline, Node.source, operandText?_outline operand]
  | .reference place => String.empty_append
  | .element _ none _ => by
    simp only [Node.outline, Node.source]
  | .element negated (some base) indices => by
    simp only [Node.outline, Node.source, indexTexts_outlines indices]
  | .byte _ | .short _ | .int _ | .long _ | .decimal _ => by
    simp only [Node.outline, Node.source]
  | .text _ | .raw _ | .access _ _ | .keyword _ | .nop => by
    simp only [Node.outline]

/-- The same for an operand. -/
theorem operandText?_outline : ∀ operand : Option Node,
    operandText? (operandOutline operand) = operandText? operand
  | none => by simp only [operandOutline]
  | some operand => by
    simp only [operandOutline, operandText?, operand.isBinary_outline, operand.source_outline]

/-- The same for indices. -/
theorem indexTexts_outlines : ∀ indices : List Node,
    indexTexts (indexOutlines indices) = indexTexts indices
  | [] => by simp only [indexOutlines]
  | index :: rest => by
    simp only [indexOutlines, indexTexts, index.source_outline, indexTexts_outlines rest]

end

namespace Source

/-- The rest of a text behind what was read from its front. -/
abbrev Reader (α : Type) := List Char → Option (α × List Char)

/-- The operator at the front, as long as it can be. -/
def readOperator : Reader BinaryOp
  | '=' :: '=' :: rest => some (.relational .equal, rest)
  | '!' :: '=' :: rest => some (.relational .notEqual, rest)
  | '<' :: '=' :: rest => some (.relational .lessEqual, rest)
  | '>' :: '=' :: rest => some (.relational .greaterEqual, rest)
  | '&' :: '&' :: rest => some (.logical .andAlso, rest)
  | '|' :: '|' :: rest => some (.logical .orElse, rest)
  | '<' :: rest => some (.relational .less, rest)
  | '>' :: rest => some (.relational .greater, rest)
  | '&' :: rest => some (.logical .bitAnd, rest)
  | '|' :: rest => some (.logical .bitOr, rest)
  | '^' :: rest => some (.logical .bitXor, rest)
  | '+' :: rest => some (.arithmetic .add, rest)
  | '-' :: rest => some (.arithmetic .sub, rest)
  | '*' :: rest => some (.arithmetic .mul, rest)
  | '/' :: rest => some (.arithmetic .div, rest)
  | '%' :: rest => some (.arithmetic .mod, rest)
  | _ => none

/-- The access mode that a mark stands for. -/
def modeOf? : Char → Option UInt8
  | '@' => some 0x40
  | '$' => some 0x24
  | _ => none

/-- The place at the front: a mark and the name of a variable of the table. -/
def readPlace (table : VariableTable) : Reader Place
  | [] => none
  | mark :: rest =>
    let name := rest.takeWhile isWordChar
    match modeOf? mark, table.toList.find? fun v => v.displayName.toList == name with
    | some mode, some var => some (⟨mode, var⟩, rest.dropWhile isWordChar)
    | _, _ => none

/-- The string behind an opening quote. -/
def readText (cs : List Char) : Option (Node × List Char) :=
  match cs.dropWhile (· != '"') with
  | [] => none
  | _ :: rest => some (.text (String.ofList (cs.takeWhile (· != '"'))), rest)

section Nested

variable (operand : Reader Node)

/-- A left operand, and an operator with a right operand if there is one. -/
def readPlain (cs : List Char) : Option (Node × List Char) :=
  match operand cs with
  | none => none
  | some (left, rest) =>
    match readOperator rest with
    | none => some (left, rest)
    | some (op, rest) =>
      (operand rest).map fun (right, rest) => (.binary op false (some left) (some right), rest)

/-- A whole expression: the text of a node as a root, as an index or between brackets. A minus sign
before a bracket negates what the brackets hold. -/
def readWhole : Reader Node
  | '-' :: '(' :: rest =>
    match readPlain operand rest with
    | some (.binary op _ left right, ')' :: rest) => some (.binary op true left right, rest)
    | _ => none
  | cs => readPlain operand cs

/-- The indices behind an opening bracket, at most `count`. -/
def readIndices : (count : Nat) → Reader (List Node)
  | 0, _ => none
  | _ + 1, ')' :: rest => some ([], rest)
  | count + 1, cs =>
    match readWhole operand cs with
    | some (index, ')' :: rest) => some ([index], rest)
    | some (index, ',' :: rest) =>
      (readIndices count rest).map fun (indices, rest) => (index :: indices, rest)
    | _ => none

/-- A number, an access or an array access, behind its sign. -/
def readSigned (table : VariableTable) (count : Nat) (negated : Bool) (cs : List Char) :
    Option (Node × List Char) :=
  match readPlace table cs with
  | some (place, '(' :: rest) =>
    (readIndices operand count rest).map fun (indices, rest) =>
      (.element negated (some place) indices, rest)
  | some (place, rest) => some (.access negated place, rest)
  | none =>
    match cs.takeWhile isWordChar with
    | [] => none
    | word =>
      some (.raw (minusIf negated ++ String.ofList word), cs.dropWhile isWordChar)

end Nested

/-- The operand at the front, within `depth` brackets and unary operators. -/
def readOperand (table : VariableTable) : (depth : Nat) → Reader Node
  | 0, _ => none
  | _ + 1, [] => none
  | depth + 1, c :: rest =>
    let operand := readOperand table depth
    if c = '(' then
      match readWhole operand rest with
      | some (node, ')' :: rest) => some (node, rest)
      | _ => none
    else if c = '"' then readText rest
    else if c = '!' then (operand rest).map fun (node, rest) => (.unary .not (some node), rest)
    else if c = '~' then (operand rest).map fun (node, rest) => (.unary .bitNot (some node), rest)
    else if c = '-' then readSigned operand table depth true rest
    else readSigned operand table depth false (c :: rest)

/-- The outline that a whole text shows. -/
def read (table : VariableTable) (text : String) : Option Node :=
  (readWhole (readOperand table (text.length + 1)) text.toList).map Prod.fst

end Source

end NovelScript
