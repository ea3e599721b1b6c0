import NovelScript.Script.Basic
import NovelScript.Expr.Tree

/-!
# Scripts as JSON — commands with texts and trees
-/

set_option autoImplicit false

namespace NovelScript

/-- An expression as a record, with its text and its tree. -/
def ScriptExpression.toJson (e : ScriptExpression) : Json :=
  .object [
    ("id", .int e.id.toNat),
    ("flag", .int e.flag.toNat),
    ("argLoadFn", .int e.argLoadFn.toNat),
    ("argLoadOp", .int e.argLoadOp.toNat),
    ("loadOp", Json.ofText? (e.expression.assignment.map Assignment.loadOp)),
    ("text", .string e.expression.source),
    ("ast", operandTree e.expression.root)]

/-- A command as a record. -/
def Command.toJson (c : Command) : Json :=
  .object [
    ("index", .int c.index),
    ("id", .string c.name),
    ("idNumeric", .int c.code.toNat),
    ("exprCount", .int c.expressions.length),
    ("labelId", .int c.labelId.toNat),
    ("lineNumber", .int c.lineNumber.toNat),
    ("nest", .int c.nest),
    ("labels", .array (c.labels.map .string)),
    ("expressions", .array (c.expressions.map ScriptExpression.toJson))]

/-- A script as a record. -/
def Script.toJson (s : Script) : Json :=
  .object [
    ("scriptId", .int s.scriptId.toInt),
    ("source", .string s.source),
    ("commands", .array (s.commands.map Command.toJson))]

end NovelScript
