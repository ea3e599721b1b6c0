import NovelScript.Reduction.Run
import NovelScript.Options

/-!
# Expressions — from bytes to a root

An expression belongs to a script, perhaps to a place in it, and perhaps to an assignment. It holds
the nodes that wait to be reduced and the root of the last successful reduction.

Evaluating consumes the waiting nodes if it succeeds and leaves everything as it was if it fails, so
that a failure can be looked into. Loading bytes replaces the waiting nodes before it evaluates: by
the decoded ones, or, for a string-typed assignment, by the text of all the bytes.
-/

set_option autoImplicit false

namespace NovelScript

/-- The place of an expression in its script. -/
structure Owner where
  command : Nat
  expression : Nat
  deriving DecidableEq, Repr, Inhabited

/-- An expression on its way from bytes to a tree. -/
structure Expression where
  scriptId : Int32
  owner : Option Owner
  assignment : Option Assignment
  /-- The nodes that wait to be reduced. -/
  pending : List Node
  root : Option Node
  deriving Inhabited

namespace Expression

/-- An expression that has nothing yet. -/
def fresh (scriptId : Int32) (assignment : Option Assignment) : Expression :=
  ⟨scriptId, none, assignment, [], none⟩

/-- The expression at a place. -/
def ownedBy (e : Expression) (owner : Owner) : Expression := { e with owner := some owner }

/-- What its failures report besides its nodes. -/
def context (e : Expression) : Context := ⟨e.scriptId, e.assignment⟩

/-- The expression with one more node waiting. -/
def push (e : Expression) (node : Node) : Expression := { e with pending := e.pending ++ [node] }

/-- Whether the expression's bytes are text. -/
def isString (e : Expression) : Bool := e.assignment.any Assignment.isString

/-- The expression after an evaluation, and what came of it. -/
def evaluate (e : Expression) : Expression × Except ExpressionError Node :=
  match NovelScript.evaluate e.context e.pending with
  | .ok root => ({ e with pending := [], root := some root }, .ok root)
  | .error error => (e, .error error)

/-- The expression after loading bytes, and what came of it. -/
def load (e : Expression) (decoder : Decoder) (bytes : List UInt8) :
    Expression × Except ExpressionError Node :=
  if e.isString then { e with pending := [.raw (decoder.text bytes)] }.evaluate
  else
    let decoded := decoder.decodeAll bytes
    let loaded := { e with pending := decoded.nodes }
    match decoded.failure with
    | some error => (loaded, .error (.ofDecoding e.context decoded.nodes error))
    | none => loaded.evaluate

/-- What follows the value of an assignment: an array as a whole is written with empty brackets. -/
def arrayMark (root : Node) : String :=
  if root.var?.any Variable.isArray then "()" else ""

/-- The source text: the root, behind keyword and load operator if there is a keyword. Nothing
before the first successful evaluation. -/
def source (e : Expression) : String :=
  match e.root with
  | none => ""
  | some root =>
    match e.assignment.bind fun a => a.keyword?.map (·, a.loadOp) with
    | some (keyword, loadOp) => keyword ++ loadOp ++ root.source ++ arrayMark root
    | none => root.source

end Expression

/-- The script id of an expression that belongs to no script. -/
def standaloneScriptId : Int32 := -1

/-- One expression on its own, reconstructed from its bytes. -/
def reconstruct (bytes : List UInt8) (assignment : Option Assignment) (table : VariableTable)
    (encoding : TextEncoding) : Except ExpressionError Expression :=
  let loaded :=
    (Expression.fresh standaloneScriptId assignment).load (.ofTable table encoding) bytes
  loaded.2.map fun _ => loaded.1

end NovelScript
