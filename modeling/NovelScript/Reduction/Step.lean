import NovelScript.Expression.Error

/-!
# One step of a reduction — a node of the flat list against the stack

The flat list is in postfix order, so a stack is all that reduction needs. The stack is a list, top
first. A literal, an access, a reference or a keyword is put on it; an operator takes its operands
off it and puts itself back with them; `nop` does nothing. Whatever operands an operator already
carries are replaced.

Three nodes have rules of their own.

* The negation token makes no node: it negates the top where it stands.
* The array token takes off everything above the topmost reference, as the indices, and the
  reference itself, as the base.
* A binary operator that meets exactly one operand takes the keyword of the assignment as its left
  operand, if there is an assignment. Compound assignments are compiled without their target, and
  this puts it back.

The stack outlives a failure, and a report is made from the stack as it is at that moment. A step
that takes nodes off and then fails therefore has to put them back first. What reduction did not
raise itself carries no report; the whole run makes one for it, of the stack that was left.
-/

set_option autoImplicit false

namespace NovelScript.Reduction

/-- Why a run is given up. -/
inductive Abort where
  /-- An error of reduction, with the report of where it was raised. -/
  | raised (error : ExpressionError)
  /-- What came from elsewhere and has no report yet. -/
  | foreign (cause : Cause)

/-- The list to be reduced, and what is known of it. -/
structure Job where
  context : Context
  nodes : List Node

/-- A part of a run: it works on the stack, and leaves one also where it gives up. -/
abbrev Machine (α : Type) := ExceptT Abort (StateM (List Node)) α

/-- What a part of a run comes to on a stack, and the stack that it leaves. -/
def Machine.on {α : Type} (part : Machine α) (stack : List Node) : Except Abort α × List Node :=
  part.run.run stack

/-- Takes the top off the stack, if there is one. -/
def pop : Machine (Option Node) :=
  modifyGet fun
    | [] => (none, [])
    | top :: rest => (some top, rest)

/-- Puts a node on the stack. -/
def push (node : Node) : Machine Unit := modify (node :: ·)

/-- Gives up with a report of the stack as it is. -/
def fail {α : Type} (job : Job) (kind : ErrorKind) (reason : String) (position : Position)
    (current : Option Node) : Machine α := do
  let stack ← get
  throw (.raised (.ofReport kind
    (.capture reason position current job.context stack job.nodes)))

/-- Takes both operands of a binary operator, the left one first. -/
def popOperands (job : Job) (index : Nat) (node : Node) : Machine (Node × Node) := do
  if 2 ≤ (← get).length then
    let right ← pop
    let left ← pop
    if let (some right, some left) := (right, left) then
      return (left, right)
  if (← get).length = 1 then
    if let some assignment := job.context.assignment then
      if let some right ← pop then
        return (.keyword (assignment.target.keyword.getD ""), right)
  fail job .stackUnderflow (node.kind.word ++ " requires 2 operands, stack underflow")
    (.node index) (some node)

/-- Gives a binary operator its operands. -/
def reduceBinary (job : Job) (index : Nat) (node : Node) (op : BinaryOp) (negated : Bool) :
    Machine Unit := do
  let (left, right) ← popOperands job index node
  push (.binary op negated (some left) (some right))

/-- Negates the top where it stands. -/
def negateTop (job : Job) (index : Nat) (node : Node) : Machine Unit := do
  match ← get with
  | [] =>
    fail job .stackUnderflow "negate operator requires 1 operand, stack underflow"
      (.node index) (some node)
  | top :: rest =>
    let (result, top) := top.negateInPlace
    set (top :: rest)
    match result with
    | .ok () => return ()
    | .error (.unsupported kind) =>
      fail job .unsupportedNegateTarget
        ("selected object (" ++ kind.word ++ ") does not support negate operator")
        (.node index) (some node)
    | .error (.overflow kind) => throw (.foreign (.negation (.overflow kind)))

/-- Gives a unary operator its operand. -/
def reduceUnary (job : Job) (index : Nat) (node : Node) (op : UnaryOp) : Machine Unit := do
  match ← pop with
  | some operand => push (.unary op (some operand))
  | none =>
    fail job .stackUnderflow "unary operator requires 1 operand, stack underflow"
      (.node index) (some node)

/-- Goes down a stack to its topmost reference: the place that it is a reference to, if there is
one, what was taken on the way, last taken first, and the stack below. -/
def takeIndices (taken : List Node) : List Node → (Option Place × List Node) × List Node
  | [] => ((none, taken), [])
  | .reference place :: rest => ((some place, taken), rest)
  | top :: rest => takeIndices (top :: taken) rest

/-- Closes an array access over the indices above the topmost reference. -/
def reduceElement (job : Job) (index : Nat) (node : Node) : Machine Unit := do
  let (base, taken) ← modifyGet (takeIndices [])
  match base with
  | some place => push (.element false (some place) taken)
  | none =>
    -- Last taken goes back first, so that the report shows the stack that the token met.
    modify fun stack => taken.foldl (fun stack node => node :: stack) stack
    fail job .unterminatedArrayAccess
      "array access missing VariableRef before indices are exhausted" (.node index) (some node)

/-- Applies the node with this number. -/
def step (job : Job) (index : Nat) (node : Node) : Machine Unit :=
  match node with
  | .nop => return ()
  | .binary op negated _ _ => reduceBinary job index node op negated
  | .unary .negate _ => negateTop job index node
  | .unary op _ => reduceUnary job index node op
  | .element .. => reduceElement job index node
  | operand => push operand

end NovelScript.Reduction
