import NovelScript.Reduction.Run

/-!
# Stacks — reduction as a function from stack to stack

The machine of reduction takes nodes off its stack before it knows whether it can go on. Here is
the same reduction without a machine: a node takes a whole stack to a stack or refuses it
(`Node.apply`), a list is folded over the stacks (`runFrom`), and what can be said of a failure
apart from reports is a `Failure`. `ExpressionError.ofFailure` gives each failure its error.

## What is proved

`runFrom_append`: a run over two lists is a run over the first and then, from the stack it leaves, a
run over the second. This is what makes a failure a matter of the nodes up to it alone.
-/

set_option autoImplicit false

namespace NovelScript

/-- Why a node cannot be applied to the stack that it meets. -/
inductive ReductionFault where
  /-- A binary operator of this kind met fewer operands than it needs. -/
  | tooFewOperands (kind : NodeKind)
  /-- A unary operator met an empty stack. -/
  | noOperand
  /-- The negation token met an empty stack. -/
  | nothingToNegate
  /-- The top cannot be negated. -/
  | negation (error : NegateError)
  /-- The array token met a stack without a reference. -/
  | noArrayBase
  deriving DecidableEq, Repr

namespace Node

/-- A stack after a binary operator. -/
def applyBinary (standIn : Option String) (op : BinaryOp) (negated : Bool) :
    List Node → Except ReductionFault (List Node)
  | right :: left :: rest => .ok (.binary op negated (some left) (some right) :: rest)
  | [right] =>
    match standIn with
    | some word => .ok [.binary op negated (some (.keyword word)) (some right)]
    | none => .error (.tooFewOperands op.kind)
  | [] => .error (.tooFewOperands op.kind)

/-- A stack after a unary operator. -/
def applyUnary (op : UnaryOp) : List Node → Except ReductionFault (List Node)
  | [] => .error (if op = .negate then .nothingToNegate else .noOperand)
  | top :: rest =>
    match op with
    | .negate => (top.negate.mapError .negation).map (· :: rest)
    | op => .ok (.unary op (some top) :: rest)

/-- A stack after the array token. -/
def applyElement (stack : List Node) : Except ReductionFault (List Node) :=
  match Reduction.takeIndices [] stack with
  | ((some place, indices), rest) => .ok (.element false (some place) indices :: rest)
  | ((none, _), _) => .error .noArrayBase

/-- A stack after a node. `standIn` is the keyword of the assignment, if there is an assignment. -/
def apply (standIn : Option String) (stack : List Node) : Node → Except ReductionFault (List Node)
  | .nop => .ok stack
  | .binary op negated _ _ => applyBinary standIn op negated stack
  | .unary op _ => applyUnary op stack
  | .element _ _ _ => applyElement stack
  | node => .ok (node :: stack)

end Node

namespace Reduction

/-- A node that could not be applied: its place in the list, the node, why, and the stack. -/
structure Halt where
  index : Nat
  node : Node
  fault : ReductionFault
  stack : List Node

/-- How a list fails to be one expression. -/
inductive Failure where
  | halted (halt : Halt)
  /-- The list was applied in full and left this stack, which is not a single node. -/
  | notSingle (stack : List Node)

/-- The stack after the nodes of a list, of which the first is number `index`. -/
def runFrom (standIn : Option String) (index : Nat) (stack : List Node) :
    List Node → Except Halt (List Node)
  | [] => .ok stack
  | node :: rest =>
    match node.apply standIn stack with
    | .ok stack => runFrom standIn (index + 1) stack rest
    | .error fault => .error ⟨index, node, fault, stack⟩

/-- The tree that a flat list stands for. -/
def reduce (standIn : Option String) (nodes : List Node) : Except Failure Node :=
  match runFrom standIn 0 [] nodes with
  | .ok [root] => .ok root
  | .ok stack => .error (.notSingle stack)
  | .error halt => .error (.halted halt)

/-- A run over two lists goes through the first and then through the second. -/
theorem runFrom_append (standIn : Option String) (index : Nat) (stack first second : List Node) :
    runFrom standIn index stack (first ++ second) =
      match runFrom standIn index stack first with
      | .ok stack => runFrom standIn (index + first.length) stack second
      | .error halt => .error halt := by
  induction first generalizing index stack with
  | nil => rfl
  | cons node rest ih =>
    simp only [List.cons_append, runFrom, List.length_cons]
    cases node.apply standIn stack with
    | error fault => rfl
    | ok stack => simp only [ih]; rw [Nat.add_right_comm, Nat.add_assoc]

end Reduction

namespace ExpressionError

open Reduction

/-- The kind and the reason of a fault that belongs to a node. -/
def describe : ReductionFault → ErrorKind × String
  | .tooFewOperands kind =>
    (.stackUnderflow, kind.word ++ " requires 2 operands, stack underflow")
  | .noOperand => (.stackUnderflow, "unary operator requires 1 operand, stack underflow")
  | .nothingToNegate => (.stackUnderflow, "negate operator requires 1 operand, stack underflow")
  | .negation (.unsupported kind) =>
    (.unsupportedNegateTarget,
      "selected object (" ++ kind.word ++ ") does not support negate operator")
  | .negation (.overflow _) => (.unhandled, "unhandled exception during evaluation")
  | .noArrayBase =>
    (.unterminatedArrayAccess, "array access missing VariableRef before indices are exhausted")

/-- The error of a failed reduction. -/
def ofFailure (context : Context) (nodes : List Node) : Failure → ExpressionError
  | .halted ⟨index, node, fault, stack⟩ =>
    let (kind, reason) := describe fault
    match fault with
    | .negation (.overflow literal) =>
      unhandled (Report.capture reason .outside none context stack nodes)
        (.negation (.overflow literal))
    | _ => ofReport kind (Report.capture reason (.node index) (some node) context stack nodes)
  | .notSingle stack =>
    ofReport .nonSingularResult <|
      Report.capture
        ("expression did not resolve to a single value (stack count=" ++
          Nat.repr stack.length ++ ")")
        .postPass none context stack nodes

end ExpressionError

end NovelScript
