import NovelScript.Expression.Assignment
import NovelScript.Expr.Text

/-!
# Reports — the state in which an expression failed

A report is taken when an expression fails and is complete in itself: the reason, the place, the
node that was being applied, the script, the assignment, the stack, and the whole flat list. Nodes
are kept as snapshots of their kind and text. The stack is shown top first, the list in order.
-/

set_option autoImplicit false

namespace NovelScript

/-- Where in the list a failure belongs. -/
inductive Position where
  | node (index : Nat)
  /-- After the whole list. -/
  | postPass
  /-- To no node in particular. -/
  | outside
  deriving DecidableEq, Repr, Inhabited

/-- The text of a position. -/
def Position.text : Position → String
  | .node index => Nat.repr index
  | .postPass => "<post-pass>"
  | .outside => "<n/a>"

/-- The kind and the text of a node. -/
structure Snapshot where
  kind : NodeKind
  text : String
  deriving DecidableEq, Repr, Inhabited

/-- The snapshot of a node. -/
def Node.snapshot (node : Node) : Snapshot := ⟨node.kind, node.source⟩

/-- What is known of an expression besides its nodes. -/
structure Context where
  scriptId : Int32
  assignment : Option Assignment
  deriving DecidableEq, Repr, Inhabited

/-- The keyword for an operator that lacks its left operand: there is one in an assignment only. -/
def Context.standIn (context : Context) : Option String := context.assignment.map Assignment.standIn

/-- The state in which an expression failed. -/
structure Report where
  reason : String
  position : Position
  /-- The node that was being applied. -/
  current : Option Snapshot
  scriptId : Int32
  assignment : Option Assignment
  /-- The stack, top first. -/
  stack : List Snapshot
  /-- The flat list. -/
  nodes : List Snapshot
  deriving DecidableEq, Repr, Inhabited

namespace Report

/-- The report of a failure. -/
def capture (reason : String) (position : Position) (current : Option Node) (context : Context)
    (stack nodes : List Node) : Report where
  reason := reason
  position := position
  current := current.map Node.snapshot
  scriptId := context.scriptId
  assignment := context.assignment
  stack := stack.map Node.snapshot
  nodes := nodes.map Node.snapshot

/-- The line that describes the assignment. -/
def assignmentText : Option Assignment → String
  | some a =>
    "Keyword='" ++ a.standIn ++ "', LoadOp='" ++ a.loadOp ++ "', ResultType='" ++
      a.target.resultType.word ++ "'"
  | none => "<no-assign-context>"

/-- The entries of the stack. -/
def stackText : List Snapshot → String
  | [] => "<empty>"
  | stack => String.intercalate " | " (stack.map fun s => s.kind.word ++ ":" ++ s.text)

/-- The lines of the flat list, each after a line break. -/
def nodeLines (nodes : List Snapshot) : String :=
  String.join (nodes.zipIdx.map fun (s, i) =>
    "\n[" ++ Nat.repr i ++ "] " ++ s.kind.word ++ ": " ++ s.text)

/-- The report as lines. -/
def text (r : Report) : String :=
  "EVAL_DIAGNOSTIC\n" ++
  "Reason: " ++ r.reason ++ "\n" ++
  "At instruction index: " ++ r.position.text ++ "\n" ++
  "Current instruction: " ++
    (match r.current with
      | some s => s.kind.word ++ ":" ++ s.text
      | none => "<none>") ++ "\n" ++
  "ScriptId: " ++ Json.wholeText r.scriptId.toInt ++ "\n" ++
  "Expr: " ++ assignmentText r.assignment ++ "\n" ++
  "StackCount: " ++ Nat.repr r.stack.length ++ "\n" ++
  "Stack Snapshot (top first): " ++ stackText r.stack ++ "\n" ++
  "Instruction List:" ++ nodeLines r.nodes

end Report

end NovelScript
