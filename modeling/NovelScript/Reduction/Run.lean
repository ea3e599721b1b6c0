import NovelScript.Reduction.Step

/-!
# Reduction — from the flat list to one tree

A run applies the nodes of the list one after the other, and ends with a tree if exactly one node is
left on the stack. It keeps count of the nodes, so that a failure knows its place.

A failure that reduction did not raise itself is reported after the run, as belonging to no node and
with the stack that the run left.
-/

set_option autoImplicit false

namespace NovelScript

namespace Reduction

/-- Applies the nodes of a list, of which the first is number `index`. -/
def steps (job : Job) (index : Nat) : List Node → Machine Unit
  | [] => return ()
  | node :: rest => do
    step job index node
    steps job (index + 1) rest

/-- The one node that a finished list leaves on the stack. -/
def root (job : Job) : Machine Node := do
  let stack ← get
  if stack.length ≠ 1 then
    fail job .nonSingularResult
      ("expression did not resolve to a single value (stack count=" ++
        Nat.repr stack.length ++ ")")
      .postPass none
  match ← pop with
  | some root => return root
  | none => throw (.foreign (.other "evaluator stack emptied unexpectedly"))

/-- Reduces the list of a job. -/
def run (job : Job) : Machine Node := do
  steps job 0 job.nodes
  root job

end Reduction

/-- The tree of a flat list, or the error with its report. -/
def evaluate (context : Context) (nodes : List Node) : Except ExpressionError Node :=
  match (Reduction.run ⟨context, nodes⟩).on [] with
  | (.ok root, _) => .ok root
  | (.error (.raised error), _) => .error error
  | (.error (.foreign cause), stack) =>
    .error (.unhandled
      (.capture "unhandled exception during evaluation" .outside none context stack nodes) cause)

end NovelScript
