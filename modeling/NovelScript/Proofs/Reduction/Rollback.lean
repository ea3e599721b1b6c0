import NovelScript.Proofs.Reduction.Rules

/-!
# Rollback — a step that fails leaves the stack that it met

The machine takes nodes off its stack, or changes the top where it stands, before it knows whether
it can go on, and its reports show whatever stack is there. A step can fail at four places, and each
keeps the stack in its own way: a binary operator looks at the height before it takes operands, a
unary operator fails on an empty stack only, negation changes nothing where it refuses, and the
array token puts back what it took.

`Machine.on` is the one way to look at a part of a run: what it comes to on a stack, and the stack
that it leaves. A part made of two is looked at through the first (`on_bind`).

## What is proved

`popOperands_rollback`, `reduceUnary_rollback`, `negateTop_rollback`, `reduceElement_rollback`: at
each place, giving up leaves the stack that the node met. `step_on`, `steps_on`: the machine is the
function from stack to stack, and where that function refuses, the machine gives up.
`root_raises`: the branch that only guards the end of a run is not taken.
`evaluate_eq`: an evaluation is `reduce`, with the error of each failure.
-/

set_option autoImplicit false

namespace NovelScript

namespace Reduction

variable {job : Job} {index : Nat} {node : Node} {stack left : List Node} {abort : Abort}

/-! ## Parts of a run -/

section Parts

variable {α β : Type}

/-- Of two parts the second works on what the first leaves, unless the first gives up. -/
theorem on_bind (first : Machine α) (second : α → Machine β) (stack : List Node) :
    (first >>= second).on stack =
      match first.on stack with
      | (.ok value, left) => (second value).on left
      | (.error abort, left) => (.error abort, left) := by
  unfold Machine.on
  simp only [ExceptT.run_bind, StateT.run_bind]
  rcases first.run.run stack with ⟨_ | _, _⟩ <;> rfl

/-- Looking at the stack leaves it. -/
theorem get_on : (get : Machine (List Node)).on stack = (.ok stack, stack) := rfl

/-- A function of the stack answers and leaves the next one. -/
theorem modifyGet_on (f : List Node → α × List Node) :
    (modifyGet f : Machine α).on stack = (.ok (f stack).1, (f stack).2) := rfl

end Parts

/-- What the machine gives up with where a node refuses a stack. An overflow has no report yet. -/
def abortOf (job : Job) (index : Nat) (node : Node) (stack : List Node) : ReductionFault → Abort
  | .negation (.overflow literal) => .foreign (.negation (.overflow literal))
  | fault =>
    .raised (.ofReport (ExpressionError.describe fault).1
      (.capture (ExpressionError.describe fault).2 (.node index) (some node) job.context stack
        job.nodes))

/-- A node's result on a stack as the machine has it: the next stack, or the stack as it was. -/
def settled (job : Job) (index : Nat) (node : Node) (stack : List Node) :
    Except ReductionFault (List Node) → Except Abort Unit × List Node
  | .ok next => (.ok (), next)
  | .error fault => (.error (abortOf job index node stack fault), stack)

/-- Where a result gives up, the stack is as it was. -/
theorem settled_rollback {result : Except ReductionFault (List Node)}
    (h : settled job index node stack result = (.error abort, left)) : left = stack := by
  cases result with
  | ok next => cases h
  | error fault => cases h; rfl

/-! ## Binary operators -/

/-- Two operands are taken off, whatever the context, and the guard behind the two pops holds. -/
theorem popOperands_of_two (right second : Node) (rest : List Node) :
    (popOperands job index node).on (right :: second :: rest) = (.ok (second, right), rest) := rfl

/-- A lone operand is taken off in an assignment, and left where it is outside of one. -/
theorem popOperands_of_one (right : Node) :
    (popOperands job index node).on [right] =
      match job.context.standIn with
      | some word => (.ok (.keyword word, right), [])
      | none => (.error (abortOf job index node [right] (.tooFewOperands node.kind)), [right]) := by
  obtain ⟨⟨scriptId, assignment⟩, nodes⟩ := job
  cases assignment <;> rfl

/-- An empty stack has no operands. -/
theorem popOperands_of_none :
    (popOperands job index node).on [] =
      (.error (abortOf job index node [] (.tooFewOperands node.kind)), []) := rfl

/-- No operand of a binary operator that fails is missing. -/
theorem popOperands_rollback (h : (popOperands job index node).on stack = (.error abort, left)) :
    left = stack := by
  rcases stack with _ | ⟨right, _ | ⟨second, rest⟩⟩
  · rw [popOperands_of_none] at h
    cases h
    rfl
  · rw [popOperands_of_one] at h
    cases word : job.context.standIn with
    | some word' => rw [word] at h; cases h
    | none => rw [word] at h; cases h; rfl
  · rw [popOperands_of_two] at h
    cases h

/-- A binary operator on a stack. -/
theorem reduceBinary_on (op : BinaryOp) (negated : Bool) (oldLeft oldRight : Option Node) :
    (reduceBinary job index (.binary op negated oldLeft oldRight) op negated).on stack =
      settled job index (.binary op negated oldLeft oldRight) stack
        (Node.applyBinary job.context.standIn op negated stack) := by
  unfold reduceBinary
  rw [on_bind]
  rcases stack with _ | ⟨right, _ | ⟨second, rest⟩⟩
  · rw [popOperands_of_none]
    rfl
  · rw [popOperands_of_one]
    unfold Node.applyBinary
    cases job.context.standIn <;> rfl
  · rw [popOperands_of_two]
    rfl

/-! ## Unary operators -/

/-- A unary operator on a stack. -/
theorem reduceUnary_on {op : UnaryOp} (other : op ≠ .negate) :
    (reduceUnary job index node op).on stack =
      settled job index node stack (Node.applyUnary op stack) := by
  cases op with
  | negate => exact absurd rfl other
  | _ => cases stack <;> rfl

/-- A unary operator fails on an empty stack, from which it took nothing. -/
theorem reduceUnary_rollback {op : UnaryOp}
    (h : (reduceUnary job index node op).on stack = (.error abort, left)) : left = stack := by
  cases stack with
  | nil => cases h; rfl
  | cons top rest => cases h

/-! ## Negation -/

/-- The top is what negation in place leaves of it, also where negation refuses. -/
theorem negateTop_cons (top : Node) (rest : List Node) :
    (negateTop job index node).on (top :: rest) =
      match top.negateInPlace with
      | (.ok (), next) => (.ok (), next :: rest)
      | (.error error, next) =>
        (.error (abortOf job index node (next :: rest) (.negation error)), next :: rest) := by
  unfold negateTop
  rw [on_bind, get_on]
  dsimp only
  rcases top.negateInPlace with ⟨⟨_ | _⟩ | _, next⟩ <;> rfl

/-- The negation token on a stack. -/
theorem negateTop_on :
    (negateTop job index node).on stack =
      settled job index node stack (Node.applyUnary .negate stack) := by
  cases stack with
  | nil => rfl
  | cons top rest =>
    rw [negateTop_cons, top.negateInPlace_eq]
    simp only [Node.applyUnary]
    cases top.negate <;> rfl

/-- Negation that is refused leaves the top as it was. -/
theorem negateTop_rollback (h : (negateTop job index node).on stack = (.error abort, left)) :
    left = stack := by
  rw [negateTop_on] at h
  exact settled_rollback h

/-! ## The array token -/

/-- The array token closes over what it took, or puts it back in the order it came off. -/
theorem reduceElement_of_taken :
    (reduceElement job index node).on stack =
      match takeIndices [] stack with
      | ((some place, taken), rest) => (.ok (), .element false (some place) taken :: rest)
      | ((none, taken), rest) =>
        let back := taken.foldl (fun stack node => node :: stack) rest
        (.error (abortOf job index node back .noArrayBase), back) := by
  unfold reduceElement
  rw [on_bind, modifyGet_on]
  dsimp only
  rcases takeIndices [] stack with ⟨⟨_ | place, taken⟩, rest⟩ <;> rfl

/-- Without a reference everything was taken, and everything is put back. -/
theorem putBack_taken (plain : ∀ node ∈ stack, node.isReference = false) :
    takeIndices [] stack = ((none, stack.reverse), []) ∧
      stack.reverse.foldl (fun stack node => node :: stack) [] = stack := by
  constructor
  · rw [takeIndices_of_plain plain, List.append_nil]
  · rw [List.foldl_reverse]
    exact List.foldr_cons_nil

/-- The array token on a stack. -/
theorem reduceElement_on :
    (reduceElement job index node).on stack =
      settled job index node stack (Node.applyElement stack) := by
  rw [reduceElement_of_taken]
  unfold Node.applyElement
  rcases exists_topmost_reference stack with plain | ⟨indices, place, rest, plain, rfl⟩
  · obtain ⟨taken, back⟩ := putBack_taken plain
    rw [taken]
    dsimp only
    rw [back]
    rfl
  · rw [takeIndices_append fun index h => plain index (List.mem_reverse.mp h)]
    rfl

/-- The array token that finds no base puts back every index that it took. -/
theorem reduceElement_rollback
    (h : (reduceElement job index node).on stack = (.error abort, left)) : left = stack := by
  rw [reduceElement_on] at h
  exact settled_rollback h

/-! ## Steps and runs -/

/-- A step is the function from stack to stack, and gives up with the stack as it was. -/
theorem step_on (job : Job) (index : Nat) (node : Node) (stack : List Node) :
    (step job index node).on stack =
      settled job index node stack (node.apply job.context.standIn stack) := by
  cases node with
  | nop => rfl
  | binary op negated oldLeft oldRight => exact reduceBinary_on op negated oldLeft oldRight
  | unary op old =>
    cases op with
    | negate => exact negateTop_on
    | _ => exact reduceUnary_on (by decide)
  | element negated base old => exact reduceElement_on
  | _ => rfl

/-- Whichever node gives up, the stack is the one that it met. -/
theorem step_rollback (h : (step job index node).on stack = (.error abort, left)) :
    left = stack := by
  rw [step_on] at h
  exact settled_rollback h

/-- A run goes from step to step, and gives up with the stack that the failing node met. -/
theorem steps_on (job : Job) (index : Nat) (stack nodes : List Node) :
    (steps job index nodes).on stack =
      match runFrom job.context.standIn index stack nodes with
      | .ok last => (.ok (), last)
      | .error ⟨place, node, fault, met⟩ => (.error (abortOf job place node met fault), met) := by
  induction nodes generalizing index stack with
  | nil => rfl
  | cons node rest ih =>
    rw [steps, on_bind, step_on, runFrom]
    cases node.apply job.context.standIn stack with
    | ok next => exact ih (index + 1) next
    | error fault => rfl

/-- At the end of a list one node is the root, and any other stack is reported. -/
theorem root_on (job : Job) (stack : List Node) :
    (root job).on stack =
      match stack with
      | [only] => (.ok only, [])
      | stack =>
        (.error (.raised (.ofFailure job.context job.nodes (.notSingle stack))), stack) := by
  rcases stack with _ | ⟨only, _ | ⟨second, rest⟩⟩ <;> rfl

/-- The end of a list always comes with a report: the last branch of `root` is not taken. -/
theorem root_raises (h : (root job).on stack = (.error abort, left)) :
    ∃ error, abort = .raised error := by
  rw [root_on] at h
  rcases stack with _ | ⟨only, _ | ⟨second, rest⟩⟩ <;> cases h <;> exact ⟨_, rfl⟩

/-- What a halted run is given up with is, once it has a report, the error of the halt. -/
theorem evaluate_eq (context : Context) (nodes : List Node) :
    evaluate context nodes =
      (reduce context.standIn nodes).mapError (ExpressionError.ofFailure context nodes) := by
  unfold evaluate run reduce
  rw [on_bind, steps_on]
  cases runFrom context.standIn 0 [] nodes with
  | ok last =>
    dsimp only
    rw [root_on]
    rcases last with _ | ⟨only, _ | ⟨second, rest⟩⟩ <;> rfl
  | error halt =>
    obtain ⟨index, node, fault, stack⟩ := halt
    cases fault with
    | negation error => cases error <;> rfl
    | _ => rfl

end Reduction

end NovelScript
