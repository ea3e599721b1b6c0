import NovelScript.Proofs.Reduction.Runs

/-!
# Locality — where an evaluation fails, and what its report shows

Apart from a list that goes through and is not one tree, an evaluation fails at one node. That node
and everything about the failure are settled by the nodes up to it: whatever follows changes nothing
but the list that the report shows. The report shows the stack just as the node met it, so nothing
that the failing step took off is missing from it.

A list is cut behind each of its nodes to find the place. `Stops` says that the cut list fails other
than by not being one tree, and `FirstStop` that no shorter cut does. `LeavesStack` reads the stack
that a list leaves off the outcome of its evaluation, and the rules of steps say the same (`Runs`).
The entries of a report are spelled as kinds and texts of nodes.

An overflow is the one failure that is not raised at its node but wrapped after the pass. It comes
from the least byte or short literal under a negation token, and from nothing else.

## What is proved

`evaluate_error_local`: without a stop an evaluation gives a root or reports a stack that is not one
node; with one, every list that begins alike fails there, with the same error and that stack, both
in the report and as what the run leaves.
-/

set_option autoImplicit false

namespace NovelScript

/-- Whether a node is a literal whose negative does not fit. -/
def Node.isLeast : Node → Bool
  | .byte v => v == Int8.minValue
  | .short v => v == Int16.minValue
  | _ => false

namespace Reduction

/-- The list, cut behind node number `place`, fails other than by not being one tree. -/
def Stops (context : Context) (nodes : List Node) (place : Nat) : Prop :=
  ∃ error, evaluate context (nodes.take (place + 1)) = .error error ∧
    error.kind ≠ .nonSingularResult

/-- The first place at which a list stops. -/
structure FirstStop (context : Context) (nodes : List Node) (place : Nat) : Prop where
  inside : place < nodes.length
  stops : Stops context nodes place
  first : ∀ earlier < place, ¬ Stops context nodes earlier

/-- What an evaluation tells of the stack that its list leaves: the root is all of it, or the report
of a list that is not one tree shows it. -/
def LeavesStack (context : Context) (nodes stack : List Node) : Prop :=
  match evaluate context nodes with
  | .ok root => stack = [root]
  | .error error =>
    error.kind = .nonSingularResult ∧
      error.report.stack = stack.map fun node => ⟨node.kind, node.source⟩

/-- An error that is raised at a node, which its report names. -/
def RaisedAt (place : Nat) (node : Node) (error : ExpressionError) : Prop :=
  (error.kind = .stackUnderflow ∨ error.kind = .unterminatedArrayAccess ∨
      error.kind = .unsupportedNegateTarget) ∧
    error.report.position = .node place ∧
      error.report.current = some ⟨node.kind, node.source⟩ ∧ error.cause = none

/-- An overflow that is wrapped after the pass and belongs to no node. -/
def Wrapped (error : ExpressionError) : Prop :=
  error.kind = .unhandled ∧ error.report.position = .outside ∧ error.report.current = none ∧
    ∃ literal, error.cause = some (.negation (.overflow literal))

/-- An error with another list in its report. -/
def withNodes (error : ExpressionError) (nodes : List Node) : ExpressionError :=
  { error with
    report := { error.report with nodes := nodes.map fun node => ⟨node.kind, node.source⟩ } }

/-! ## Overflow -/

/-- Exactly the least literals have a negative that does not fit. -/
theorem negate_overflow_iff {node : Node} :
    (∃ literal, node.negate = .error (.overflow literal)) ↔ node.isLeast = true := by
  cases node with
  | byte v =>
    by_cases least : v = Int8.minValue
    · simp [least, Node.negate_leastByte, Node.isLeast]
    · simp [Node.negate_byte least, Node.isLeast, least]
  | short v =>
    by_cases least : v = Int16.minValue
    · simp [least, Node.negate_leastShort, Node.isLeast]
    · simp [Node.negate_short least, Node.isLeast, least]
  | binary op =>
    cases op <;> simp [Node.negate, Node.negateInPlace, Except.map, Node.isLeast]
  | _ => simp [Node.negate, Node.negateInPlace, Except.map, Node.isLeast]

/-- A node refuses a stack by an overflow exactly if it is the negation token and the top is a least
literal. -/
theorem Refuses.overflow_iff {standIn : Option String} {node : Node} {stack : List Node}
    {fault : ReductionFault} (h : Refuses standIn node stack fault) :
    (∃ literal, fault = .negation (.overflow literal)) ↔
      (∃ old, node = .unary .negate old) ∧ ∃ top, stack.head? = some top ∧ top.isLeast = true := by
  cases h with
  | @negation old top rest error refused =>
    have least := @negate_overflow_iff top
    constructor
    · rintro ⟨literal, same⟩
      cases same
      exact ⟨⟨old, rfl⟩, top, rfl, least.mp ⟨literal, refused⟩⟩
    · rintro ⟨-, other, same, isLeast⟩
      cases same
      obtain ⟨literal, overflow⟩ := least.mpr isLeast
      rw [refused] at overflow
      cases overflow
      exact ⟨literal, rfl⟩
  | @unary op old other =>
    constructor
    · rintro ⟨literal, same⟩
      cases same
    · rintro ⟨-, top, none, -⟩
      cases none
  | negate =>
    constructor
    · rintro ⟨literal, same⟩
      cases same
    · rintro ⟨-, top, none, -⟩
      cases none
  | _ =>
    constructor
    · rintro ⟨literal, same⟩
      cases same
    · rintro ⟨⟨old, same⟩, -⟩
      cases same

/-! ## The error of a halt -/

/-- A halt is reported at its node, or wrapped if it is an overflow. -/
theorem raisedAt_or_wrapped (context : Context) (nodes : List Node) (halt : Halt) :
    RaisedAt halt.index halt.node (.ofFailure context nodes (.halted halt)) ∨
      Wrapped (.ofFailure context nodes (.halted halt)) ∧
        ∃ literal, halt.fault = .negation (.overflow literal) := by
  obtain ⟨index, node, fault, stack⟩ := halt
  cases fault with
  | negation error =>
    cases error with
    | unsupported kind => exact .inl ⟨.inr (.inr rfl), rfl, rfl, rfl⟩
    | overflow literal => exact .inr ⟨⟨rfl, rfl, rfl, literal, rfl⟩, literal, rfl⟩
  | noArrayBase => exact .inl ⟨.inr (.inl rfl), rfl, rfl, rfl⟩
  | _ => exact .inl ⟨.inl rfl, rfl, rfl, rfl⟩

/-- Exactly an overflow is unhandled. -/
theorem unhandled_iff (context : Context) (nodes : List Node) (halt : Halt) :
    (ExpressionError.ofFailure context nodes (.halted halt)).kind = .unhandled ↔
      ∃ literal, halt.fault = .negation (.overflow literal) := by
  constructor
  · intro kind
    rcases raisedAt_or_wrapped context nodes halt with ⟨raised, -⟩ | ⟨-, overflow⟩
    · rw [kind] at raised
      rcases raised with h | h | h <;> cases h
    · exact overflow
  · rintro ⟨literal, overflow⟩
    obtain ⟨index, node, fault, stack⟩ := halt
    cases overflow
    rfl

/-- A halt never reports that a list is not one tree. -/
theorem ofFailure_halted_kind (context : Context) (nodes : List Node) (halt : Halt) :
    (ExpressionError.ofFailure context nodes (.halted halt)).kind ≠ .nonSingularResult := by
  intro kind
  rcases raisedAt_or_wrapped context nodes halt with ⟨raised, -⟩ | ⟨⟨wrapped, -⟩, -⟩
  · rw [kind] at raised
    rcases raised with h | h | h <;> cases h
  · rw [kind] at wrapped
    cases wrapped

/-- The report of a halt shows the stack of the halt. -/
theorem ofFailure_halted_stack (context : Context) (nodes : List Node) (halt : Halt) :
    (ExpressionError.ofFailure context nodes (.halted halt)).report.stack =
      halt.stack.map fun node => ⟨node.kind, node.source⟩ := by
  obtain ⟨index, node, fault, stack⟩ := halt
  cases fault with
  | negation error => cases error <;> rfl
  | _ => rfl

/-- Of the list, the error of a halt has only what its report shows. -/
theorem ofFailure_halted_nodes (context : Context) (nodes longer : List Node) (halt : Halt) :
    ExpressionError.ofFailure context longer (.halted halt) =
      withNodes (.ofFailure context nodes (.halted halt)) longer := by
  obtain ⟨index, node, fault, stack⟩ := halt
  cases fault with
  | negation error => cases error <;> rfl
  | _ => rfl

/-! ## The first stop -/

variable {context : Context} {nodes : List Node}

/-- A list stops where the cut list comes to a halt. -/
theorem stops_iff_halts {place : Nat} :
    Stops context nodes place ↔
      ∃ halt, Halts context.standIn 0 [] (nodes.take (place + 1)) halt := by
  constructor
  · rintro ⟨error, failed, kind⟩
    rcases runs_or_halts context.standIn 0 [] (nodes.take (place + 1)) with ⟨stack, runs⟩ | halts
    · by_cases one : stack.length = 1
      · obtain ⟨root, rfl⟩ := List.length_eq_one_iff.mp one
        rw [evaluate_eq_ok_iff.mpr runs] at failed
        cases failed
      · rw [evaluate_of_runs runs one] at failed
        cases failed
        exact absurd rfl kind
    · exact halts
  · rintro ⟨halt, halts⟩
    exact ⟨_, evaluate_of_halts halts, ofFailure_halted_kind context _ halt⟩

/-- A list that goes through leaves its stack. -/
theorem Runs.leavesStack {stack : List Node} (h : Runs context.standIn [] nodes stack) :
    LeavesStack context nodes stack := by
  unfold LeavesStack
  by_cases one : stack.length = 1
  · obtain ⟨root, rfl⟩ := List.length_eq_one_iff.mp one
    rw [evaluate_eq_ok_iff.mpr h]
  · rw [evaluate_of_runs h one]
    exact ⟨rfl, rfl⟩

/-- At the first stop, the nodes in front lead to a stack that the node refuses. -/
theorem FirstStop.refuses {place : Nat} (h : FirstStop context nodes place) :
    ∃ node stack fault, nodes.take (place + 1) = nodes.take place ++ [node] ∧
      Runs context.standIn [] (nodes.take place) stack ∧
        Refuses context.standIn node stack fault := by
  have inside := h.inside
  have cut : nodes.take (place + 1) = nodes.take place ++ [nodes[place]] :=
    List.take_succ_eq_append_getElem inside
  rcases runs_or_halts context.standIn 0 [] (nodes.take place) with ⟨stack, runs⟩ | halts
  · rcases applies_or_refuses context.standIn nodes[place] stack with
      ⟨next, applies⟩ | ⟨fault, refuses⟩
    · obtain ⟨halt, halts⟩ := stops_iff_halts.mp h.stops
      have through := runs.append applies.runs
      rw [← cut, ← runFrom_eq_ok_iff 0, runFrom_eq_error_iff.mpr halts] at through
      cases through
    · exact ⟨_, stack, fault, cut, runs, refuses⟩
  · -- A halt in front of the place would be an earlier stop.
    cases place with
    | zero =>
      obtain ⟨halt, front, rest, split, -⟩ := halts
      rw [List.take_zero] at split
      cases front <;> cases split
    | succ earlier =>
      exact absurd (stops_iff_halts.mpr halts) (h.first earlier (Nat.lt_succ_self earlier))

/-- A list without a stop goes through. -/
theorem runs_of_not_stops (h : ∀ place < nodes.length, ¬ Stops context nodes place) :
    ∃ stack, Runs context.standIn [] nodes stack := by
  rcases runs_or_halts context.standIn 0 [] nodes with through | ⟨halt, halts⟩
  · exact through
  · have halts' := halts
    obtain ⟨front, rest, split, -⟩ := halts'
    have inside : nodes.length - 1 < nodes.length := by
      rw [split, List.length_append, List.length_cons]
      omega
    have whole : nodes.take (nodes.length - 1 + 1) = nodes := by
      rw [Nat.sub_add_cancel (by omega), List.take_length]
    refine absurd (stops_iff_halts.mpr ⟨halt, ?_⟩) (h _ inside)
    rw [whole]
    exact halts

/-- The stack that a run leaves is the one that it came to a halt on. -/
theorem Halts.left {halt : Halt} (h : Halts context.standIn 0 [] nodes halt) :
    ((run ⟨context, nodes⟩).on []).2 = halt.stack := by
  unfold run
  rw [on_bind, steps_on, runFrom_eq_error_iff.mpr h]

/-! ## Evaluation -/

/-- Errors are local. A list that stops nowhere has a root, or is reported after the pass with a
stack that is not one node. A list that stops fails at its first stop: every list that begins alike
fails with the same error, but for the list in its report; the run leaves, and the error shows, the
stack that the nodes in front lead to; it names the node and its place, or is an overflow and
wrapped; and it is an overflow exactly if the negation token meets a least literal. -/
theorem evaluate_error_local (context : Context) (nodes : List Node) :
    ((∀ place < nodes.length, ¬ Stops context nodes place) →
      (∃ root, evaluate context nodes = .ok root) ∨
        ∃ error, evaluate context nodes = .error error ∧ error.kind = .nonSingularResult ∧
          error.report.position = .postPass ∧ error.report.current = none ∧
            error.cause = none ∧ error.report.stack.length ≠ 1) ∧
    ∀ place, FirstStop context nodes place →
      ∃ node stack error, nodes[place]? = some node ∧
        Runs context.standIn [] (nodes.take place) stack ∧
        LeavesStack context (nodes.take place) stack ∧
        (error.report.stack = stack.map fun node => ⟨node.kind, node.source⟩) ∧
        (∀ longer, nodes.take (place + 1) <+: longer →
          evaluate context longer = .error (withNodes error longer) ∧
            ((run ⟨context, longer⟩).on []).2 = stack) ∧
        (RaisedAt place node error ∨ Wrapped error) ∧
        (error.kind = .unhandled ↔
          (∃ old, node = .unary .negate old) ∧
            ∃ top, stack.head? = some top ∧ top.isLeast = true) := by
  refine ⟨fun never => ?_, fun place h => ?_⟩
  · obtain ⟨stack, runs⟩ := runs_of_not_stops never
    by_cases one : stack.length = 1
    · obtain ⟨root, rfl⟩ := List.length_eq_one_iff.mp one
      exact .inl ⟨root, evaluate_eq_ok_iff.mpr runs⟩
    · refine .inr ⟨_, evaluate_of_runs runs one, rfl, rfl, rfl, rfl, ?_⟩
      show (stack.map Node.snapshot).length ≠ 1
      rw [List.length_map]
      exact one
  · obtain ⟨node, stack, fault, cut, runs, refuses⟩ := h.refuses
    have place' : (nodes.take place).length = place :=
      List.length_take_of_le (Nat.le_of_lt h.inside)
    let halt : Halt := ⟨place, node, fault, stack⟩
    have halts : ∀ rest, Halts context.standIn 0 [] (nodes.take place ++ node :: rest) halt :=
      fun rest => ⟨_, rest, rfl, by rw [place', Nat.zero_add], runs, refuses⟩
    refine ⟨node, stack, .ofFailure context nodes (.halted halt), ?_, runs, runs.leavesStack,
      ofFailure_halted_stack context nodes halt, ?_, ?_, ?_⟩
    · have here : (nodes.take (place + 1))[place]? = some node := by
        rw [cut, List.getElem?_append_right (Nat.le_of_eq place'), place', Nat.sub_self]
        rfl
      rw [← here, List.getElem?_take_of_lt (Nat.lt_succ_self place)]
    · rintro longer ⟨rest, rfl⟩
      rw [cut, List.append_assoc, ← ofFailure_halted_nodes]
      exact ⟨evaluate_of_halts (halts rest), (halts rest).left⟩
    · exact (raisedAt_or_wrapped context nodes halt).imp_right And.left
    · rw [unhandled_iff, refuses.overflow_iff]

/-- An array token without a reference below it: both operands are back on the stack and reported,
top first, whatever follows. -/
theorem evaluate_error_local_put_back :
    let context : Context := ⟨0, none⟩
    let nodes : List Node := [.int 1, .int 2, .elementToken]
    FirstStop context nodes 2 ∧
      ∃ error, evaluate context (nodes ++ [.text "x"]) = .error error ∧
        error.report.stack = [⟨.int, "2"⟩, ⟨.int, "1"⟩] ∧
        error.report.current = some ⟨.element, ")"⟩ := by
  intro context nodes
  have first : FirstStop context nodes 2 := by
    refine ⟨by decide, ⟨_, rfl, by decide⟩, fun earlier before => ?_⟩
    rintro ⟨error, failed, kind⟩
    match earlier, before with
    | 0, _ => cases failed
    | 1, _ => cases failed; exact kind rfl
  refine ⟨first, ?_⟩
  obtain ⟨node, stack, error, here, runs, -, shown, fails, raised, unhandled⟩ :=
    (evaluate_error_local context nodes).2 2 first
  obtain rfl : node = .elementToken := (Option.some.inj here).symm
  obtain rfl : stack = [.int 2, .int 1] :=
    runs.unique (.step (.push rfl) (.step (.push rfl) .done))
  refine ⟨_, (fails (nodes ++ [.text "x"]) (List.prefix_append nodes _)).1, ?_, ?_⟩
  · show error.report.stack = _
    rw [shown]
    decide
  · show error.report.current = _
    rcases raised with ⟨-, -, current, -⟩ | ⟨wrapped, -⟩
    · rw [current]
      decide
    · obtain ⟨⟨old, negation⟩, -⟩ := unhandled.mp wrapped
      cases negation

end Reduction

end NovelScript
