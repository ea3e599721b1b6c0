import NovelScript.Proofs.Reduction.Rollback

/-!
# Runs — a list of nodes from stack to stack

`Runs` is the relation of a run that goes through and `Halts` that of a run that stops; every list
does one of the two from every stack. Both are free of the count of nodes that `runFrom` carries
along, so an argument about stacks need not mention places.

## What is proved

`runFrom_eq_ok_iff` and `runFrom_eq_error_iff`: the relations are the run. `evaluate_eq_ok_iff`: an
evaluation gives a root exactly when the list leads from the empty stack to that root alone; what it
gives otherwise is `evaluate_of_halts` and `evaluate_of_runs`.
-/

set_option autoImplicit false

namespace NovelScript

namespace Reduction

/-- The nodes of a list lead from one stack to another. -/
inductive Runs (standIn : Option String) : List Node → List Node → List Node → Prop
  | done {stack : List Node} : Runs standIn stack [] stack
  | step {node : Node} {stack next nodes last : List Node} :
      Applies standIn node stack next → Runs standIn next nodes last →
      Runs standIn stack (node :: nodes) last

/-- A list whose first node is number `index` comes to a halt: the nodes in front lead to a stack
that the next node refuses. -/
def Halts (standIn : Option String) (index : Nat) (stack nodes : List Node) (halt : Halt) : Prop :=
  ∃ front rest : List Node,
    nodes = front ++ halt.node :: rest ∧ halt.index = index + front.length ∧
      Runs standIn stack front halt.stack ∧ Refuses standIn halt.node halt.stack halt.fault

variable {standIn : Option String} {stack middle last nodes front back : List Node}

/-- A run of one node is a step. -/
theorem Applies.runs {node : Node} {next : List Node} (h : Applies standIn node stack next) :
    Runs standIn stack [node] next :=
  .step h .done

/-- Runs follow each other. -/
theorem Runs.append (h : Runs standIn stack front middle) (h' : Runs standIn middle back last) :
    Runs standIn stack (front ++ back) last := by
  induction h with
  | done => exact h'
  | step applies _ ih => exact .step applies (ih h')

/-- A run over two lists is a run over the first and then over the second. -/
theorem runs_append_iff :
    Runs standIn stack (front ++ back) last ↔
      ∃ middle, Runs standIn stack front middle ∧ Runs standIn middle back last := by
  constructor
  · intro h
    induction front generalizing stack with
    | nil => exact ⟨stack, .done, h⟩
    | cons node front ih =>
      cases h with
      | step applies rest =>
        obtain ⟨middle, first, second⟩ := ih rest
        exact ⟨middle, .step applies first, second⟩
  · rintro ⟨middle, first, second⟩
    exact first.append second

/-- A list leads from a stack to one stack only. -/
theorem Runs.unique {other : List Node} (h : Runs standIn stack nodes last)
    (h' : Runs standIn stack nodes other) : last = other := by
  induction h with
  | done => cases h'; rfl
  | step applies _ ih =>
    cases h' with
    | step applies' rest' =>
      cases applies.unique applies'
      exact ih rest'

/-! ## The relations are the run -/

/-- A run goes through exactly when its steps do, wherever the count begins. -/
theorem runFrom_eq_ok_iff (index : Nat) :
    runFrom standIn index stack nodes = .ok last ↔ Runs standIn stack nodes last := by
  constructor
  · intro h
    induction nodes generalizing index stack with
    | nil => cases h; exact .done
    | cons node nodes ih =>
      simp only [runFrom] at h
      cases applied : node.apply standIn stack with
      | error fault => simp only [applied] at h; cases h
      | ok next =>
        simp only [applied] at h
        exact .step (apply_eq_ok_iff.mp applied) (ih (index + 1) h)
  · intro h
    induction h generalizing index with
    | done => rfl
    | step applies _ ih => simp only [runFrom, applies.apply_eq, ih]

/-- A run stops exactly at a node that refuses what the nodes in front of it lead to. -/
theorem runFrom_eq_error_iff {index : Nat} {halt : Halt} :
    runFrom standIn index stack nodes = .error halt ↔ Halts standIn index stack nodes halt := by
  constructor
  · intro h
    induction nodes generalizing index stack with
    | nil => cases h
    | cons node nodes ih =>
      simp only [runFrom] at h
      cases applied : node.apply standIn stack with
      | error fault =>
        simp only [applied] at h
        cases h
        exact ⟨[], nodes, rfl, rfl, .done, apply_eq_error_iff.mp applied⟩
      | ok next =>
        simp only [applied] at h
        obtain ⟨front, rest, rfl, place, runs, refuses⟩ := ih h
        refine ⟨node :: front, rest, rfl, ?_, .step (apply_eq_ok_iff.mp applied) runs, refuses⟩
        rw [place, List.length_cons]
        omega
  · rintro ⟨front, rest, rfl, place, runs, refuses⟩
    rw [runFrom_append, (runFrom_eq_ok_iff index).mpr runs]
    simp only [runFrom, refuses.apply_eq, ← place]

/-- From every stack, a list leads somewhere or comes to a halt. -/
theorem runs_or_halts (standIn : Option String) (index : Nat) (stack nodes : List Node) :
    (∃ last, Runs standIn stack nodes last) ∨ ∃ halt, Halts standIn index stack nodes halt := by
  cases h : runFrom standIn index stack nodes with
  | ok last => exact .inl ⟨last, (runFrom_eq_ok_iff index).mp h⟩
  | error halt => exact .inr ⟨halt, runFrom_eq_error_iff.mp h⟩

/-- A halt behind a run is a halt of both lists. -/
theorem Halts.behind {index : Nat} {halt : Halt} (runs : Runs standIn stack front middle)
    (h : Halts standIn (index + front.length) middle back halt) :
    Halts standIn index stack (front ++ back) halt := by
  obtain ⟨through, rest, rfl, place, runs', refuses⟩ := h
  refine ⟨front ++ through, rest, (List.append_assoc ..).symm, ?_, runs.append runs', refuses⟩
  rw [place, List.length_append, Nat.add_assoc]

/-- A halt is as much later as the count begins later. -/
theorem Halts.later {index : Nat} {halt : Halt} (h : Halts standIn index stack nodes halt)
    (count : Nat) :
    Halts standIn (index + count) stack nodes { halt with index := halt.index + count } := by
  obtain ⟨front, rest, whole, place, runs, refuses⟩ := h
  refine ⟨front, rest, whole, ?_, runs, refuses⟩
  show halt.index + count = index + count + front.length
  rw [place, Nat.add_right_comm]

end Reduction

/-! ## Evaluation -/

open Reduction

variable {context : Context} {nodes : List Node}

/-- An evaluation gives a root exactly when the list leads to it alone. -/
theorem evaluate_eq_ok_iff {root : Node} :
    evaluate context nodes = .ok root ↔ Runs context.standIn [] nodes [root] := by
  rw [← runFrom_eq_ok_iff 0]
  constructor
  · intro h
    rw [evaluate_eq] at h
    unfold reduce at h
    cases ran : runFrom context.standIn 0 [] nodes with
    | error halt => rw [ran] at h; cases h
    | ok last =>
      rw [ran] at h
      rcases last with _ | ⟨only, _ | ⟨second, rest⟩⟩
      · cases h
      · cases h; rfl
      · cases h
  · intro h
    rw [evaluate_eq]
    unfold reduce
    rw [h]
    rfl

/-- An evaluation that comes to a halt gives the error of the halt. -/
theorem evaluate_of_halts {halt : Halt} (h : Halts context.standIn 0 [] nodes halt) :
    evaluate context nodes = .error (.ofFailure context nodes (.halted halt)) := by
  rw [evaluate_eq]
  unfold reduce
  rw [runFrom_eq_error_iff.mpr h]
  rfl

/-- An evaluation that goes through but leaves no single node gives the error of its stack. -/
theorem evaluate_of_runs {stack : List Node} (h : Runs context.standIn [] nodes stack)
    (notOne : stack.length ≠ 1) :
    evaluate context nodes = .error (.ofFailure context nodes (.notSingle stack)) := by
  rw [evaluate_eq]
  unfold reduce
  rw [(runFrom_eq_ok_iff 0).mpr h]
  rcases stack with _ | ⟨only, _ | ⟨second, rest⟩⟩
  · rfl
  · exact absurd rfl notOne
  · rfl

end NovelScript
