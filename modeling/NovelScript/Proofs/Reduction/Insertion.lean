import NovelScript.Proofs.Reduction.Runs

/-!
# Insertion — nodes that make no difference to an evaluation

Two things can be put into a list without changing what it stands for. Two negation tokens, one
right behind the other, cancel wherever the first of them finds something that it can negate: what
was negated once is negated back to what it was, flags, signs and bits alike. And `nop`s are passed
over wherever they stand, between an array and its indices too, and they are no operands, so that in
an assignment the keyword is taken where it was taken without them.

The list with the insertion then has the same root, or fails at the same node for the same reason
and with the same stack. Only the index of that node is another one, and the list that the report
shows. `Relocated` says this of two outcomes, with the new indices as a relation to the old ones.

Both arguments follow the stack alone: the two runs meet in one stack behind the insertion, and from
there they are one run.

## What is proved

`evaluate_negate_negate`: two negations cancel. `evaluate_spaced`: `nop`s are transparent.
-/

set_option autoImplicit false

namespace NovelScript

/-- A position in a list, and that position in another list in which the nodes stand elsewhere. -/
inductive Position.Relocated (moves : Nat → Nat → Prop) : Position → Position → Prop
  | node {index index' : Nat} : moves index index' → Relocated moves (.node index) (.node index')
  | postPass : Relocated moves .postPass .postPass
  | outside : Relocated moves .outside .outside

/-- Errors of two lists that agree in everything but the list and the places in it. -/
structure ExpressionError.Relocated (moves : Nat → Nat → Prop) (nodes nodes' : List Node)
    (error error' : ExpressionError) : Prop where
  kind : error'.kind = error.kind
  reason : error'.report.reason = error.report.reason
  position : error.report.position.Relocated moves error'.report.position
  current : error'.report.current = error.report.current
  scriptId : error'.report.scriptId = error.report.scriptId
  assignment : error'.report.assignment = error.report.assignment
  stack : error'.report.stack = error.report.stack
  nodes : error.report.nodes = nodes.map Node.snapshot
  nodes' : error'.report.nodes = nodes'.map Node.snapshot
  cause : error'.cause = error.cause

namespace Reduction

/-- Two lists with one outcome: they have the same root, or fail alike. -/
inductive Relocated (moves : Nat → Nat → Prop) (nodes nodes' : List Node) :
    Except ExpressionError Node → Except ExpressionError Node → Prop
  | root {root : Node} : Relocated moves nodes nodes' (.ok root) (.ok root)
  | failure {error error' : ExpressionError} : error.Relocated moves nodes nodes' error' →
      Relocated moves nodes nodes' (.error error) (.error error')

variable {context : Context} {moves : Nat → Nat → Prop} {nodes nodes' : List Node}

/-- Lists that leave the same stack have one outcome. -/
theorem relocated_of_runs {stack : List Node} (runs : Runs context.standIn [] nodes stack)
    (runs' : Runs context.standIn [] nodes' stack) :
    Relocated moves nodes nodes' (evaluate context nodes) (evaluate context nodes') := by
  by_cases one : stack.length = 1
  · obtain ⟨root, rfl⟩ := List.length_eq_one_iff.mp one
    rw [evaluate_eq_ok_iff.mpr runs, evaluate_eq_ok_iff.mpr runs']
    exact .root
  · rw [evaluate_of_runs runs one, evaluate_of_runs runs' one]
    exact .failure ⟨rfl, rfl, .postPass, rfl, rfl, rfl, rfl, rfl, rfl, rfl⟩

/-- Lists that come to a halt at the same node, with the same stack, have one outcome. -/
theorem relocated_of_halts {halt : Halt} {index' : Nat} (moved : moves halt.index index')
    (halts : Halts context.standIn 0 [] nodes halt)
    (halts' : Halts context.standIn 0 [] nodes' { halt with index := index' }) :
    Relocated moves nodes nodes' (evaluate context nodes) (evaluate context nodes') := by
  rw [evaluate_of_halts halts, evaluate_of_halts halts']
  obtain ⟨index, node, fault, stack⟩ := halt
  refine .failure ?_
  -- A literal that overflows is reported outside of the list, everything else at its index.
  cases fault with
  | negation error =>
    cases error with
    | overflow literal => exact ⟨rfl, rfl, .outside, rfl, rfl, rfl, rfl, rfl, rfl, rfl⟩
    | unsupported kind => exact ⟨rfl, rfl, .node moved, rfl, rfl, rfl, rfl, rfl, rfl, rfl⟩
  | _ => exact ⟨rfl, rfl, .node moved, rfl, rfl, rfl, rfl, rfl, rfl, rfl⟩

/-! ## Two negations -/

/-- A second negation token takes the stack back to what it was before the first. -/
theorem runs_negate_negate {standIn : Option String} {stack next : List Node}
    {old : Option Node} (old' : Option Node)
    (negates : Applies standIn (.unary .negate old) stack next) :
    Runs standIn stack [.unary .negate old, .unary .negate old'] stack := by
  cases negates with
  | push operand => cases operand
  | unary other => exact absurd rfl other
  | negate negative =>
    exact .step (.negate negative) (.step (.negate (Node.negate_negate negative)) .done)

/-- A list that fails in none of these ways goes through. -/
theorem runs_of_kind
    (through : ∀ error, evaluate context nodes = .error error →
      error.kind ∉ [.stackUnderflow, .unsupportedNegateTarget, .unterminatedArrayAccess,
        .unhandled]) :
    ∃ stack, Runs context.standIn [] nodes stack := by
  rcases runs_or_halts context.standIn 0 [] nodes with runs | ⟨halt, halts⟩
  · exact runs
  · refine absurd ?_ (through _ (evaluate_of_halts halts))
    obtain ⟨index, node, fault, stack⟩ := halt
    cases fault with
    | negation error => cases error <;> simp [ExpressionError.ofFailure,
        ExpressionError.describe, ExpressionError.ofReport, ExpressionError.unhandled]
    | _ => simp [ExpressionError.ofFailure, ExpressionError.describe, ExpressionError.ofReport]

/-- Two negations cancel anywhere in a list: where the first of them does not fail, and nothing in
front of it does, the list has the same outcome as without the two. -/
theorem evaluate_negate_negate (context : Context) (front back : List Node)
    (old old' : Option Node)
    (negates : ∀ error, evaluate context (front ++ [.unary .negate old]) = .error error →
      error.kind ∉ [.stackUnderflow, .unsupportedNegateTarget, .unterminatedArrayAccess,
        .unhandled]) :
    Relocated (fun index index' => index' = index + 2) (front ++ back)
      (front ++ [.unary .negate old, .unary .negate old'] ++ back)
      (evaluate context (front ++ back))
      (evaluate context (front ++ [.unary .negate old, .unary .negate old'] ++ back)) := by
  obtain ⟨negated, through⟩ := runs_of_kind negates
  obtain ⟨stack, first, last⟩ := runs_append_iff.mp through
  have both : Runs context.standIn [] (front ++ [.unary .negate old, .unary .negate old'])
      stack := by
    cases last with
    | step applies _ => exact first.append (runs_negate_negate old' applies)
  -- Both lists have come to `stack`, so from here it is one run, two places apart.
  rcases runs_or_halts context.standIn (0 + front.length) stack back with
    ⟨next, runs⟩ | ⟨halt, halts⟩
  · exact relocated_of_runs (first.append runs) (both.append runs)
  · refine relocated_of_halts rfl (halts.behind first) (Halts.behind both ?_)
    rw [List.length_append, ← Nat.add_assoc]
    exact halts.later 2

/-- Two negations of the least long literal, which wraps, put off by two places that the second of
two additions lacks an operand. -/
theorem evaluate_negate_negate_underflow :
    let context : Context := ⟨0, none⟩
    let negate : Node := .unaryToken .negate
    let add : Node := .binaryToken (.arithmetic .add)
    let front : List Node := [.decimal ⟨0x7FF8000000000000⟩, .long Int64.minValue]
    (∀ error, evaluate context (front ++ [negate]) = .error error →
      error.kind ∉ [.stackUnderflow, .unsupportedNegateTarget, .unterminatedArrayAccess,
        .unhandled]) ∧
      ∃ error error', evaluate context (front ++ [add, add]) = .error error ∧
        evaluate context (front ++ [negate, negate] ++ [add, add]) = .error error' ∧
        error.report.position = .node 3 ∧ error'.report.position = .node 5 ∧
        error'.report.stack = error.report.stack := by
  intro context negate add front
  have negates : ∀ error, evaluate context (front ++ [negate]) = .error error →
      error.kind ∉ [.stackUnderflow, .unsupportedNegateTarget, .unterminatedArrayAccess,
        .unhandled] := by
    intro error failed
    cases failed
    decide
  cases evaluate_negate_negate context front [add, add] none none negates with
  | failure relocated => exact ⟨negates, _, _, rfl, rfl, rfl, rfl, relocated.stack⟩

/-! ## Passing over `nop`s -/

/-- A list with blanks inserted anywhere. The numbers are the indices at which the items of the list
then stand, if the first index is `index`. -/
inductive Spaced {α : Type} (blank : α) : Nat → List Nat → List α → List α → Prop
  | nil {index : Nat} : Spaced blank index [] [] []
  | keep {index : Nat} {item : α} {places : List Nat} {items spaced : List α} :
      Spaced blank (index + 1) places items spaced →
      Spaced blank index (index :: places) (item :: items) (item :: spaced)
  | insert {index : Nat} {places : List Nat} {items spaced : List α} :
      Spaced blank (index + 1) places items spaced →
      Spaced blank index places items (blank :: spaced)

/-- What is made of each item is spaced as the items are. -/
theorem Spaced.map {α β : Type} {blank : α} {index : Nat} {places : List Nat}
    {items spaced : List α} (h : Spaced blank index places items spaced) (f : α → β) :
    Spaced (f blank) index places (items.map f) (spaced.map f) := by
  induction h with
  | nil => exact .nil
  | keep _ ih => exact .keep ih
  | insert _ ih => exact .insert ih

/-- An item of the list, with what is in front of it, in the spaced list. -/
theorem Spaced.cut {α : Type} {blank item : α} {index : Nat} {places : List Nat}
    {front back spaced : List α} (h : Spaced blank index places (front ++ item :: back) spaced) :
    ∃ places' front' back', spaced = front' ++ item :: back' ∧
      Spaced blank index places' front front' ∧
        places[front.length]? = some (index + front'.length) := by
  generalize whole : front ++ item :: back = items at h
  induction h generalizing front with
  | nil => cases front <;> cases whole
  | keep rest ih =>
    cases front with
    | nil =>
      cases whole
      exact ⟨[], [], _, rfl, .nil, rfl⟩
    | cons first front =>
      cases whole
      obtain ⟨places', front', back', rfl, spaced, place⟩ := ih rfl
      refine ⟨_, _ :: front', back', rfl, .keep spaced, ?_⟩
      rw [List.length_cons, List.getElem?_cons_succ, place, List.length_cons, Nat.add_assoc,
        Nat.add_comm 1]
  | insert _ ih =>
    obtain ⟨places', front', back', rfl, spaced, place⟩ := ih whole
    refine ⟨places', _ :: front', back', rfl, .insert spaced, ?_⟩
    rw [place, List.length_cons, Nat.add_assoc, Nat.add_comm 1]

/-- A run passes over `nop`s. -/
theorem Spaced.runs {standIn : Option String} {index : Nat} {places : List Nat}
    {spaced stack last : List Node} (h : Spaced .nop index places nodes spaced)
    (runs : Runs standIn stack nodes last) : Runs standIn stack spaced last := by
  induction h generalizing stack with
  | nil => exact runs
  | keep _ ih =>
    cases runs with
    | step applies rest => exact .step applies (ih rest)
  | insert _ ih => exact .step .skip (ih runs)

/-- A halt is at the same node, wherever that node stands now. -/
theorem Spaced.halts {standIn : Option String} {places : List Nat} {spaced stack : List Node}
    {halt : Halt} (h : Spaced .nop 0 places nodes spaced)
    (halts : Halts standIn 0 stack nodes halt) :
    ∃ place, places[halt.index]? = some place ∧
      Halts standIn 0 stack spaced { halt with index := place } := by
  obtain ⟨front, back, rfl, index, runs, refuses⟩ := halts
  obtain ⟨places', front', back', rfl, spaced, place⟩ := h.cut
  refine ⟨0 + front'.length, ?_, front', back', rfl, rfl, spaced.runs runs, refuses⟩
  rw [index, Nat.zero_add, place]

/-- `nop`s are transparent: a list has the same outcome with `nop`s inserted anywhere. A failure is
at the same node, at the index where that stands then, and the list in its report is the list of the
other report with `nop`s inserted in the same places. -/
theorem evaluate_spaced (context : Context) {places : List Nat} {nodes spaced : List Node}
    (h : Spaced .nop 0 places nodes spaced) :
    Relocated (fun index index' => places[index]? = some index') nodes spaced
      (evaluate context nodes) (evaluate context spaced) ∧
    ∀ error error', evaluate context nodes = .error error →
      evaluate context spaced = .error error' →
      Spaced Node.nop.snapshot 0 places error.report.nodes error'.report.nodes := by
  have outcome : Relocated (fun index index' => places[index]? = some index') nodes spaced
      (evaluate context nodes) (evaluate context spaced) := by
    rcases runs_or_halts context.standIn 0 [] nodes with ⟨stack, runs⟩ | ⟨halt, halts⟩
    · exact relocated_of_runs runs (h.runs runs)
    · obtain ⟨place, moved, halts'⟩ := h.halts halts
      exact relocated_of_halts moved halts halts'
  refine ⟨outcome, fun error error' failed failed' => ?_⟩
  rw [failed, failed'] at outcome
  cases outcome with
  | failure relocated =>
    rw [relocated.nodes, relocated.nodes']
    exact h.map Node.snapshot

/-- In an assignment an operator takes the keyword beside an element of an array, and an array token
behind it finds no reference any more. With `nop`s around the reference, the index and the operator
this happens three places later. -/
theorem evaluate_spaced_unterminated :
    let context : Context := ⟨0, some ⟨⟨some "x", .int⟩, "+="⟩⟩
    let array : Node := .reference ⟨0x40, ⟨.global, 0, 3, 1, [4], none, none⟩⟩
    let add : Node := .binaryToken (.arithmetic .add)
    let nodes : List Node := [array, .int 1, .elementToken, add, .elementToken]
    let spaced : List Node :=
      [.nop, array, .nop, .int 1, .elementToken, .nop, add, .elementToken, .nop]
    Spaced .nop 0 [1, 3, 4, 6, 7] nodes spaced ∧
      ∃ error error', evaluate context nodes = .error error ∧
        evaluate context spaced = .error error' ∧ error.kind = .unterminatedArrayAccess ∧
        error.report.position = .node 4 ∧ error'.report.position = .node 7 ∧
        error'.report.stack = error.report.stack := by
  intro context array add nodes spaced
  have inserted : Spaced .nop 0 [1, 3, 4, 6, 7] nodes spaced :=
    .insert (.keep (.insert (.keep (.keep (.insert (.keep (.keep (.insert .nil))))))))
  cases (evaluate_spaced context inserted).1 with
  | failure relocated => exact ⟨inserted, _, _, rfl, rfl, rfl, rfl, rfl, relocated.stack⟩

end Reduction

end NovelScript
