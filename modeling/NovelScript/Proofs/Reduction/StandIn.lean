import NovelScript.Proofs.Reduction.Leaves

/-!
# The stand-in — compound assignments as plain expressions

In an assignment a binary operator may meet a single operand, and takes the keyword of the
assignment as its left one. `standIns` lists the places at which a run does so. They happen at the
bottom of the stack only, so a run in an assignment is a plain run that found the keywords lying
there from the start: one for each such place, below everything else.

The simulation keeps exactly that. The plain stack is the stack of the assignment with the keywords
that are still to be taken underneath; an ordinary step does not see them, by the frame law of the
rules (`Applies.frame`), and a stand-in takes the topmost one.

## What is proved

`evaluate_assignment_conservative`: an assignment gives every list the tree that it has outside of
one; the further lists are those that have a tree behind as many keywords as were taken, which are
the leftmost leaves of it; and a list that needs a keyword fails outside of an assignment where the
first was taken.
-/

set_option autoImplicit false

namespace NovelScript.Reduction

open Node

/-- The places, from the first node's `index` on, at which a binary operator meets a single operand
and takes the keyword. -/
def standInsFrom (word : String) (index : Nat) (stack : List Node) : List Node → List Nat
  | [] => []
  | node :: rest =>
    match node.apply (some word) stack with
    | .error _ => []
    | .ok next =>
      let later := standInsFrom word (index + 1) next rest
      if node.isBinary && stack.length == 1 then index :: later else later

/-- The places at which the run of a list takes the keyword, in order. -/
def standIns (word : String) (nodes : List Node) : List Nat := standInsFrom word 0 [] nodes

/-- Keywords in a row. -/
def keywords (word : String) (count : Nat) : List Node := List.replicate count (.keyword word)

/-! ## Steps -/

/-- What a node does outside of assignments it does in one, and on top of any other stack. -/
theorem Applies.frame {standIn : Option String} {node : Node} {stack next : List Node}
    (h : Applies none node stack next) (below : List Node) :
    Applies standIn node (stack ++ below) (next ++ below) := by
  cases h with
  | skip => exact .skip
  | push operand => exact .push operand
  | binary => exact .binary
  | standIn word => cases word
  | unary other => exact .unary other
  | negate negative => exact .negate negative
  | element plain =>
    rw [List.append_assoc]
    exact .element plain

/-- A step in an assignment is a plain one, or takes the keyword. -/
theorem Applies.plain_or_standIn {word : String} {node : Node} {stack next : List Node}
    (h : Applies (some word) node stack next) :
    (node.isBinary && stack.length == 1) = false ∧ Applies none node stack next ∨
      ∃ op negated oldLeft oldRight right,
        node = .binary op negated oldLeft oldRight ∧ stack = [right] ∧
          next = [.binary op negated (some (.keyword word)) (some right)] := by
  cases h with
  | skip => exact .inl ⟨rfl, .skip⟩
  | push operand =>
    refine .inl ⟨?_, .push operand⟩
    cases node with
    | binary => cases operand
    | _ => rfl
  | binary => exact .inl ⟨by simp, .binary⟩
  | standIn same =>
    cases same
    exact .inr ⟨_, _, _, _, _, rfl, rfl, rfl⟩
  | unary other => exact .inl ⟨rfl, .unary other⟩
  | negate negative => exact .inl ⟨rfl, .negate negative⟩
  | element plain => exact .inl ⟨rfl, .element plain⟩

/-- The places of a list whose first node takes no keyword are those of the rest. -/
theorem standInsFrom_cons_plain {word : String} {index : Nat} {node : Node}
    {stack next nodes : List Node} (h : Applies (some word) node stack next)
    (plain : (node.isBinary && stack.length == 1) = false) :
    standInsFrom word index stack (node :: nodes) = standInsFrom word (index + 1) next nodes := by
  simp only [standInsFrom, h.apply_eq, plain, Bool.false_eq_true, if_false]

/-- The places of a list whose first node takes the keyword begin with its place. -/
theorem standInsFrom_cons_standIn {word : String} {index : Nat} {op : BinaryOp} {negated : Bool}
    {oldLeft oldRight : Option Node} {right : Node} {nodes : List Node} :
    standInsFrom word index [right] (.binary op negated oldLeft oldRight :: nodes) =
      index :: standInsFrom word (index + 1)
        [.binary op negated (some (.keyword word)) (some right)] nodes :=
  rfl

/-! ## Runs -/

/-- A plain run is a run in every assignment. -/
theorem Runs.of_plain {standIn : Option String} {stack nodes last : List Node}
    (h : Runs none stack nodes last) : Runs standIn stack nodes last := by
  induction h with
  | done => exact .done
  | step applies _ ih =>
    have framed := @Applies.frame standIn _ _ _ applies []
    rw [List.append_nil, List.append_nil] at framed
    exact .step framed ih

/-- A run in an assignment is the plain run over as many keywords as it takes. -/
theorem Runs.over_keywords {word : String} {stack nodes last : List Node}
    (h : Runs (some word) stack nodes last) (index : Nat) :
    Runs none (stack ++ keywords word (standInsFrom word index stack nodes).length) nodes last := by
  induction h generalizing index with
  | done =>
    rw [standInsFrom, List.length_nil, keywords, List.replicate_zero, List.append_nil]
    exact .done
  | @step node stack next nodes last applies _ ih =>
    rcases applies.plain_or_standIn with
      ⟨noStandIn, plain⟩ | ⟨op, negated, oldLeft, oldRight, right, rfl, rfl, rfl⟩
    · rw [standInsFrom_cons_plain applies noStandIn]
      exact .step (plain.frame _) (ih (index + 1))
    · rw [standInsFrom_cons_standIn, List.length_cons, keywords, List.replicate_succ]
      exact .step .binary (ih (index + 1))

/-- Keywords go to the bottom of an empty stack. -/
theorem runs_keywords (standIn : Option String) (word : String) (count : Nat) (stack : List Node) :
    Runs standIn stack (keywords word count) (keywords word count ++ stack) := by
  induction count generalizing stack with
  | zero => exact .done
  | succ count ih =>
    have rest := ih (.keyword word :: stack)
    have shift : keywords word count ++ .keyword word :: stack =
        keywords word (count + 1) ++ stack := by
      rw [keywords, keywords, List.replicate_succ', List.append_assoc]
      rfl
    rw [shift] at rest
    rw [keywords, List.replicate_succ]
    exact .step (.push rfl) rest

/-- A run in an assignment that takes a keyword halts outside of one, at the place of the first. -/
theorem Runs.halts_at_standIn {word : String} {stack nodes last : List Node} {index place : Nat}
    {later : List Nat} (h : Runs (some word) stack nodes last)
    (first : standInsFrom word index stack nodes = place :: later) :
    ∃ node kind rest, Halts none index stack nodes ⟨place, node, .tooFewOperands kind, rest⟩ := by
  induction h generalizing index with
  | done => cases first
  | @step node stack next nodes last applies _ ih =>
    rcases applies.plain_or_standIn with
      ⟨noStandIn, plain⟩ | ⟨op, negated, oldLeft, oldRight, right, rfl, rfl, rfl⟩
    · rw [standInsFrom_cons_plain applies noStandIn] at first
      obtain ⟨token, kind, rest, front, back, rfl, hplace, runs, refuses⟩ := ih first
      refine ⟨token, kind, rest, node :: front, back, rfl, ?_, .step plain runs, refuses⟩
      rw [hplace, List.length_cons]
      omega
    · rw [standInsFrom_cons_standIn] at first
      cases first
      exact ⟨_, _, _, [], nodes, rfl, rfl, .done, .single rfl⟩

/-! ## Leaves -/

/-- Keywords keep their sign, so what agrees with keywords and further nodes begins with them. -/
theorem keywords_of_sameUpToSign {word : String} {count : Nat} {operands leaves : List Node}
    (h : List.Forall₂ SameUpToSign (keywords word count ++ operands) leaves) :
    ∃ own, leaves = keywords word count ++ own ∧ List.Forall₂ SameUpToSign operands own := by
  induction count generalizing leaves with
  | zero => exact ⟨leaves, rfl, h⟩
  | succ count ih =>
    rw [keywords, List.replicate_succ] at h
    cases h with
    | @cons _ leaf _ leaves same rest =>
      obtain ⟨own, rfl, hown⟩ := ih rest
      rcases same with rfl | negative
      · exact ⟨own, rfl, hown⟩
      · cases negative

/-- The operands of a list are those of the list without its `nop`s. -/
theorem operands_withoutNops (nodes : List Node) :
    (withoutNops nodes).filter isOperand = nodes.filter isOperand := by
  rw [withoutNops, List.filter_filter]
  congr 1
  funext node
  cases node <;> rfl

/-- The leaves of the root of a plain run are the operands of its list, up to sign. -/
theorem Runs.leaves {nodes : List Node} {root : Node} (h : Runs none [] nodes [root]) :
    List.Forall₂ SameUpToSign (nodes.filter isOperand) root.leaves := by
  have leaves := (runs_nil_iff_derived.mp h).leaves
  rw [operands_withoutNops] at leaves
  exact leaves

/-! ## Evaluation -/

/-- Assignments extend plain evaluation conservatively. A list that has a root outside has it in
the assignment. A list that has a root in the assignment has it outside behind as many keywords as
its run takes, and these are the leaves of the root that come before the list's own operands. And
if it takes any, then outside it underflows where it takes the first. -/
theorem evaluate_assignment_conservative (scriptId : Int32) (assignment : Assignment)
    (nodes : List Node) :
    let word := assignment.target.keyword.getD ""
    (∀ root, evaluate ⟨scriptId, none⟩ nodes = .ok root →
      evaluate ⟨scriptId, some assignment⟩ nodes = .ok root) ∧
    (∀ root, evaluate ⟨scriptId, some assignment⟩ nodes = .ok root →
      let taken := keywords word (standIns word nodes).length
      evaluate ⟨scriptId, none⟩ (taken ++ nodes) = .ok root ∧
        ∃ own, root.leaves = taken ++ own ∧
          List.Forall₂ SameUpToSign (nodes.filter isOperand) own) ∧
    (∀ root place later, evaluate ⟨scriptId, some assignment⟩ nodes = .ok root →
      standIns word nodes = place :: later →
      ∃ error, evaluate ⟨scriptId, none⟩ nodes = .error error ∧ error.kind = .stackUnderflow ∧
        error.report.position = .node place) := by
  intro word
  refine ⟨fun root h => ?_, fun root h => ?_, fun root place later h first => ?_⟩
  · exact evaluate_eq_ok_iff.mpr (evaluate_eq_ok_iff.mp h).of_plain
  · have behind := (evaluate_eq_ok_iff.mp h).over_keywords 0
    have bottom := runs_keywords none word (standIns word nodes).length []
    rw [List.append_nil] at bottom
    have plain := bottom.append behind
    refine ⟨evaluate_eq_ok_iff.mpr plain, keywords_of_sameUpToSign ?_⟩
    have leaves := plain.leaves
    rw [List.filter_append] at leaves
    have all : (keywords word (standIns word nodes).length).filter isOperand =
        keywords word (standIns word nodes).length :=
      List.filter_replicate_of_pos rfl
    rw [all] at leaves
    exact leaves
  · obtain ⟨node, kind, rest, halts⟩ := (evaluate_eq_ok_iff.mp h).halts_at_standIn first
    exact ⟨_, evaluate_of_halts halts, rfl, rfl⟩

/-- Two additions behind a single number take the keyword twice: the root is the one that two
keywords in front of the list give it outside of the assignment. -/
theorem evaluate_assignment_conservative_twice :
    let assignment : Assignment := ⟨⟨some "x", .int⟩, "+="⟩
    let add : Node := .binaryToken (.arithmetic .add)
    let nodes : List Node := [.int 3, add, add]
    standIns "x" nodes = [1, 2] ∧
      (∃ root, evaluate ⟨0, some assignment⟩ nodes = .ok root ∧
        evaluate ⟨0, none⟩ (keywords "x" 2 ++ nodes) = .ok root ∧ root.source = "x+(x+3)") ∧
        ∃ error, evaluate ⟨0, none⟩ nodes = .error error ∧ error.report.position = .node 1 := by
  intro assignment add nodes
  have two : standIns "x" nodes = [1, 2] := rfl
  obtain ⟨-, behind, halts⟩ := evaluate_assignment_conservative 0 assignment nodes
  obtain ⟨plain, -⟩ := behind _ rfl
  obtain ⟨error, failed, -, place⟩ := halts _ 1 [2] rfl two
  exact ⟨two, ⟨_, rfl, plain, by decide⟩, error, failed, place⟩

end NovelScript.Reduction
