import NovelScript.Proofs.Reduction.Stacks

/-!
# Rules of a step — what a node does to a stack, as a relation

`Node.apply` computes a step; here are its rules one by one, so that a proof about steps is a case
per rule and opens no definition. `Applies` lists what a node can do to a stack and `Refuses` why it
may refuse one. A node does exactly one of the two.

The rule of the array token is the only one that looks below the top: it takes every node above the
topmost reference, and so the indices it finds hold no reference.

## What is proved

`apply_eq_ok_iff` and `apply_eq_error_iff`: the rules are the step, on both sides.
`negate_eq_ok_iff`: the same for negation.
-/

set_option autoImplicit false

namespace NovelScript

namespace Node

/-- Whether a node stands for itself and takes nothing from the stack. -/
def isOperand : Node → Bool
  | .byte _ | .short _ | .int _ | .long _ | .decimal _ | .text _ | .raw _ => true
  | .reference _ | .access .. | .keyword _ => true
  | .binary .. | .unary .. | .element .. | .nop => false

/-- Whether a node is a variable as such. -/
def isReference : Node → Bool
  | .reference _ => true
  | _ => false

/-- Whether a node does nothing. -/
def isNop : Node → Bool
  | .nop => true
  | _ => false

end Node

namespace Reduction

/-- The nodes that can be negated, and their negatives. -/
inductive Negates : Node → Node → Prop
  | byte {v : Int8} : v ≠ Int8.minValue → Negates (.byte v) (.byte (-v))
  | short {v : Int16} : v ≠ Int16.minValue → Negates (.short v) (.short (-v))
  | int {v : Int32} : Negates (.int v) (.int (-v))
  | long {v : Int64} : Negates (.long v) (.long (-v))
  | decimal {x : Binary64} : Negates (.decimal x) (.decimal x.negate)
  | access {negated : Bool} {place : Place} :
      Negates (.access negated place) (.access (!negated) place)
  | element {negated : Bool} {base : Option Place} {indices : List Node} :
      Negates (.element negated base indices) (.element (!negated) base indices)
  | arithmetic {op : ArithmeticOp} {negated : Bool} {left right : Option Node} :
      Negates (.binary (.arithmetic op) negated left right)
        (.binary (.arithmetic op) (!negated) left right)

/-- What a node does to a stack: the stack before it and the stack after it, both top first. -/
inductive Applies (standIn : Option String) : Node → List Node → List Node → Prop
  | skip {stack : List Node} : Applies standIn .nop stack stack
  | push {node : Node} {stack : List Node} :
      node.isOperand = true → Applies standIn node stack (node :: stack)
  | binary {op : BinaryOp} {negated : Bool} {oldLeft oldRight : Option Node}
      {left right : Node} {stack : List Node} :
      Applies standIn (.binary op negated oldLeft oldRight) (right :: left :: stack)
        (.binary op negated (some left) (some right) :: stack)
  /-- The keyword takes the place of a left operand, on a stack of one node only. -/
  | standIn {op : BinaryOp} {negated : Bool} {oldLeft oldRight : Option Node}
      {right : Node} {word : String} :
      standIn = some word →
      Applies standIn (.binary op negated oldLeft oldRight) [right]
        [.binary op negated (some (.keyword word)) (some right)]
  | unary {op : UnaryOp} {old : Option Node} {top : Node} {stack : List Node} :
      op ≠ .negate → Applies standIn (.unary op old) (top :: stack) (.unary op (some top) :: stack)
  | negate {old : Option Node} {top negative : Node} {stack : List Node} :
      top.negate = .ok negative →
      Applies standIn (.unary .negate old) (top :: stack) (negative :: stack)
  | element {negated : Bool} {base : Option Place} {old indices : List Node} {place : Place}
      {stack : List Node} :
      (∀ index ∈ indices, index.isReference = false) →
      Applies standIn (.element negated base old) (indices.reverse ++ .reference place :: stack)
        (.element false (some place) indices :: stack)

/-- Why a node refuses a stack. -/
inductive Refuses (standIn : Option String) : Node → List Node → ReductionFault → Prop
  | empty {op : BinaryOp} {negated : Bool} {oldLeft oldRight : Option Node} :
      Refuses standIn (.binary op negated oldLeft oldRight) [] (.tooFewOperands op.kind)
  | single {op : BinaryOp} {negated : Bool} {oldLeft oldRight : Option Node} {right : Node} :
      standIn = none →
      Refuses standIn (.binary op negated oldLeft oldRight) [right] (.tooFewOperands op.kind)
  | unary {op : UnaryOp} {old : Option Node} :
      op ≠ .negate → Refuses standIn (.unary op old) [] .noOperand
  | negate {old : Option Node} : Refuses standIn (.unary .negate old) [] .nothingToNegate
  | negation {old : Option Node} {top : Node} {stack : List Node} {error : NegateError} :
      top.negate = .error error →
      Refuses standIn (.unary .negate old) (top :: stack) (.negation error)
  | element {negated : Bool} {base : Option Place} {old stack : List Node} :
      (∀ node ∈ stack, node.isReference = false) →
      Refuses standIn (.element negated base old) stack .noArrayBase

/-- The rules of negation are negation. -/
theorem negate_eq_ok_iff {node negative : Node} :
    node.negate = .ok negative ↔ Negates node negative := by
  constructor
  · intro h
    cases node with
    | byte v =>
      by_cases least : v = Int8.minValue
      · rw [least, Node.negate_leastByte] at h
        cases h
      · rw [Node.negate_byte least] at h
        cases h
        exact .byte least
    | short v =>
      by_cases least : v = Int16.minValue
      · rw [least, Node.negate_leastShort] at h
        cases h
      · rw [Node.negate_short least] at h
        cases h
        exact .short least
    | int v => cases h; exact .int
    | long v => cases h; exact .long
    | decimal x => cases h; exact .decimal
    | access negated place => cases h; exact .access
    | element negated base indices => cases h; exact .element
    | binary op negated left right =>
      cases op with
      | arithmetic op => cases h; exact .arithmetic
      | _ => cases h
    | _ => cases h
  · intro h
    cases h with
    | byte fits => exact Node.negate_byte fits
    | short fits => exact Node.negate_short fits
    | _ => rfl

/-! ## The array token -/

/-- What lies above a reference is taken, and the reference ends the search. -/
theorem takeIndices_append {indices : List Node}
    (plain : ∀ index ∈ indices, index.isReference = false) (place : Place)
    (taken stack : List Node) :
    takeIndices taken (indices ++ .reference place :: stack) =
      ((some place, indices.reverse ++ taken), stack) := by
  induction indices generalizing taken with
  | nil => rfl
  | cons index indices ih =>
    have hindex := plain index List.mem_cons_self
    have hrest := fun other h => plain other (List.mem_cons_of_mem index h)
    have step : takeIndices taken (index :: (indices ++ .reference place :: stack)) =
        takeIndices (index :: taken) (indices ++ .reference place :: stack) := by
      cases index with
      | reference place => exact absurd hindex (by simp [Node.isReference])
      | _ => rfl
    rw [List.cons_append, step, ih hrest, List.reverse_cons, List.append_assoc]
    rfl

/-- Every stack either has a topmost reference, or none. -/
theorem exists_topmost_reference (stack : List Node) :
    (∀ node ∈ stack, node.isReference = false) ∨
      ∃ (indices : List Node) (place : Place) (rest : List Node),
        (∀ index ∈ indices, index.isReference = false) ∧
          stack = indices.reverse ++ .reference place :: rest := by
  induction stack with
  | nil => exact .inl (fun node h => absurd h List.not_mem_nil)
  | cons top stack ih =>
    cases htop : top.isReference with
    | true =>
      cases top with
      | reference place =>
        exact .inr ⟨[], place, stack, fun index h => absurd h List.not_mem_nil, rfl⟩
      | _ => exact absurd htop (by simp [Node.isReference])
    | false =>
      rcases ih with plain | ⟨indices, place, rest, plain, rfl⟩
      · exact .inl (List.forall_mem_cons.mpr ⟨htop, plain⟩)
      · refine .inr ⟨indices ++ [top], place, rest, fun index h => ?_, ?_⟩
        · rcases List.mem_append.mp h with h | h
          · exact plain index h
          · exact List.mem_singleton.mp h ▸ htop
        · rw [List.reverse_append]
          rfl

/-- Without a reference, all of the stack is taken. -/
theorem takeIndices_of_plain {stack : List Node}
    (plain : ∀ node ∈ stack, node.isReference = false) (taken : List Node) :
    takeIndices taken stack = ((none, stack.reverse ++ taken), []) := by
  induction stack generalizing taken with
  | nil => rfl
  | cons top stack ih =>
    obtain ⟨htop, hrest⟩ := List.forall_mem_cons.mp plain
    rw [List.reverse_cons, List.append_assoc]
    cases top with
    | reference place => exact absurd htop (by simp [Node.isReference])
    | _ => exact ih hrest _

/-! ## The rules are the step -/

/-- Each rule is computed. -/
theorem Applies.apply_eq {standIn : Option String} {node : Node} {stack next : List Node}
    (h : Applies standIn node stack next) : node.apply standIn stack = .ok next := by
  cases h with
  | skip => rfl
  | push operand =>
    cases node with
    | binary | unary | element | nop => exact absurd operand (by simp [Node.isOperand])
    | _ => rfl
  | binary => rfl
  | standIn word => subst word; rfl
  | @unary op _ _ _ other =>
    cases op with
    | negate => exact absurd rfl other
    | _ => rfl
  | negate negative => simp only [Node.apply, Node.applyUnary, negative]; rfl
  | element plain =>
    have plain' := fun index h => plain index (List.mem_reverse.mp h)
    simp only [Node.apply, Node.applyElement, takeIndices_append plain', List.reverse_reverse,
      List.append_nil]

/-- Each refusal is computed. -/
theorem Refuses.apply_eq {standIn : Option String} {node : Node} {stack : List Node}
    {fault : ReductionFault} (h : Refuses standIn node stack fault) :
    node.apply standIn stack = .error fault := by
  cases h with
  | empty => rfl
  | single none => subst none; rfl
  | unary other => simp only [Node.apply, Node.applyUnary, if_neg other]
  | negate => rfl
  | negation refused => simp only [Node.apply, Node.applyUnary, refused]; rfl
  | element plain => simp only [Node.apply, Node.applyElement, takeIndices_of_plain plain]

/-- A node follows one of the rules or refuses the stack. -/
theorem applies_or_refuses (standIn : Option String) (node : Node) (stack : List Node) :
    (∃ next, Applies standIn node stack next) ∨ ∃ fault, Refuses standIn node stack fault := by
  cases node with
  | nop => exact .inl ⟨_, .skip⟩
  | binary op negated oldLeft oldRight =>
    match stack with
    | [] => exact .inr ⟨_, .empty⟩
    | [right] =>
      cases standIn with
      | none => exact .inr ⟨_, .single rfl⟩
      | some word => exact .inl ⟨_, .standIn rfl⟩
    | right :: left :: rest => exact .inl ⟨_, .binary⟩
  | unary op old =>
    by_cases other : op = .negate
    · subst other
      cases stack with
      | nil => exact .inr ⟨_, .negate⟩
      | cons top rest =>
        cases negative : top.negate with
        | ok node => exact .inl ⟨_, .negate negative⟩
        | error error => exact .inr ⟨_, .negation negative⟩
    · cases stack with
      | nil => exact .inr ⟨_, .unary other⟩
      | cons top rest => exact .inl ⟨_, .unary other⟩
  | element negated base old =>
    rcases exists_topmost_reference stack with plain | ⟨indices, place, rest, plain, rfl⟩
    · exact .inr ⟨_, .element plain⟩
    · exact .inl ⟨_, .element plain⟩
  | _ => exact .inl ⟨_, .push rfl⟩

/-- A step succeeds exactly by the rules. -/
theorem apply_eq_ok_iff {standIn : Option String} {node : Node} {stack next : List Node} :
    node.apply standIn stack = .ok next ↔ Applies standIn node stack next := by
  constructor
  · intro h
    rcases applies_or_refuses standIn node stack with ⟨other, applies⟩ | ⟨fault, refuses⟩
    · rw [applies.apply_eq] at h
      cases h
      exact applies
    · rw [refuses.apply_eq] at h
      cases h
  · exact Applies.apply_eq

/-- A step fails exactly by the refusals. -/
theorem apply_eq_error_iff {standIn : Option String} {node : Node} {stack : List Node}
    {fault : ReductionFault} :
    node.apply standIn stack = .error fault ↔ Refuses standIn node stack fault := by
  constructor
  · intro h
    rcases applies_or_refuses standIn node stack with ⟨next, applies⟩ | ⟨other, refuses⟩
    · rw [applies.apply_eq] at h
      cases h
    · rw [refuses.apply_eq] at h
      cases h
      exact refuses
  · exact Refuses.apply_eq

/-- A node takes a stack to one stack only. -/
theorem Applies.unique {standIn : Option String} {node : Node} {stack next other : List Node}
    (h : Applies standIn node stack next) (h' : Applies standIn node stack other) :
    next = other := by
  have same := h.apply_eq.symm.trans h'.apply_eq
  cases same
  rfl

end Reduction

end NovelScript
