import NovelScript.Proofs.Reduction.Runs

/-!
# Postfix lists — the language that a run accepts

A flat list is in postfix order, and here is what that means without a stack: `Postfix` derives a
tree from a list by one rule per kind of node, each rule putting the lists of the operands in front
of the node that takes them. A run outside assignments accepts exactly the lists that derive a tree,
`nop`s apart, and gives that tree.

Both directions speak of more than whole lists. A derived list takes its tree on top of any stack
(`Postfix.runs`), which is what lets an array token find its own base under the indices of another.
A run from the empty stack cuts the list that it went through into consecutive slices, one for each
node of the stack (`Runs.slices`); a reference on the stack is a slice of its own, and so the array
token closes over whole slices.

## What is proved

`evaluate_plain_eq_ok_iff_derived`: the accepted lists and their trees, each list with one tree at
most.
-/

set_option autoImplicit false

namespace NovelScript.Reduction

/-- A list without its `nop`s. -/
def withoutNops (nodes : List Node) : List Node := nodes.filter fun node => !node.isNop

mutual

/-- The lists in postfix order and the tree of each. What operator and array tokens carry already
has no part in it. -/
inductive Postfix : List Node → Node → Prop
  | operand {node : Node} : node.isOperand = true → Postfix [node] node
  | binary {first second : List Node} {left right : Node} (op : BinaryOp) (negated : Bool)
      (oldLeft oldRight : Option Node) :
      Postfix first left → Postfix second right →
      Postfix (first ++ second ++ [.binary op negated oldLeft oldRight])
        (.binary op negated (some left) (some right))
  | unary {nodes : List Node} {operand : Node} (op : UnaryOp) (old : Option Node) :
      op ≠ .negate → Postfix nodes operand →
      Postfix (nodes ++ [.unary op old]) (.unary op (some operand))
  | negate {nodes : List Node} {operand negative : Node} (old : Option Node) :
      Postfix nodes operand → operand.negate = .ok negative →
      Postfix (nodes ++ [.unary .negate old]) negative
  | element {nodes indices : List Node} (place : Place) (negated : Bool) (base : Option Place)
      (old : List Node) :
      PostfixAll nodes indices → (∀ index ∈ indices, index.isReference = false) →
      Postfix (.reference place :: nodes ++ [.element negated base old])
        (.element false (some place) indices)

/-- Consecutive lists in postfix order and their trees. -/
inductive PostfixAll : List Node → List Node → Prop
  | nil : PostfixAll [] []
  | cons {nodes rest trees : List Node} {tree : Node} :
      Postfix nodes tree → PostfixAll rest trees → PostfixAll (nodes ++ rest) (tree :: trees)

end

/-! ## Derived lists run -/

mutual

/-- A derived list puts its tree on any stack. -/
theorem Postfix.runs {standIn : Option String} {nodes : List Node} {tree : Node}
    (h : Postfix nodes tree) (stack : List Node) : Runs standIn stack nodes (tree :: stack) := by
  match h with
  | .operand operand => exact (Applies.push operand).runs
  | .binary _ _ _ _ first second =>
    exact ((first.runs stack).append (second.runs _)).append Applies.binary.runs
  | .unary _ _ other operand => exact (operand.runs stack).append (Applies.unary other).runs
  | .negate _ operand negative => exact (operand.runs stack).append (Applies.negate negative).runs
  | .element place _ _ _ indices plain =>
    exact .step (.push rfl) ((indices.runs _).append (Applies.element plain).runs)

/-- Derived lists put their trees on any stack, one after the other. -/
theorem PostfixAll.runs {standIn : Option String} {nodes trees : List Node}
    (h : PostfixAll nodes trees) (stack : List Node) :
    Runs standIn stack nodes (trees.reverse ++ stack) := by
  match h with
  | .nil => exact .done
  | .cons first rest =>
    rw [List.reverse_cons, List.append_assoc]
    exact (first.runs stack).append (rest.runs _)

end

/-! ## Slices -/

/-- One more list after consecutive lists. -/
theorem PostfixAll.concat {nodes trees more : List Node} {tree : Node} (h : PostfixAll nodes trees)
    (h' : Postfix more tree) : PostfixAll (nodes ++ more) (trees ++ [tree]) := by
  match h with
  | .nil =>
    have single := PostfixAll.cons h' .nil
    rw [List.append_nil] at single
    exact single
  | .cons first rest =>
    rw [List.append_assoc]
    exact .cons first (rest.concat h')

/-- Trees in two parts come from a list in two parts. -/
theorem PostfixAll.split {nodes back : List Node} :
    ∀ {front : List Node}, PostfixAll nodes (front ++ back) →
      ∃ first second, nodes = first ++ second ∧ PostfixAll first front ∧ PostfixAll second back
  | [], h => ⟨[], nodes, rfl, .nil, h⟩
  | tree :: front, .cons first rest => by
    obtain ⟨second, third, rfl, hsecond, hthird⟩ := rest.split
    exact ⟨_, third, (List.append_assoc ..).symm, .cons first hsecond, hthird⟩

/-- The last tree comes from the end of the list. -/
theorem PostfixAll.split_last {nodes trees : List Node} {tree : Node}
    (h : PostfixAll nodes (trees ++ [tree])) :
    ∃ front last, nodes = front ++ last ∧ PostfixAll front trees ∧ Postfix last tree := by
  obtain ⟨front, last, rfl, hfront, hlast⟩ := h.split
  cases hlast with
  | @cons last _ _ _ first rest =>
    cases rest
    exact ⟨front, last, by rw [List.append_nil], hfront, first⟩

/-- No negative is a reference. -/
theorem isReference_of_negate {node negative : Node} (h : node.negate = .ok negative) :
    negative.isReference = false := by
  cases negate_eq_ok_iff.mp h <;> rfl

/-- Only a reference derives a reference. -/
theorem Postfix.eq_reference {nodes : List Node} {place : Place}
    (h : Postfix nodes (.reference place)) : nodes = [.reference place] := by
  generalize htree : Node.reference place = tree at h
  cases h with
  | operand => rfl
  | negate _ _ negative =>
    subst htree
    exact absurd (isReference_of_negate negative) (by simp [Node.isReference])
  | _ => cases htree

/-- One rule keeps the slices: what the stack in front of a node was derived from, with the node
behind it unless it is a `nop`, derives the stack after it. -/
theorem Applies.slices {node : Node} {stack next slices : List Node}
    (h : Applies none node stack next) (inv : PostfixAll slices stack.reverse) :
    PostfixAll (slices ++ withoutNops [node]) next.reverse := by
  cases h with
  | skip =>
    show PostfixAll (slices ++ []) stack.reverse
    rw [List.append_nil]
    exact inv
  | push operand =>
    have keeps : withoutNops [node] = [node] := by
      cases node with
      | nop => exact absurd operand (by simp [Node.isOperand])
      | _ => rfl
    rw [keeps, List.reverse_cons]
    exact inv.concat (.operand operand)
  | binary =>
    rw [List.reverse_cons, List.reverse_cons] at inv
    obtain ⟨front, second, rfl, hfront, hsecond⟩ := inv.split_last
    obtain ⟨below, first, rfl, hbelow, hfirst⟩ := hfront.split_last
    rw [List.reverse_cons, List.append_assoc, List.append_assoc, ← List.append_assoc first]
    exact hbelow.concat (.binary _ _ _ _ hfirst hsecond)
  | standIn word => cases word
  | unary other =>
    rw [List.reverse_cons] at inv
    obtain ⟨below, operand, rfl, hbelow, hoperand⟩ := inv.split_last
    rw [List.reverse_cons, List.append_assoc]
    exact hbelow.concat (.unary _ _ other hoperand)
  | negate negative =>
    rw [List.reverse_cons] at inv
    obtain ⟨below, operand, rfl, hbelow, hoperand⟩ := inv.split_last
    rw [List.reverse_cons, List.append_assoc]
    exact hbelow.concat (.negate _ hoperand negative)
  | element plain =>
    rw [List.reverse_append, List.reverse_reverse, List.reverse_cons] at inv
    obtain ⟨front, indices, rfl, hfront, hindices⟩ := inv.split
    obtain ⟨below, base, rfl, hbelow, hbase⟩ := hfront.split_last
    rw [hbase.eq_reference, List.reverse_cons, List.append_assoc, List.append_assoc]
    exact hbelow.concat (.element _ _ _ _ hindices plain)

/-- A run cuts its list into slices that derive the stack, bottom first. -/
theorem Runs.slices {stack nodes last slices : List Node} (h : Runs none stack nodes last)
    (inv : PostfixAll slices stack.reverse) :
    PostfixAll (slices ++ withoutNops nodes) last.reverse := by
  induction h generalizing slices with
  | done =>
    show PostfixAll (slices ++ []) _
    rw [List.append_nil]
    exact inv
  | @step node _ _ nodes _ applies _ ih =>
    have split : withoutNops (node :: nodes) = withoutNops [node] ++ withoutNops nodes :=
      List.filter_append [node] nodes
    rw [split, ← List.append_assoc]
    exact ih (applies.slices inv)

/-! ## The accepted language -/

/-- `nop`s make no difference to a run. -/
theorem runs_withoutNops_iff {standIn : Option String} {stack nodes last : List Node} :
    Runs standIn stack (withoutNops nodes) last ↔ Runs standIn stack nodes last := by
  induction nodes generalizing stack with
  | nil => exact Iff.rfl
  | cons node nodes ih =>
    cases node with
    | nop =>
      constructor
      · intro h
        exact .step .skip (ih.mp h)
      · intro h
        cases h with
        | step applies rest =>
          cases applies with
          | skip => exact ih.mpr rest
          | push operand => exact absurd operand (by simp [Node.isOperand])
    | _ =>
      constructor
      · intro h
        cases h with
        | step applies rest => exact .step applies (ih.mp rest)
      · intro h
        cases h with
        | step applies rest => exact .step applies (ih.mpr rest)

/-- A list leads from the empty stack to one node exactly when it derives that node. -/
theorem runs_nil_iff_derived {nodes : List Node} {root : Node} :
    Runs none [] nodes [root] ↔ Postfix (withoutNops nodes) root := by
  constructor
  · intro h
    have inv : PostfixAll ([] ++ withoutNops nodes) ([] ++ [root]) := h.slices .nil
    obtain ⟨front, last, split, hfront, hlast⟩ := inv.split_last
    cases hfront
    rw [List.nil_append, List.nil_append] at split
    rw [split]
    exact hlast
  · intro h
    exact runs_withoutNops_iff.mp (h.runs [])

/-- A list derives one tree at most. -/
theorem Postfix.unique {nodes : List Node} {tree other : Node} (h : Postfix nodes tree)
    (h' : Postfix nodes other) : tree = other := by
  have same := Runs.unique (@Postfix.runs none _ _ h []) (h'.runs [])
  cases same
  rfl

/-- Outside assignments, an evaluation gives a root exactly when the list, without its `nop`s,
derives that root; and a list derives one tree at most. -/
theorem evaluate_plain_eq_ok_iff_derived (scriptId : Int32) (nodes : List Node) :
    (∀ root, evaluate ⟨scriptId, none⟩ nodes = .ok root ↔ Postfix (withoutNops nodes) root) ∧
      ∀ tree other, Postfix (withoutNops nodes) tree → Postfix (withoutNops nodes) other →
        tree = other :=
  ⟨fun _ => evaluate_eq_ok_iff.trans runs_nil_iff_derived, fun _ _ => Postfix.unique⟩

end NovelScript.Reduction
