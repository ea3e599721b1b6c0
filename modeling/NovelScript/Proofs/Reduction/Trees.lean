import NovelScript.Proofs.Reduction.Postfix

/-!
# Trees — the nodes that reduction builds

Reduction gives every operator its operands and every array access its base, so what it builds has
nothing missing at any depth: no operand, no base, no `nop`, and no reference that still waits for
indices among them. `TreeOf` says this of a node, and besides that every operand in it has a given
property; the base of an array access counts as an operand.

## What is proved

`Postfix.treeOf`: a list of tokens whose operands have a property derives a tree of such operands,
for every property that negation keeps. `Runs.treeOf`: the same of a run in any context, if the
keyword of the assignment has the property too.
-/

set_option autoImplicit false

namespace NovelScript

/-- A complete tree whose operands have a property. Only an arithmetic node can be negated. -/
inductive Node.TreeOf (P : Node → Prop) : Node → Prop
  | operand {node : Node} : node.isOperand = true → P node → TreeOf P node
  | binary {op : BinaryOp} {negated : Bool} {left right : Node} :
      (negated = true → op.isArithmetic = true) → TreeOf P left → TreeOf P right →
      TreeOf P (.binary op negated (some left) (some right))
  | unary {op : UnaryOp} {operand : Node} :
      op ≠ .negate → TreeOf P operand → TreeOf P (.unary op (some operand))
  | element {negated : Bool} {place : Place} {indices : List Node} :
      P (.reference place) → (∀ index ∈ indices, index.isReference = false) →
      (∀ index ∈ indices, TreeOf P index) → TreeOf P (.element negated (some place) indices)

/-- A node of a flat list that may become part of a complete tree: an operand has the property, and
an operator token is not negated yet. -/
def Node.TokenOf (P : Node → Prop) (node : Node) : Prop :=
  (node.isOperand = true → P node) ∧
    match node with
    | .binary _ negated _ _ => negated = false
    | _ => True

namespace Reduction

open Node

/-- A property of operands that negation keeps. -/
def KeptByNegation (P : Node → Prop) : Prop :=
  ∀ node negative : Node, node.isOperand = true → Negates node negative → P node → P negative

/-- The negative of a complete tree is one. -/
theorem Negates.treeOf {P : Node → Prop} {node negative : Node} (h : Negates node negative)
    (keeps : KeptByNegation P) (tree : TreeOf P node) : TreeOf P negative := by
  have negates := h
  cases h with
  | element =>
    cases tree with
    | operand operand => cases operand
    | element base plain indices => exact .element base plain indices
  | arithmetic =>
    cases tree with
    | operand operand => cases operand
    | binary _ left right => exact .binary (fun _ => rfl) left right
  | _ =>
    cases tree with
    | operand operand property => exact .operand rfl (keeps _ _ operand negates property)

mutual

/-- A list of tokens derives a complete tree. -/
theorem Postfix.treeOf {P : Node → Prop} (keeps : KeptByNegation P) {nodes : List Node}
    {tree : Node} (h : Postfix nodes tree) (tokens : ∀ node ∈ nodes, TokenOf P node) :
    TreeOf P tree := by
  match h with
  | .operand operand => exact .operand operand ((tokens _ List.mem_cons_self).1 operand)
  | .binary op negated oldLeft oldRight first second =>
    have unnegated : negated = false :=
      (tokens (.binary op negated oldLeft oldRight) (by simp)).2
    refine .binary (fun h => ?_) (first.treeOf keeps fun node h => tokens node (by simp [h]))
      (second.treeOf keeps fun node h => tokens node (by simp [h]))
    rw [unnegated] at h
    cases h
  | .unary _ _ other operand =>
    exact .unary other (operand.treeOf keeps fun node h => tokens node (by simp [h]))
  | .negate _ operand negative =>
    exact (negate_eq_ok_iff.mp negative).treeOf keeps
      (operand.treeOf keeps fun node h => tokens node (by simp [h]))
  | .element _ _ _ _ indices plain =>
    exact .element ((tokens _ List.mem_cons_self).1 rfl) plain
      (indices.treeOf keeps fun node h => tokens node (by simp [h]))

/-- The same for consecutive lists. -/
theorem PostfixAll.treeOf {P : Node → Prop} (keeps : KeptByNegation P) {nodes trees : List Node}
    (h : PostfixAll nodes trees) (tokens : ∀ node ∈ nodes, TokenOf P node) :
    ∀ tree ∈ trees, TreeOf P tree := by
  match h with
  | .nil => exact fun tree h => absurd h List.not_mem_nil
  | .cons first rest =>
    exact List.forall_mem_cons.mpr
      ⟨first.treeOf keeps fun node h => tokens node (List.mem_append_left _ h),
        rest.treeOf keeps fun node h => tokens node (List.mem_append_right _ h)⟩

end

/-! ## Runs in any context -/

/-- A step leaves complete trees on a stack of complete trees. -/
theorem Applies.treeOf {P : Node → Prop} (keeps : KeptByNegation P) {standIn : Option String}
    (keyword : ∀ word, standIn = some word → P (.keyword word)) {node : Node}
    {stack next : List Node} (h : Applies standIn node stack next) (token : TokenOf P node)
    (trees : ∀ tree ∈ stack, TreeOf P tree) : ∀ tree ∈ next, TreeOf P tree := by
  have unnegated : ∀ {op : BinaryOp} {negated : Bool} {oldLeft oldRight : Option Node},
      node = .binary op negated oldLeft oldRight → negated = true → op.isArithmetic = true := by
    rintro op negated oldLeft oldRight rfl flag
    exact absurd (token.2.symm.trans flag) Bool.false_ne_true
  cases h with
  | skip => exact trees
  | push operand => exact List.forall_mem_cons.mpr ⟨.operand operand (token.1 operand), trees⟩
  | binary =>
    obtain ⟨right, left, rest⟩ := by simpa only [List.forall_mem_cons] using trees
    exact List.forall_mem_cons.mpr ⟨.binary (unnegated rfl) left right, rest⟩
  | standIn word =>
    obtain ⟨right, rest⟩ := List.forall_mem_cons.mp trees
    exact List.forall_mem_cons.mpr
      ⟨.binary (unnegated rfl) (.operand rfl (keyword _ word)) right, rest⟩
  | unary other =>
    obtain ⟨operand, rest⟩ := List.forall_mem_cons.mp trees
    exact List.forall_mem_cons.mpr ⟨.unary other operand, rest⟩
  | negate negative =>
    obtain ⟨operand, rest⟩ := List.forall_mem_cons.mp trees
    exact List.forall_mem_cons.mpr
      ⟨(negate_eq_ok_iff.mp negative).treeOf keeps operand, rest⟩
  | element plain =>
    obtain ⟨indices, rest⟩ := List.forall_mem_append.mp trees
    obtain ⟨base, rest⟩ := List.forall_mem_cons.mp rest
    have place := match base with
      | .operand _ property => property
    exact List.forall_mem_cons.mpr
      ⟨.element place plain fun index h => indices index (List.mem_reverse.mpr h), rest⟩

/-- A run leaves complete trees, in every context. -/
theorem Runs.treeOf {P : Node → Prop} (keeps : KeptByNegation P) {standIn : Option String}
    (keyword : ∀ word, standIn = some word → P (.keyword word)) {stack nodes last : List Node}
    (h : Runs standIn stack nodes last) (tokens : ∀ node ∈ nodes, TokenOf P node)
    (trees : ∀ tree ∈ stack, TreeOf P tree) : ∀ tree ∈ last, TreeOf P tree := by
  induction h with
  | done => exact trees
  | step applies _ ih =>
    obtain ⟨token, rest⟩ := List.forall_mem_cons.mp tokens
    exact ih rest (applies.treeOf keeps keyword token trees)

end Reduction

end NovelScript
