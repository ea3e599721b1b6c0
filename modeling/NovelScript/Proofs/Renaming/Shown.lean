import NovelScript.Expr.Tree
import NovelScript.Proofs.Renaming.Outcomes

/-!
# What is shown — renamings that nobody sees

A text, a tree and a report show a variable by its name, its dimensions and a few numbers, and never
ask for the rest. A renaming that leaves these alone, and texts and keywords too, is not seen
(`Unseen`): all that is made of a node is made of the renamed one. So two expressions that such a
renaming makes one are shown alike, and so are two errors, down to the report.

## What is proved

`Node.source_rename`, `Node.tree_rename`: text and tree of a node renamed.
`shown_eq_of_loadedAlike`: what is loaded alike up to a renaming that is not seen is shown alike.
-/

set_option autoImplicit false

namespace NovelScript

/-- A renaming that leaves texts, keywords and what is shown of variables alone. -/
structure Renaming.Unseen (r : Renaming) : Prop where
  text : ∀ s, r.text s = s
  keyword : ∀ s, r.keyword s = s
  displayName : ∀ v, (r.var v).displayName = v.displayName
  scope : ∀ v, (r.var v).scope = v.scope
  scriptIndex : ∀ v, (r.var v).scriptIndex = v.scriptIndex
  id : ∀ v, (r.var v).id = v.id
  typeCode : ∀ v, (r.var v).typeCode = v.typeCode
  dimensions : ∀ v, (r.var v).dimensions = v.dimensions

variable {r : Renaming}

/-! ## Places -/

namespace Place

variable (unseen : r.Unseen) (place : Place)

include unseen

theorem text_rename : (place.rename r).text = place.text := by
  rw [text, rename, unseen.displayName]
  rfl

theorem tree_rename : (place.rename r).tree = place.tree := by
  simp only [tree, rename, mark, unseen.displayName, unseen.scope, unseen.scriptIndex, unseen.id,
    unseen.typeCode, unseen.dimensions]

theorem accessTree_rename (negated : Bool) :
    (place.rename r).accessTree negated = place.accessTree negated := by
  simp only [accessTree, rename, mark, unseen.displayName, unseen.scope, unseen.scriptIndex,
    unseen.id, unseen.typeCode, unseen.dimensions]

end Place

/-! ## Nodes -/

mutual

/-- A renamed node has the text of the node. -/
theorem Node.source_rename (unseen : r.Unseen) : ∀ node : Node, (node.rename r).source = node.source
  | .binary op negated left right => by
    rw [Node.rename, Node.source, Node.source, operandText?_rename unseen left,
      operandText?_rename unseen right]
  | .unary op operand => by
    rw [Node.rename, Node.source, Node.source, operandText?_rename unseen operand]
  | .text s | .raw s => by rw [Node.rename, unseen.text]
  | .reference place | .access negated place => by
    rw [Node.rename, Node.source, Node.source, place.text_rename unseen]
  | .element negated none indices => rfl
  | .element negated (some base) indices => by
    rw [Node.rename, Option.map_some, Node.source, Node.source, base.text_rename unseen,
      indexTexts_rename unseen indices]
  | .keyword name => by rw [Node.rename, unseen.keyword]
  | .byte _ | .short _ | .int _ | .long _ | .decimal _ | .nop => rfl

theorem operandText?_rename (unseen : r.Unseen) :
    ∀ operand : Option Node, operandText? (renameOperand r operand) = operandText? operand
  | none => rfl
  | some operand => by
    rw [renameOperand, operandText?, operandText?, operand.source_rename unseen,
      Node.isBinary_rename]

theorem indexTexts_rename (unseen : r.Unseen) :
    ∀ indices : List Node, indexTexts (renameAll r indices) = indexTexts indices
  | [] => rfl
  | index :: rest => by
    rw [renameAll, indexTexts, indexTexts, index.source_rename unseen,
      indexTexts_rename unseen rest]

end

mutual

/-- A renamed node has the tree of the node. -/
theorem Node.tree_rename (unseen : r.Unseen) : ∀ node : Node, (node.rename r).tree = node.tree
  | .binary op negated left right => by
    rw [Node.rename, Node.tree, Node.tree, operandTree_rename unseen left,
      operandTree_rename unseen right]
  | .unary op operand => by
    rw [Node.rename, Node.tree, Node.tree, operandTree_rename unseen operand]
  | .text s | .raw s => by rw [Node.rename, unseen.text]
  | .reference place => by rw [Node.rename, Node.tree, Node.tree, place.tree_rename unseen]
  | .access negated place => by
    rw [Node.rename, Node.tree, Node.tree, place.accessTree_rename unseen]
  | .element negated none indices => by
    rw [Node.rename, Option.map_none, Node.tree, Node.tree, indexTrees_rename unseen indices]
  | .element negated (some base) indices => by
    rw [Node.rename, Option.map_some, Node.tree, Node.tree, indexTrees_rename unseen indices,
      base.tree_rename unseen]
  | .keyword name => by rw [Node.rename, unseen.keyword]
  | .byte _ | .short _ | .int _ | .long _ | .decimal _ | .nop => rfl

theorem operandTree_rename (unseen : r.Unseen) :
    ∀ operand : Option Node, operandTree (renameOperand r operand) = operandTree operand
  | none => rfl
  | some operand => by rw [renameOperand, operandTree, operandTree, operand.tree_rename unseen]

theorem indexTrees_rename (unseen : r.Unseen) :
    ∀ indices : List Node, indexTrees (renameAll r indices) = indexTrees indices
  | [] => rfl
  | index :: rest => by
    rw [renameAll, indexTrees, indexTrees, index.tree_rename unseen, indexTrees_rename unseen rest]

end

namespace Node

variable (unseen : r.Unseen)

include unseen

/-- A renamed node is as much of an array as the node. -/
theorem arrayMark_rename (node : Node) :
    Expression.arrayMark (node.rename r) = Expression.arrayMark node := by
  cases node with
  | reference place | access negated place =>
    have array : (r.var place.var).isArray = place.var.isArray :=
      congrArg (fun dimensions : List UInt32 => !dimensions.isEmpty) (unseen.dimensions place.var)
    exact congrArg (fun array : Bool => if array then "()" else "") array
  | _ => rfl

theorem snapshot_rename (node : Node) : (node.rename r).snapshot = node.snapshot := by
  rw [snapshot, kind_rename, source_rename unseen, snapshot]

theorem map_snapshot_rename (nodes : List Node) :
    (nodes.map (rename r)).map snapshot = nodes.map snapshot := by
  rw [List.map_map]
  exact List.map_congr_left fun node _ => snapshot_rename unseen node

end Node

/-! ## Expressions -/

/-- What is printed of an expression: its text, and its tree. -/
def Expression.shown (e : Expression) : String × Json := (e.source, operandTree e.root)

theorem Expression.shown_rooted_rename (unseen : r.Unseen) (e : Expression) (root : Node) :
    (e.rooted (root.rename r)).shown = (e.rooted root).shown := by
  simp only [shown, source, rooted, operandTree, root.source_rename unseen, root.tree_rename unseen,
    root.arrayMark_rename unseen]

namespace ExpressionError

variable {context : Context}

/-- A renamed failure over renamed nodes is reported as the failure. -/
theorem ofFailure_rename (unseen : r.Unseen) (nodes : List Node) (failure : Reduction.Failure) :
    ofFailure context (nodes.map (Node.rename r)) (failure.rename r) =
      ofFailure context nodes failure := by
  have lists := fun nodes => Node.map_snapshot_rename unseen nodes
  rcases failure with ⟨index, node, fault, stack⟩ | stack
  · have current := node.snapshot_rename unseen
    cases fault with
    | negation error =>
      cases error <;>
        simp only [Reduction.Failure.rename, Reduction.Halt.rename, ofFailure, Report.capture,
          Option.map_some, Option.map_none, lists, current]
    | _ =>
      simp only [Reduction.Failure.rename, Reduction.Halt.rename, ofFailure, Report.capture,
        Option.map_some, lists, current]
  · simp only [Reduction.Failure.rename, ofFailure, Report.capture, lists, List.length_map,
      Option.map_none]

theorem ofDecoding_rename (unseen : r.Unseen) (nodes : List Node) (error : DecodeError) :
    ofDecoding context (nodes.map (Node.rename r)) error = ofDecoding context nodes error := by
  rw [ofDecoding, Report.capture, Node.map_snapshot_rename unseen]
  rfl

end ExpressionError

/-- What is loaded alike up to a renaming that is not seen is shown alike, errors included. -/
theorem shown_eq_of_loadedAlike (unseen : r.Unseen) {context : Context} {e : Expression}
    {x y : Except ExpressionError Node} (alike : LoadedAlike r r context context x y) :
    (x.map e.rooted).map Expression.shown = (y.map e.rooted).map Expression.shown := by
  cases alike with
  | @root root root' same =>
    have shown : (e.rooted root).shown = (e.rooted root').shown := by
      rw [← e.shown_rooted_rename unseen, same, e.shown_rooted_rename unseen]
    exact congrArg Except.ok shown
  | @failure nodes nodes' failure failure' same failures =>
    have reported : ExpressionError.ofFailure context nodes failure =
        ExpressionError.ofFailure context nodes' failure' := by
      rw [← ExpressionError.ofFailure_rename unseen, same, failures,
        ExpressionError.ofFailure_rename unseen]
    exact congrArg Except.error reported
  | @undecoded nodes nodes' error same =>
    have reported : ExpressionError.ofDecoding context nodes error =
        ExpressionError.ofDecoding context nodes' error := by
      rw [← ExpressionError.ofDecoding_rename unseen, same,
        ExpressionError.ofDecoding_rename unseen]
    exact congrArg Except.error reported

end NovelScript
