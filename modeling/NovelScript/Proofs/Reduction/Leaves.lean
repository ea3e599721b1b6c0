import Mathlib.Data.List.Forall2
import NovelScript.Proofs.Reduction.Postfix

/-!
# Leaves — the operands of a tree, from left to right

Reduction moves operands into trees and never drops, doubles or reorders one. The leaves of the tree
that a list derives are therefore the operands of the list in order. A negation token that stands
behind a single operand is the one thing that changes a leaf, and it changes its sign alone, so
leaves and operands agree up to that (`SameUpToSign`).

## What is proved

`Postfix.leaves`: the leaves of a derived tree are the operands of its list.
-/

set_option autoImplicit false

namespace NovelScript

namespace Node

mutual

/-- The operands in a tree, from left to right; the base of an array access comes before its
indices. -/
def leaves : Node → List Node
  | .binary _ _ left right => operandLeaves left ++ operandLeaves right
  | .unary _ operand => operandLeaves operand
  | .element _ base indices => (base.map Node.reference).toList ++ allLeaves indices
  | .nop => []
  | node => [node]

/-- The leaves of an operand; none if it is missing. -/
def operandLeaves : Option Node → List Node
  | none => []
  | some operand => operand.leaves

/-- The leaves of trees, one tree after the other. -/
def allLeaves : List Node → List Node
  | [] => []
  | tree :: rest => tree.leaves ++ allLeaves rest

end

/-- A node and the same node, or its negative. -/
def SameUpToSign (node other : Node) : Prop := node = other ∨ node.negate = .ok other

/-- The leaves of an operand are the operand. -/
theorem leaves_of_isOperand {node : Node} (h : node.isOperand = true) : node.leaves = [node] := by
  cases node with
  | binary | unary | element | nop => cases h
  | _ => rfl

end Node

namespace Reduction

open Node

/-- Signs cancel, so what agrees up to sign twice agrees up to sign. -/
theorem sameUpToSign_of_negate {node other negative : Node} (h : SameUpToSign node other)
    (h' : other.negate = .ok negative) : SameUpToSign node negative := by
  rcases h with rfl | h
  · exact .inr h'
  · rw [negate_negate h] at h'
    cases h'
    exact .inl rfl

/-- Negation takes an operand to an operand and keeps the leaves of everything else. -/
theorem Negates.leaves {node negative : Node} (h : Negates node negative) :
    node.isOperand = true ∧ negative.isOperand = true ∨ negative.leaves = node.leaves := by
  cases h with
  | element => exact .inr rfl
  | arithmetic => exact .inr rfl
  | _ => exact .inl ⟨rfl, rfl⟩

/-- Negation changes no leaf but an operand that it is applied to as a whole. -/
theorem leaves_of_negate {node negative : Node} {operands : List Node}
    (h : node.negate = .ok negative) (leaves : List.Forall₂ SameUpToSign operands node.leaves) :
    List.Forall₂ SameUpToSign operands negative.leaves := by
  rcases (negate_eq_ok_iff.mp h).leaves with ⟨operand, operand'⟩ | same
  · rw [leaves_of_isOperand operand] at leaves
    rw [leaves_of_isOperand operand']
    cases leaves with
    | cons first rest =>
      cases rest
      exact .cons (sameUpToSign_of_negate first h) .nil
  · rw [same]
    exact leaves

/-- An operator or array token at the end of a list is no operand of it. -/
theorem operands_concat {nodes : List Node} {token : Node} (h : token.isOperand = false) :
    (nodes ++ [token]).filter isOperand = nodes.filter isOperand := by
  rw [List.filter_append, List.filter_cons_of_neg (by simp [h]), List.filter_nil, List.append_nil]

mutual

/-- The leaves of a derived tree are the operands of its list, up to sign. -/
theorem Postfix.leaves {nodes : List Node} {tree : Node} (h : Postfix nodes tree) :
    List.Forall₂ SameUpToSign (nodes.filter isOperand) tree.leaves := by
  match h with
  | .operand operand =>
    rw [List.filter_cons_of_pos operand, List.filter_nil, leaves_of_isOperand operand]
    exact .cons (.inl rfl) .nil
  | .binary _ _ _ _ first second =>
    rw [operands_concat rfl, List.filter_append]
    exact List.rel_append first.leaves second.leaves
  | .unary _ _ _ operand =>
    rw [operands_concat rfl]
    exact operand.leaves
  | .negate _ operand negative =>
    rw [operands_concat rfl]
    exact leaves_of_negate negative operand.leaves
  | .element place _ _ _ indices _ =>
    rw [operands_concat rfl, List.filter_cons_of_pos rfl]
    exact .cons (.inl rfl) indices.leaves

/-- The same for consecutive lists. -/
theorem PostfixAll.leaves {nodes trees : List Node} (h : PostfixAll nodes trees) :
    List.Forall₂ SameUpToSign (nodes.filter isOperand) (allLeaves trees) := by
  match h with
  | .nil => exact .nil
  | .cons first rest =>
    rw [List.filter_append]
    exact List.rel_append first.leaves rest.leaves

end

end Reduction

end NovelScript
