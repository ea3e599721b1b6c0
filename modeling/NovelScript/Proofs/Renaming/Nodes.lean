import NovelScript.Proofs.Reduction.Runs

/-!
# Renaming — other texts, variables and keywords in the same nodes

A renaming puts other texts into strings, other records into places and other names into keywords,
and leaves the shape of a node, its operators, flags and numbers alone. Reduction looks at none of
what a renaming changes: it asks for the kind of a node and, where it negates, for the value of a
number. So a run over renamed nodes is the renamed run, step by step, and stops where that stops for
the same reason.

Renamings need not be injective. The one that forgets everything it can is as good as any other, so
what two lists have in common after forgetting decides what their runs have in common.

## What is proved

`Node.apply_rename`: a renamed node does to a renamed stack what the node does to the stack.
`reduce_rename`: reduction commutes with renaming, failures included.
-/

set_option autoImplicit false

namespace NovelScript

/-- What is put into the strings, the places and the keywords of nodes. -/
structure Renaming where
  text : String → String
  var : Variable → Variable
  keyword : String → String

/-- The same mode for another variable. -/
def Place.rename (r : Renaming) (p : Place) : Place := ⟨p.mode, r.var p.var⟩

mutual

/-- The node with other texts, variables and keywords. -/
def Node.rename (r : Renaming) : Node → Node
  | .binary op negated left right =>
    .binary op negated (renameOperand r left) (renameOperand r right)
  | .unary op operand => .unary op (renameOperand r operand)
  | .byte v => .byte v
  | .short v => .short v
  | .int v => .int v
  | .long v => .long v
  | .decimal x => .decimal x
  | .text s => .text (r.text s)
  | .raw s => .raw (r.text s)
  | .reference place => .reference (place.rename r)
  | .access negated place => .access negated (place.rename r)
  | .element negated base indices =>
    .element negated (base.map (Place.rename r)) (renameAll r indices)
  | .keyword name => .keyword (r.keyword name)
  | .nop => .nop

/-- The operand with other texts, variables and keywords, if there is one. -/
def renameOperand (r : Renaming) : Option Node → Option Node
  | none => none
  | some operand => some (operand.rename r)

/-- The nodes with other texts, variables and keywords. -/
def renameAll (r : Renaming) : List Node → List Node
  | [] => []
  | node :: rest => node.rename r :: renameAll r rest

end

theorem renameAll_eq_map (r : Renaming) (nodes : List Node) :
    renameAll r nodes = nodes.map (Node.rename r) := by
  induction nodes with
  | nil => rfl
  | cons node rest ih => rw [renameAll, List.map_cons, ih]

namespace Node

variable (r : Renaming)

@[simp] theorem kind_rename (node : Node) : (node.rename r).kind = node.kind := by
  cases node <;> rfl

@[simp] theorem isBinary_rename (node : Node) : (node.rename r).isBinary = node.isBinary := by
  cases node <;> rfl

/-- Negation renames with the node, and is refused for the same reason. -/
theorem negate_rename (node : Node) : (node.rename r).negate = node.negate.map (rename r) := by
  cases node with
  | byte v =>
    by_cases least : v = Int8.minValue
    · rw [least]
      rfl
    · rw [negate_byte least, rename, negate_byte least]
      rfl
  | short v =>
    by_cases least : v = Int16.minValue
    · rw [least]
      rfl
    · rw [negate_short least, rename, negate_short least]
      rfl
  | binary op => cases op <;> rfl
  | _ => rfl

end Node

/-! ## Steps -/

/-- The topmost reference of a renamed stack is the renamed one, between renamed nodes. -/
theorem Reduction.takeIndices_rename (r : Renaming) (taken stack : List Node) :
    takeIndices (taken.map (Node.rename r)) (stack.map (Node.rename r)) =
      (((takeIndices taken stack).1.1.map (Place.rename r),
        (takeIndices taken stack).1.2.map (Node.rename r)),
        (takeIndices taken stack).2.map (Node.rename r)) := by
  induction stack generalizing taken with
  | nil => rfl
  | cons top rest ih =>
    cases top with
    | reference place => rfl
    | _ => exact ih (_ :: taken)

/-- A renamed node does to a renamed stack what the node does to the stack. -/
theorem Node.apply_rename (r : Renaming) (standIn : Option String) (node : Node)
    (stack : List Node) :
    (node.rename r).apply (standIn.map r.keyword) (stack.map (rename r)) =
      (node.apply standIn stack).map (List.map (rename r)) := by
  cases node with
  | binary op negated =>
    match stack with
    | [] => rfl
    | [right] => cases standIn <;> rfl
    | right :: left :: rest => rfl
  | unary op =>
    cases stack with
    | nil => rfl
    | cons top rest =>
      cases op with
      | negate =>
        simp only [rename, apply, applyUnary, List.map_cons, negate_rename]
        cases top.negate <;> rfl
      | _ => rfl
  | element =>
    have renamed := Reduction.takeIndices_rename r [] stack
    rw [List.map_nil] at renamed
    simp only [rename, apply, applyElement, renamed]
    rcases Reduction.takeIndices [] stack with ⟨⟨none | place, indices⟩, rest⟩
    · rfl
    · simp only [Option.map_some, Except.map, List.map_cons, rename, renameAll_eq_map]
  | _ => rfl

/-! ## Runs -/

namespace Reduction

/-- The halt of the renamed run. -/
def Halt.rename (r : Renaming) (halt : Halt) : Halt :=
  ⟨halt.index, halt.node.rename r, halt.fault, halt.stack.map (Node.rename r)⟩

/-- The failure of the renamed reduction. -/
def Failure.rename (r : Renaming) : Failure → Failure
  | .halted halt => .halted (halt.rename r)
  | .notSingle stack => .notSingle (stack.map (Node.rename r))

/-- The outcome of the renamed reduction. -/
def renameOutcome (r : Renaming) : Except Failure Node → Except Failure Node
  | .ok root => .ok (root.rename r)
  | .error failure => .error (failure.rename r)

/-- A run over renamed nodes goes where the run goes, renamed, or stops where it stops. -/
theorem runFrom_rename (r : Renaming) (standIn : Option String) (index : Nat)
    (stack nodes : List Node) :
    runFrom (standIn.map r.keyword) index (stack.map (Node.rename r))
        (nodes.map (Node.rename r)) =
      ((runFrom standIn index stack nodes).map (List.map (Node.rename r))).mapError
        (Halt.rename r) := by
  induction nodes generalizing index stack with
  | nil => rfl
  | cons node rest ih =>
    simp only [List.map_cons, runFrom, Node.apply_rename]
    cases node.apply standIn stack with
    | error fault => rfl
    | ok next => exact ih (index + 1) next

/-- Reduction of renamed nodes is the renamed reduction. -/
theorem reduce_rename (r : Renaming) (standIn : Option String) (nodes : List Node) :
    reduce (standIn.map r.keyword) (nodes.map (Node.rename r)) =
      renameOutcome r (reduce standIn nodes) := by
  have renamed := runFrom_rename r standIn 0 [] nodes
  rw [List.map_nil] at renamed
  unfold reduce
  rw [renamed]
  cases runFrom standIn 0 [] nodes with
  | error halt => rfl
  | ok stack =>
    rcases stack with _ | ⟨only, _ | ⟨second, rest⟩⟩ <;> rfl

end Reduction

end NovelScript
