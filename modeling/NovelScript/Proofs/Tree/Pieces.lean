import NovelScript.Expression.Basic
import NovelScript.Proofs.Reduction.Trees

/-!
# Pieces of a text — what is shown and what stands for a gap

A text does not say where it comes from: a question mark may stand for a missing operand, or be a
character of a string or of a name. The pieces of a node's text keep the two apart. They are cut as
the text is, each either shown (a part that is there, or a sign of the syntax) or standing for a
gap, a part that the node lacks; joined they are the text (`Node.joined_pieces`). A gap may leave no
trace at all: a token without any operand is its sign alone.

## What is proved

`TreeOf.pieces_shown`: the text of a complete tree has no gap. `Expression.joined_pieces` and
`Expression.pieces_shown` say the same of the text of an expression.
-/

set_option autoImplicit false

namespace NovelScript

/-- A part of a text: what is shown, or what stands for a part that is missing. -/
inductive Piece where
  | shown (text : String)
  | gap (text : String)
  deriving DecidableEq, Repr

namespace Piece

def text : Piece → String
  | .shown text | .gap text => text

def isShown : Piece → Bool
  | .shown _ => true
  | .gap _ => false

/-- The text of pieces in a row. -/
def joined (pieces : List Piece) : String := String.join (pieces.map text)

@[simp] theorem joined_nil : joined [] = "" := String.join_nil

@[simp] theorem joined_cons (piece : Piece) (pieces : List Piece) :
    joined (piece :: pieces) = piece.text ++ joined pieces := by
  rw [joined, List.map_cons, String.join_cons, joined]

@[simp] theorem joined_append (pieces more : List Piece) :
    joined (pieces ++ more) = joined pieces ++ joined more := by
  rw [joined, List.map_append, String.join_append, joined, joined]

@[simp] theorem text_shown (s : String) : (shown s).text = s := rfl

@[simp] theorem text_gap (s : String) : (gap s).text = s := rfl

/-- Lists of pieces with a comma between any two. -/
def separated : List (List Piece) → List Piece
  | [] => []
  | [pieces] => pieces
  | pieces :: next :: rest => pieces ++ .shown "," :: separated (next :: rest)

theorem joined_separated (parts : List (List Piece)) :
    joined (separated parts) = String.intercalate "," (parts.map joined) := by
  induction parts with
  | nil => rw [separated, joined_nil, List.map_nil, String.intercalate_nil]
  | cons pieces rest ih =>
    cases rest with
    | nil => rw [separated, List.map_cons, List.map_nil, String.intercalate_singleton]
    | cons next rest =>
      simp only [List.map_cons] at ih ⊢
      rw [separated, joined_append, joined_cons, ih, String.intercalate_cons_cons, text_shown,
        String.append_assoc]

theorem mem_separated {piece : Piece} {parts : List (List Piece)} (h : piece ∈ separated parts) :
    piece = .shown "," ∨ ∃ pieces ∈ parts, piece ∈ pieces := by
  induction parts with
  | nil => exact absurd h List.not_mem_nil
  | cons pieces rest ih =>
    cases rest with
    | nil => exact .inr ⟨pieces, List.mem_cons_self, h⟩
    | cons next rest =>
      rcases List.mem_append.mp h with first | later
      · exact .inr ⟨pieces, List.mem_cons_self, first⟩
      · rcases List.mem_cons.mp later with rfl | later
        · exact .inl rfl
        · rcases ih later with comma | ⟨others, member, inside⟩
          · exact .inl comma
          · exact .inr ⟨others, List.mem_cons_of_mem _ member, inside⟩

end Piece

open Piece

/-- The pieces of an operator with its operands; a token has a gap on each side, of which its text
shows nothing. -/
def BinaryOp.pieces (op : BinaryOp) : Option (List Piece) → Option (List Piece) → List Piece
  | none, none => [.gap "", .shown op.symbol, .gap ""]
  | left, right => left.getD [.gap "?"] ++ .shown op.symbol :: right.getD [.gap "?"]

/-- The text of the pieces is the text between operands. -/
theorem BinaryOp.joined_pieces (op : BinaryOp) (left right : Option (List Piece)) :
    joined (op.pieces left right) = op.between (left.map joined) (right.map joined) := by
  cases left <;> cases right <;>
    simp [pieces, between, String.append_assoc]

mutual

/-- The pieces of a node's text. -/
def Node.pieces : Node → List Piece
  | .binary op negated left right =>
    let parts := op.pieces (operandPieces? left) (operandPieces? right)
    if op.isArithmetic && negated then .shown "-(" :: parts ++ [.shown ")"] else parts
  | .unary op operand => .shown op.symbol :: (operandPieces? operand).getD [.gap ""]
  | .element _ none _ => [.gap ")"]
  | .element negated (some base) indices =>
    .shown (minusIf negated ++ base.text ++ "(") :: separated (indexPieces indices) ++ [.shown ")"]
  | .nop => []
  | node => [.shown node.source]

/-- The pieces of an operand, in brackets if it is binary. -/
def operandPieces? : Option Node → Option (List Piece)
  | none => none
  | some operand =>
    some (if operand.isBinary then .shown "(" :: operand.pieces ++ [.shown ")"] else operand.pieces)

/-- The pieces of indices. -/
def indexPieces : List Node → List (List Piece)
  | [] => []
  | index :: rest => index.pieces :: indexPieces rest

end

theorem indexPieces_eq_map (indices : List Node) :
    indexPieces indices = indices.map Node.pieces := by
  induction indices with
  | nil => rfl
  | cons index rest ih => rw [indexPieces, List.map_cons, ih]

mutual

/-- The pieces of a node, joined, are its text. -/
theorem Node.joined_pieces : ∀ node : Node, joined node.pieces = node.source
  | .binary op negated left right => by
    have parts : joined (op.pieces (operandPieces? left) (operandPieces? right)) =
        op.between (operandText? left) (operandText? right) := by
      rw [BinaryOp.joined_pieces, joined_operandPieces? left, joined_operandPieces? right]
    simp only [Node.pieces, Node.source]
    split
    next => simp [parts, String.append_assoc]
    next => exact parts
  | .unary op operand => by
    rw [Node.source, ← joined_operandPieces? operand, Node.pieces, joined_cons, text_shown]
    cases operandPieces? operand <;> simp
  | .element _ none _ => by simp [Node.pieces, Node.source]
  | .element negated (some base) indices => by
    simp [Node.pieces, Node.source, joined_separated, map_joined_indexPieces indices,
      String.append_assoc]
  | .byte _ | .short _ | .int _ | .long _ | .decimal _ | .text _ | .raw _ | .reference _
  | .access _ _ | .keyword _ | .nop => by simp [Node.pieces, Node.source]

/-- The same for an operand. -/
theorem joined_operandPieces? : ∀ operand : Option Node,
    (operandPieces? operand).map joined = operandText? operand
  | none => by simp [operandPieces?, operandText?]
  | some operand => by
    simp only [operandPieces?, operandText?, Option.map_some, bracketsIf]
    split <;> simp [operand.joined_pieces, String.append_assoc]

/-- The same for indices. -/
theorem map_joined_indexPieces : ∀ indices : List Node,
    (indexPieces indices).map joined = indexTexts indices
  | [] => by simp [indexPieces, indexTexts]
  | index :: rest => by
    simp [indexPieces, indexTexts, index.joined_pieces, map_joined_indexPieces rest]

end

/-! ## Complete trees -/

/-- Whether none of the pieces stands for a gap. -/
def AllShown (pieces : List Piece) : Prop := ∀ piece ∈ pieces, piece.isShown = true

theorem allShown_cons {s : String} {pieces : List Piece} (h : AllShown pieces) :
    AllShown (.shown s :: pieces) :=
  List.forall_mem_cons.mpr ⟨rfl, h⟩

theorem AllShown.concat {pieces : List Piece} (h : AllShown pieces) (s : String) :
    AllShown (pieces ++ [.shown s]) :=
  List.forall_mem_append.mpr ⟨h, List.forall_mem_singleton.mpr rfl⟩

/-- An operand without gaps has none in its brackets. -/
theorem allShown_operandPieces? {operand : Node} (h : AllShown operand.pieces) :
    ∃ pieces, operandPieces? (some operand) = some pieces ∧ AllShown pieces := by
  refine ⟨_, operandPieces?.eq_2 operand, ?_⟩
  split
  next => exact allShown_cons (h.concat ")")
  next => exact h

theorem allShown_separated {parts : List (List Piece)} (h : ∀ pieces ∈ parts, AllShown pieces) :
    AllShown (separated parts) := by
  intro piece member
  rcases mem_separated member with rfl | ⟨pieces, inside, member⟩
  · rfl
  · exact h pieces inside piece member

/-- The text of a complete tree has no gap. -/
theorem Node.TreeOf.pieces_shown {P : Node → Prop} {node : Node} (h : TreeOf P node) :
    AllShown node.pieces := by
  induction h with
  | @operand node operand _ =>
    cases node with
    | binary | unary | element | nop => cases operand
    | _ => exact List.forall_mem_singleton.mpr rfl
  | @binary op negated left right _ _ _ left_ih right_ih =>
    obtain ⟨leftPieces, leftEq, leftShown⟩ := allShown_operandPieces? left_ih
    obtain ⟨rightPieces, rightEq, rightShown⟩ := allShown_operandPieces? right_ih
    have parts : AllShown (op.pieces (some leftPieces) (some rightPieces)) :=
      List.forall_mem_append.mpr ⟨leftShown, allShown_cons rightShown⟩
    simp only [Node.pieces, leftEq, rightEq]
    split
    next => exact allShown_cons (parts.concat ")")
    next => exact parts
  | @unary op operand _ _ ih =>
    obtain ⟨pieces, eq, shown⟩ := allShown_operandPieces? ih
    simp only [Node.pieces, eq]
    exact allShown_cons shown
  | @element negated place indices _ _ _ ih =>
    have each : ∀ pieces ∈ indexPieces indices, AllShown pieces := by
      intro pieces member
      rw [indexPieces_eq_map] at member
      obtain ⟨index, inside, rfl⟩ := List.mem_map.mp member
      exact ih index inside
    simp only [Node.pieces]
    exact allShown_cons ((allShown_separated each).concat ")")

/-! ## Expressions -/

namespace Expression

/-- The pieces of an expression's text: keyword and load operator, the root, the array mark. -/
def pieces (e : Expression) : List Piece :=
  match e.root with
  | none => []
  | some root =>
    match e.assignment.bind fun a => a.keyword?.map (·, a.loadOp) with
    | some (keyword, loadOp) =>
      .shown keyword :: .shown loadOp :: root.pieces ++ [.shown (arrayMark root)]
    | none => root.pieces

/-- The pieces of an expression, joined, are its text. -/
theorem joined_pieces (e : Expression) : joined e.pieces = e.source := by
  cases has : e.root with
  | none => simp only [pieces, source, has, joined_nil]
  | some root =>
    cases lead : e.assignment.bind fun a => a.keyword?.map (·, a.loadOp) with
    | none => simp only [pieces, source, has, lead, root.joined_pieces]
    | some words =>
      simp [pieces, source, has, lead, root.joined_pieces, String.append_assoc]

/-- The text of an expression with a complete root has no gap. -/
theorem pieces_shown {P : Node → Prop} {e : Expression} {root : Node} (has : e.root = some root)
    (h : Node.TreeOf P root) : AllShown e.pieces := by
  unfold pieces
  rw [has]
  dsimp only
  split
  next => exact allShown_cons (allShown_cons (h.pieces_shown.concat _))
  next => exact h.pieces_shown

end Expression

end NovelScript
