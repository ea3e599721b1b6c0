import NovelScript.Expr.Tree
import NovelScript.Proofs.Decimal.Finite
import NovelScript.Proofs.Reduction.Leaves
import NovelScript.Proofs.Tree.Pieces
import NovelScript.Proofs.Wire.Tokens

/-!
# Resolved trees — nothing is missing in what is put out

The tokens that a decoder gives have no operands, and share their type with the nodes of a finished
tree. An expression that was reconstructed holds none of them any more, in whatever context it was
evaluated: reduction gives every operator its operands, and the bytes of a string-typed assignment
are one raw text. Both forms of output follow the tree, so nothing is missing in them either: the
JSON tree holds an object for every node and one for every part of it, under the key of the part and
never `null`, and no piece of the text stands for a gap.

## What is proved

`reconstruct_resolved`: all of this for every expression that is reconstructed from bytes.
-/

set_option autoImplicit false

namespace NovelScript

namespace Node

/-- The nodes at every depth of a tree, the tree itself among them. -/
inductive Within : Node → Node → Prop
  | self {node : Node} : Within node node
  | left {node left : Node} {op : BinaryOp} {negated : Bool} {right : Option Node} :
      Within node left → Within node (.binary op negated (some left) right)
  | right {node right : Node} {op : BinaryOp} {negated : Bool} {left : Option Node} :
      Within node right → Within node (.binary op negated left (some right))
  | operand {node operand : Node} {op : UnaryOp} :
      Within node operand → Within node (.unary op (some operand))
  | index {node index : Node} {negated : Bool} {base : Option Place} {indices : List Node} :
      index ∈ indices → Within node index → Within node (.element negated base indices)

/-- A node has all its parts: a binary operator both operands, a unary one (which is never the
negation) its operand, an array access a base and indices that are no bare references; and it is no
`nop`. -/
def Resolved : Node → Prop
  | .binary _ _ left right => left.isSome = true ∧ right.isSome = true
  | .unary op operand => (op = .not ∨ op = .bitNot) ∧ operand.isSome = true
  | .element _ base indices => base.isSome = true ∧ ∀ index ∈ indices, index.isReference = false
  | .nop => False
  | _ => True

/-- Every node of a complete tree has all its parts. -/
theorem TreeOf.resolved {P : Node → Prop} {root : Node} (h : TreeOf P root) {node : Node}
    (within : node.Within root) : node.Resolved := by
  -- The induction goes from the node out to the root; on every step out, the tree around it is
  -- complete and its part is one of the parts that completeness speaks of.
  induction within with
  | self =>
    cases h with
    | operand operand =>
      cases node with
      | binary | unary | element | nop => cases operand
      | _ => trivial
    | binary => exact ⟨rfl, rfl⟩
    | @unary op _ other =>
      refine ⟨?_, rfl⟩
      cases op with
      | negate => exact absurd rfl other
      | not => exact .inl rfl
      | bitNot => exact .inr rfl
    | element _ plain => exact ⟨rfl, plain⟩
  | left _ ih =>
    cases h with
    | operand operand => cases operand
    | binary _ left _ => exact ih left
  | right _ ih =>
    cases h with
    | operand operand => cases operand
    | binary _ _ right => exact ih right
  | operand _ ih =>
    cases h with
    | operand operand => cases operand
    | unary _ operand => exact ih operand
  | index member _ ih =>
    cases h with
    | operand operand => cases operand
    | element _ _ indices => exact ih (indices _ member)

end Node

namespace Json

/-- The values at every depth of a value, the value itself among them. -/
inductive Within : Json → Json → Prop
  | self {value : Json} : Within value value
  | item {value item : Json} {items : List Json} :
      item ∈ items → Within value item → Within value (.array items)
  | member {value member : Json} {key : String} {members : List (String × Json)} :
      (key, member) ∈ members → Within value member → Within value (.object members)

def isObject : Json → Bool
  | .object _ => true
  | _ => false

/-- Values without values in them. -/
def isAtom : Json → Bool
  | .array _ | .object _ => false
  | _ => true

/-- A property of all values at every depth. -/
def All (P : Json → Prop) (value : Json) : Prop := ∀ part, part.Within value → P part

theorem all_of_isAtom {P : Json → Prop} {value : Json} (atom : value.isAtom = true)
    (here : P value) : value.All P := by
  intro part within
  cases within with
  | self => exact here
  | item => cases atom
  | member => cases atom

theorem all_array {P : Json → Prop} {items : List Json} (here : P (.array items))
    (each : ∀ item ∈ items, item.All P) : (array items).All P := by
  intro part within
  cases within with
  | self => exact here
  | item member within => exact each _ member part within

theorem all_object {P : Json → Prop} {members : List (String × Json)} (here : P (.object members))
    (each : ∀ member ∈ members, member.2.All P) : (object members).All P := by
  intro part within
  cases within with
  | self => exact here
  | member member within => exact each _ member part within

end Json

/-- The keys under which trees hold the trees of their parts. -/
def partKeys : List String := ["left", "operand", "right", "variable"]

/-- What the tree of a complete node may hold in an object or a list: objects alone where the parts
of a node stand, and `null` nowhere but as the value of a decimal literal that is no number and is
one of the given leaves. -/
def Json.HoldsParts (leaves : List Node) : Json → Prop
  | .object members =>
    (∀ key value, (key, value) ∈ members → key ∈ partKeys → value.isObject = true) ∧
      ∀ key, (key, Json.null) ∈ members →
        ∃ x, Node.decimal x ∈ leaves ∧ x.isFinite = false ∧
          Json.object members = (Node.decimal x).tree
  | .array items => Json.null ∉ items
  | _ => True

/-- An object holds another one under a key. -/
def Json.HoldsObject (tree : Json) (key : String) (part : Json) : Prop :=
  tree.get? key = some part ∧ part.isObject = true

/-- The tree of a node holds an object for every part of the node: for both sides of a binary
operator, for what a unary one is applied to, and for the base of an array access, besides the list
of its indices. -/
def Node.ShowsParts (node : Node) : Prop :=
  match node with
  | .binary _ _ left right =>
    ∃ l r, left = some l ∧ right = some r ∧
      node.tree.HoldsObject "left" l.tree ∧ node.tree.HoldsObject "right" r.tree
  | .unary _ operand => ∃ o, operand = some o ∧ node.tree.HoldsObject "operand" o.tree
  | .element _ base indices =>
    ∃ place, base = some place ∧ node.tree.HoldsObject "variable" place.tree ∧
      node.tree.get? "indices" = some (.array (indices.map Node.tree))
  | _ => True

/-! ## The tree of a node -/

theorem BinaryOp.tree_isObject (op : BinaryOp) (negated : Bool) (left right : Json) :
    (op.tree negated left right).isObject = true := by
  cases op <;> rfl

theorem Node.tree_isObject (node : Node) : node.tree.isObject = true := by
  cases node with
  | binary op => simp only [Node.tree, op.tree_isObject]
  | _ => simp only [Node.tree, literalTree, Place.tree, Place.accessTree, Json.isObject]

theorem ne_null_of_isObject {value : Json} (h : value.isObject = true) : value ≠ .null := by
  rintro rfl
  cases h

variable {leaves : List Node}

/-- An object without `null`, and with objects where parts stand, may stand in a tree if its members
may. -/
theorem Json.all_holdsParts_object {members : List (String × Json)}
    (parts : ∀ member ∈ members, member.1 ∈ partKeys → member.2.isObject = true)
    (notNull : ∀ member ∈ members, member.2 ≠ .null)
    (each : ∀ member ∈ members, member.2.All (HoldsParts leaves)) :
    (Json.object members).All (HoldsParts leaves) := by
  refine all_object ⟨fun key value member => parts _ member, fun key member => ?_⟩ each
  exact absurd rfl (notNull _ member)

theorem Json.all_holdsParts_of_isAtom {value : Json} (atom : value.isAtom = true) :
    value.All (HoldsParts leaves) := by
  refine all_of_isAtom atom ?_
  cases value with
  | array | object => cases atom
  | _ => trivial

@[simp] theorem Json.all_holdsParts_string (s : String) :
    (Json.string s).All (HoldsParts leaves) :=
  all_holdsParts_of_isAtom rfl

@[simp] theorem Json.all_holdsParts_int (n : Int) : (Json.int n).All (HoldsParts leaves) :=
  all_holdsParts_of_isAtom rfl

@[simp] theorem Json.all_holdsParts_bool (b : Bool) : (Json.bool b).All (HoldsParts leaves) :=
  all_holdsParts_of_isAtom rfl

@[simp] theorem Json.all_holdsParts_null : Json.null.All (HoldsParts leaves) :=
  all_holdsParts_of_isAtom rfl

/-- The dimensions of a variable are a list of numbers. -/
theorem all_holdsParts_dimensions (dimensions : List UInt32) :
    (Json.array (dimensions.map fun d => .int d.toNat)).All (Json.HoldsParts leaves) := by
  refine Json.all_array (fun null => ?_) fun item member => ?_
  · obtain ⟨d, -, eq⟩ := List.mem_map.mp null
    cases eq
  · obtain ⟨d, -, rfl⟩ := List.mem_map.mp member
    exact Json.all_holdsParts_of_isAtom rfl

theorem Place.all_holdsParts_tree (place : Place) : place.tree.All (Json.HoldsParts leaves) := by
  refine Json.all_holdsParts_object ?_ ?_ ?_
  · simp [partKeys]
  · simp
  · simp [all_holdsParts_dimensions]

theorem Place.all_holdsParts_accessTree (place : Place) (negated : Bool) :
    (place.accessTree negated).All (Json.HoldsParts leaves) := by
  refine Json.all_holdsParts_object ?_ ?_ ?_
  · simp [partKeys]
  · simp
  · simp [all_holdsParts_dimensions]

theorem all_holdsParts_literalTree {width : String} {value : Json} (atom : value.isAtom = true)
    (notNull : value ≠ .null) : (literalTree width value).All (Json.HoldsParts leaves) := by
  refine Json.all_holdsParts_object ?_ ?_ ?_
  · simp [partKeys]
  · simp [notNull]
  · simp [Json.all_holdsParts_of_isAtom atom]

theorem BinaryOp.all_holdsParts_tree (op : BinaryOp) (negated : Bool) {left right : Json}
    (leftObject : left.isObject = true) (rightObject : right.isObject = true)
    (leftParts : left.All (Json.HoldsParts leaves))
    (rightParts : right.All (Json.HoldsParts leaves)) :
    (op.tree negated left right).All (Json.HoldsParts leaves) := by
  cases op <;> refine Json.all_holdsParts_object ?_ ?_ ?_ <;>
    simp [partKeys, leftObject, rightObject, ne_null_of_isObject leftObject,
      ne_null_of_isObject rightObject, leftParts, rightParts]

/-- The one place where a tree may hold `null` is the value of a decimal that is no number. -/
theorem all_holdsParts_decimal {x : Binary64} (leaf : Node.decimal x ∈ leaves) :
    (Node.decimal x).tree.All (Json.HoldsParts leaves) := by
  cases finite : x.isFinite with
  | true =>
    rw [Node.tree, Json.ofDecimal_of_isFinite finite]
    exact all_holdsParts_literalTree rfl (by simp)
  | false =>
    have tree : (Node.decimal x).tree = literalTree "double" .null := by
      rw [Node.tree, Json.ofDecimal_of_not_isFinite finite]
    rw [tree]
    refine Json.all_object ⟨?_, fun key _ => ⟨x, leaf, finite, tree.symm⟩⟩ ?_
    · intro key value member part
      simp only [List.mem_cons, Prod.mk.injEq, List.not_mem_nil, or_false] at member
      rcases member with ⟨rfl, rfl⟩ | ⟨rfl, rfl⟩ | ⟨rfl, rfl⟩ <;> exact absurd part (by decide)
    · simp

theorem indexTrees_eq_map (indices : List Node) : indexTrees indices = indices.map Node.tree := by
  induction indices with
  | nil => rfl
  | cons index rest ih => rw [indexTrees, List.map_cons, ih]

/-- Both sides of a binary operator are members of its tree. -/
theorem BinaryOp.get?_tree (op : BinaryOp) (negated : Bool) (left right : Json) :
    (op.tree negated left right).get? "left" = some left ∧
      (op.tree negated left right).get? "right" = some right := by
  cases op <;> simp [BinaryOp.tree, Json.get?, List.lookup_cons]

/-- What a node has, its tree shows. -/
theorem Node.Resolved.showsParts {node : Node} (h : node.Resolved) : node.ShowsParts := by
  cases node with
  | binary op negated left right =>
    obtain ⟨l, rfl⟩ := Option.isSome_iff_exists.mp h.1
    obtain ⟨r, rfl⟩ := Option.isSome_iff_exists.mp h.2
    obtain ⟨leftShown, rightShown⟩ := op.get?_tree negated l.tree r.tree
    exact ⟨l, r, rfl, rfl,
      ⟨by simpa only [Node.tree, operandTree] using leftShown, l.tree_isObject⟩,
      by simpa only [Node.tree, operandTree] using rightShown, r.tree_isObject⟩
  | unary op operand =>
    obtain ⟨o, rfl⟩ := Option.isSome_iff_exists.mp h.2
    refine ⟨o, rfl, ?_, o.tree_isObject⟩
    simp [Node.tree, operandTree, Json.get?, List.lookup_cons]
  | element negated base indices =>
    obtain ⟨place, rfl⟩ := Option.isSome_iff_exists.mp h.1
    refine ⟨place, rfl, ⟨?_, rfl⟩, ?_⟩
    · simp [Node.tree, Json.get?, List.lookup_cons]
    · simp [Node.tree, Json.get?, indexTrees_eq_map]
  | _ => trivial

/-- A member that is seen is one. -/
theorem Json.Within.of_get? {value tree part : Json} {key : String}
    (held : tree.get? key = some part) (within : value.Within part) : value.Within tree := by
  cases tree with
  | object members =>
    obtain ⟨before, behind, rfl, -⟩ := List.lookup_eq_some_iff.mp held
    exact .member (List.mem_append_right before List.mem_cons_self) within
  | _ => cases held

/-- Where every node has all its parts, the tree of every node stands in the tree of the root. -/
theorem Node.Within.tree {node root : Node} (within : node.Within root)
    (resolved : ∀ inner : Node, inner.Within root → inner.Resolved) :
    node.tree.Within root.tree := by
  induction within with
  | self => exact .self
  | left inside ih =>
    obtain ⟨l, r, same, -, ⟨held, -⟩, -⟩ := (resolved _ .self).showsParts
    cases same
    exact .of_get? held (ih fun inner deeper => resolved inner (.left deeper))
  | right inside ih =>
    obtain ⟨l, r, -, same, -, held, -⟩ := (resolved _ .self).showsParts
    cases same
    exact .of_get? held (ih fun inner deeper => resolved inner (.right deeper))
  | operand inside ih =>
    obtain ⟨o, same, held, -⟩ := (resolved _ .self).showsParts
    cases same
    exact .of_get? held (ih fun inner deeper => resolved inner (.operand deeper))
  | index member inside ih =>
    obtain ⟨place, -, -, listed⟩ := (resolved _ .self).showsParts
    exact .of_get? listed (.item (List.mem_map_of_mem member)
      (ih fun inner deeper => resolved inner (.index member deeper)))

theorem Node.mem_allLeaves {trees : List Node} {tree leaf : Node} (h : tree ∈ trees)
    (inside : leaf ∈ tree.leaves) : leaf ∈ allLeaves trees := by
  induction trees with
  | nil => cases h
  | cons first rest ih =>
    rw [allLeaves, List.mem_append]
    rcases List.mem_cons.mp h with rfl | h
    · exact .inl inside
    · exact .inr (ih h)

/-- What the tree of a complete node holds is as it has to be, at every depth. -/
theorem Node.TreeOf.all_holdsParts {P : Node → Prop} {node : Node} (h : TreeOf P node)
    (own : ∀ leaf ∈ node.leaves, leaf ∈ leaves) : node.tree.All (Json.HoldsParts leaves) := by
  induction h with
  | @operand node operand _ =>
    cases node with
    | binary | unary | element | nop => cases operand
    | byte | short | int | long | text =>
      simp only [Node.tree]
      exact all_holdsParts_literalTree rfl (by simp)
    | decimal x => exact all_holdsParts_decimal (own _ (by simp [Node.leaves]))
    | reference place =>
      simp only [Node.tree]
      exact place.all_holdsParts_tree
    | access negated place =>
      simp only [Node.tree]
      exact place.all_holdsParts_accessTree negated
    | raw | keyword =>
      simp only [Node.tree]
      refine Json.all_holdsParts_object ?_ ?_ ?_ <;>
        simp [partKeys]
  | @binary op negated left right _ _ _ left_ih right_ih =>
    simp only [Node.leaves, operandLeaves] at own
    obtain ⟨leftOwn, rightOwn⟩ := List.forall_mem_append.mp own
    simp only [Node.tree, operandTree]
    exact op.all_holdsParts_tree negated left.tree_isObject right.tree_isObject (left_ih leftOwn)
      (right_ih rightOwn)
  | @unary op operand _ _ ih =>
    simp only [Node.leaves, operandLeaves] at own
    simp only [Node.tree, operandTree]
    refine Json.all_holdsParts_object ?_ ?_ ?_
    · simp [partKeys, operand.tree_isObject]
    · simp [ne_null_of_isObject operand.tree_isObject]
    · simp [ih own]
  | @element negated place indices _ _ _ ih =>
    have list : (Json.array (indexTrees indices)).All (Json.HoldsParts leaves) := by
      rw [indexTrees_eq_map]
      refine Json.all_array (fun null => ?_) fun item member => ?_
      · obtain ⟨index, -, eq⟩ := List.mem_map.mp null
        exact ne_null_of_isObject index.tree_isObject eq
      · obtain ⟨index, inside, rfl⟩ := List.mem_map.mp member
        refine ih index inside fun leaf h => own leaf ?_
        rw [Node.leaves, List.mem_append]
        exact .inr (mem_allLeaves inside h)
    simp only [Node.tree]
    refine Json.all_holdsParts_object ?_ ?_ ?_
    · simp [partKeys, Place.tree, Json.isObject]
    · simp [Place.tree]
    · simp [list, place.all_holdsParts_tree]

/-! ## Reconstructed expressions -/

open Reduction Node

/-- Every property of operands that asks for nothing is kept by negation. -/
theorem keptByNegation_true : KeptByNegation fun _ => True := fun _ _ _ _ _ => trivial

/-- What the decoder gives is no negated operator. -/
theorem tokenOf_of_node {table : VariableTable} {encoding : TextEncoding} {pc : Nat}
    {payload : List UInt8} {meaning : Meaning} {node : Node}
    (h : Decoder.node table encoding pc payload meaning = .ok node) :
    TokenOf (fun _ => True) node := by
  refine ⟨fun _ => trivial, ?_⟩
  cases meaning with
  | binary op => cases h; rfl
  | access | reference =>
    obtain ⟨place, -, rfl⟩ := exists_of_map_eq_ok h
    trivial
  | _ => cases h; trivial

/-- In every context, the root of a decoded list is a complete tree. -/
theorem treeOf_of_evaluate {context : Context} {bytes : List UInt8} {table : VariableTable}
    {encoding : TextEncoding} {root : Node}
    (h : evaluate context ((Decoder.ofTable table encoding).decodeAll bytes).nodes = .ok root) :
    TreeOf (fun _ => True) root := by
  have run := evaluate_eq_ok_iff.mp h
  refine run.treeOf keptByNegation_true (fun _ _ => trivial) (fun node member => ?_)
    (fun _ none => absurd none List.not_mem_nil) root List.mem_cons_self
  obtain ⟨pc, next, read⟩ := Decoder.decode_of_mem_decodeFrom _ _ _ member
  obtain ⟨payload, meaning, meant⟩ := Decoder.node_of_token read
  exact tokenOf_of_node meant

/-- The root of a reconstructed expression is what its decoded list evaluates to, or, if the
expression is text, that text. -/
theorem exists_root_of_reconstruct {bytes : List UInt8} {assignment : Option Assignment}
    {table : VariableTable} {encoding : TextEncoding} {e : Expression}
    (h : reconstruct bytes assignment table encoding = .ok e) :
    ∃ root, e.root = some root ∧
      (evaluate ⟨standaloneScriptId, assignment⟩
          ((Decoder.ofTable table encoding).decodeAll bytes).nodes = .ok root ∨
        root = .raw (encoding.decode bytes)) := by
  obtain ⟨root, loaded, rfl⟩ := exists_of_map_eq_ok h
  unfold Expression.load at loaded ⊢
  split at loaded
  next isString =>
    rw [if_pos isString]
    exact ⟨_, rfl, .inr rfl⟩
  next notString =>
    rw [if_neg notString]
    dsimp only at loaded ⊢
    split at loaded
    next => cases loaded
    next =>
      unfold Expression.evaluate at loaded ⊢
      split at loaded
      next other evaluated => exact ⟨other, rfl, .inl evaluated⟩
      next => cases loaded

/-- Nothing is missing in an expression that was reconstructed from bytes: every node of its root
has all its parts; the JSON tree of the root holds the tree of every node, and that one holds an
object for every part of the node; objects stand wherever the key of a part does, and `null` stands
for nothing but the value of a decimal that is no number; and the pieces that its text is joined
from stand for no gap. -/
theorem reconstruct_resolved {bytes : List UInt8} {assignment : Option Assignment}
    {table : VariableTable} {options : Options} {e : Expression}
    (h : reconstruct bytes assignment table options.encoding = .ok e) :
    ∃ root, e.root = some root ∧
      (∀ node : Node, node.Within root →
        node.Resolved ∧ node.ShowsParts ∧ node.tree.Within root.tree) ∧
      root.tree.isObject = true ∧
      (∀ value : Json, value.Within root.tree → value.HoldsParts root.leaves) ∧
      Piece.joined e.pieces = e.source ∧ ∀ piece ∈ e.pieces, piece.isShown = true := by
  obtain ⟨root, has, tree⟩ : ∃ root, e.root = some root ∧ TreeOf (fun _ => True) root := by
    obtain ⟨root, has, evaluated | rfl⟩ := exists_root_of_reconstruct h
    · exact ⟨root, has, treeOf_of_evaluate evaluated⟩
    · exact ⟨_, has, .operand rfl trivial⟩
  have resolved : ∀ node : Node, node.Within root → node.Resolved := fun _ => tree.resolved
  exact ⟨root, has,
    fun node within => ⟨resolved node within, (resolved node within).showsParts,
      within.tree resolved⟩,
    root.tree_isObject, tree.all_holdsParts fun _ leaf => leaf, e.joined_pieces,
    Expression.pieces_shown has tree⟩

/-- A compound assignment whose value is an array access at an index that is no number: the left
operand of its addition is the keyword, the right one an object with a variable, and the one `null`
of its tree is the index. -/
theorem reconstruct_resolved_keyword :
    let table := VariableTable.ofList [⟨.global, 0, 1, 1, [3], none, none⟩]
    let assignment : Assignment := ⟨⟨some "x", .int⟩, "+="⟩
    let bytes : List UInt8 :=
      [0x76, 3, 0, 0x40, 1, 0, 0x46, 8, 0, 0, 0, 0, 0, 0, 0, 0xF8, 0x7F, 0x29, 0, 0, 0x2B, 0, 0]
    ∃ e, reconstruct bytes (some assignment) table .utf8 = .ok e ∧ e.source = "x+=x+@g1(NaN)" ∧
      ∃ root, e.root = some root ∧
        (∃ left right base, root.tree.HoldsObject "left" left ∧
          left.get? "name" = some (.string "x") ∧ root.tree.HoldsObject "right" right ∧
            right.HoldsObject "variable" base) ∧
        (∀ value : Json, value.Within root.tree → value.HoldsParts root.leaves) ∧
          ∀ piece ∈ e.pieces, piece.isShown = true := by
  intro table assignment bytes
  have rooted : (reconstruct bytes (some assignment) table .utf8).map
      (fun e => (e.source, e.root)) =
      .ok ("x+=x+@g1(NaN)", some (.binary (.arithmetic .add) false (some (.keyword "x"))
        (some (.element false (some ⟨0x40, ⟨.global, 0, 1, 1, [3], none, none⟩⟩)
          [.decimal ⟨0x7FF8000000000000⟩])))) := by
    with_unfolding_all rfl
  obtain ⟨e, done, shown⟩ := exists_of_map_eq_ok rooted
  obtain ⟨source, has⟩ := Prod.mk.inj shown
  obtain ⟨root, has', nodes, -, parts, -, pieces⟩ :=
    @reconstruct_resolved bytes (some assignment) table ⟨.text, .utf8⟩ e done
  cases has.symm.trans has'
  obtain ⟨-, ⟨left, right, isLeft, isRight, leftHeld, rightHeld⟩, -⟩ := nodes _ .self
  cases isLeft
  cases isRight
  obtain ⟨-, ⟨place, -, variableHeld, -⟩, -⟩ := nodes _ (.right .self)
  exact ⟨e, done, source, _, has',
    ⟨_, _, _, leftHeld, rfl, rightHeld, variableHeld⟩, parts, pieces⟩

end NovelScript
