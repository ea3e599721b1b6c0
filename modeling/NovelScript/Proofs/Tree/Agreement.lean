import NovelScript.Proofs.Json.Form
import NovelScript.Proofs.Tree.Resolved

/-!
# Agreement — what the JSON tree of a node keeps

The JSON tree of a node leaves out three things, all of them on purpose: which value a decimal has
that is no number, since JSON can write none of them; the initial value of a variable; and whether
the name that a variable is shown by was declared or made up. Two trees agree if they differ in
nothing else.

A tree tells the kind of its node by one or two words. Kinds share a word in some places (six kinds
of literals are one, and a reference is written alike inside an array access and alone), operators
of different families share symbols, and of the three flags of negation only those are written that
can be set. None of this hides a difference in a complete tree, so from equal forms agreement is
proved one node at a time.

## What is proved

`tree_form_eq_iff_agrees`: the roots of two decoded lists have one JSON form exactly when they
agree, and then, if the first has no decimal that is no number, they have one text.
-/

set_option autoImplicit false

namespace NovelScript

/-- Variables that agree in all that a tree writes of them: the name that is shown stands for the
declared one, and the initial value is left out. -/
structure Variable.Agrees (v w : Variable) : Prop where
  scope : v.scope = w.scope
  scriptIndex : v.scriptIndex = w.scriptIndex
  id : v.id = w.id
  typeCode : v.typeCode = w.typeCode
  dimensions : v.dimensions = w.dimensions
  displayName : v.displayName = w.displayName

/-- Variables that agree, under one mode. -/
structure Place.Agrees (p q : Place) : Prop where
  mode : p.mode = q.mode
  var : p.var.Agrees q.var

namespace Node

/-- Complete trees of one shape whose nodes are equal, except that variables need only agree, and
that a decimal which is no number may stand for any other. -/
inductive Agrees : Node → Node → Prop
  | same {node : Node} : node.isOperand = true → Agrees node node
  | noNumber {x y : Binary64} : x.isFinite = false → y.isFinite = false →
      Agrees (.decimal x) (.decimal y)
  | reference {place place' : Place} : place.Agrees place' →
      Agrees (.reference place) (.reference place')
  | access {negated : Bool} {place place' : Place} : place.Agrees place' →
      Agrees (.access negated place) (.access negated place')
  | binary {op : BinaryOp} {negated : Bool} {left left' right right' : Node} :
      Agrees left left' → Agrees right right' →
      Agrees (.binary op negated (some left) (some right))
        (.binary op negated (some left') (some right'))
  | unary {op : UnaryOp} {operand operand' : Node} : Agrees operand operand' →
      Agrees (.unary op (some operand)) (.unary op (some operand'))
  | element {negated : Bool} {base base' : Place} {indices indices' : List Node} :
      base.Agrees base' → indices.length = indices'.length →
      (∀ pair ∈ indices.zip indices', Agrees pair.1 pair.2) →
      Agrees (.element negated (some base) indices) (.element negated (some base') indices')

end Node

/-! ## Places -/

/-- No two modes have one mark. -/
theorem Place.mode_eq_of_mark_eq {p q : Place} (same : p.mark = q.mark) : p.mode = q.mode := by
  have code : ∀ n : UInt8, (Char.ofNat n.toNat).toNat = n.toNat := by
    intro n
    have small := n.toNat_lt
    have valid : n.toNat.isValidChar := .inl (by omega)
    rw [Char.ofNat, dif_pos valid]
    rfl
  exact UInt8.toNat_inj.mp (by rw [← code p.mode, ← code q.mode]; exact congrArg Char.toNat same)

theorem Scope.word_inj {s t : Scope} (same : s.word = t.word) : s = t := by
  cases s <;> cases t <;> first | rfl | exact absurd same (by decide)

theorem dimensions_form_inj {ds es : List UInt32}
    (same : (Json.array (ds.map fun d => .int d.toNat)).form =
      (Json.array (es.map fun d => .int d.toNat)).form) : ds = es := by
  rw [Json.form, Json.form, Json.itemForms_eq_map, Json.itemForms_eq_map, List.map_map,
    List.map_map, JsonForm.array.injEq] at same
  refine List.map_injective_iff.mpr (fun d e equal => ?_) same
  simp only [Function.comp_apply, Json.form, JsonForm.number.injEq] at equal
  exact UInt32.toNat_inj.mp (Int.natCast_inj.mp (Json.wholeText_inj equal))

/-- What a tree writes of a place, in the order of the keys. -/
theorem Place.agrees_iff {p q : Place} : p.Agrees q ↔
    (Json.array (p.var.dimensions.map fun d => .int d.toNat)).form =
        (Json.array (q.var.dimensions.map fun d => .int d.toNat)).form ∧
      String.singleton p.mark = String.singleton q.mark ∧
      p.var.displayName = q.var.displayName ∧ p.var.scope.word = q.var.scope.word ∧
      Json.wholeText p.var.scriptIndex.toInt = Json.wholeText q.var.scriptIndex.toInt ∧
      Json.wholeText p.var.typeCode.toNat = Json.wholeText q.var.typeCode.toNat ∧
      Json.wholeText p.var.id.toNat = Json.wholeText q.var.id.toNat := by
  constructor
  · intro h
    rw [h.var.dimensions, mark, h.mode, h.var.displayName, h.var.scope, h.var.scriptIndex,
      h.var.typeCode, h.var.id, mark]
    simp
  · rintro ⟨dimensions, mode, name, scope, scriptIndex, typeCode, id⟩
    have mark : p.mark = q.mark := by simpa [← String.toList_inj] using mode
    exact
      { mode := mode_eq_of_mark_eq mark
        var :=
          { scope := Scope.word_inj scope
            scriptIndex := Int32.toInt_inj.mp (Json.wholeText_inj scriptIndex)
            id := UInt16.toNat_inj.mp (Int.natCast_inj.mp (Json.wholeText_inj id))
            typeCode := UInt8.toNat_inj.mp (Int.natCast_inj.mp (Json.wholeText_inj typeCode))
            dimensions := dimensions_form_inj dimensions
            displayName := name } }

theorem Place.tree_form_eq_iff {p q : Place} : p.tree.form = q.tree.form ↔ p.Agrees q := by
  rw [agrees_iff]
  simp only [tree, Json.form, Json.memberForms, JsonForm.object.injEq, List.cons.injEq,
    Prod.mk.injEq, true_and, and_true, JsonForm.string.injEq, JsonForm.number.injEq]

theorem Place.accessTree_form_eq_iff {p q : Place} {negated negated' : Bool} :
    (p.accessTree negated).form = (q.accessTree negated').form ↔
      negated = negated' ∧ p.Agrees q := by
  rw [agrees_iff]
  simp only [accessTree, Json.form, Json.memberForms, JsonForm.object.injEq, List.cons.injEq,
    Prod.mk.injEq, true_and, and_true, JsonForm.string.injEq, JsonForm.number.injEq,
    JsonForm.bool.injEq]
  tauto

theorem Place.Agrees.text_eq {p q : Place} (h : p.Agrees q) : p.text = q.text := by
  rw [text, text, mark, mark, h.mode, h.var.displayName]

/-! ## Kinds -/

/-- The words under `kind` and `literalType` in the tree of a node of this kind. -/
def NodeKind.tags : NodeKind → String × Option String
  | .arithmetic => ("Arithmetic", none)
  | .relational => ("Relational", none)
  | .logical => ("Logical", none)
  | .unary => ("Unary", none)
  | .byte => ("Literal", some "byte")
  | .short => ("Literal", some "short")
  | .int => ("Literal", some "int")
  | .long => ("Literal", some "long")
  | .decimal => ("Literal", some "double")
  | .text => ("Literal", some "string")
  | .raw => ("RawString", none)
  | .reference => ("VariableRef", none)
  | .access => ("VariableAccess", none)
  | .element => ("ArrayAccess", none)
  | .keyword => ("KeywordRef", none)
  | .nop => ("Nop", none)

/-- The two words together tell all kinds apart. -/
theorem NodeKind.tags_inj {k l : NodeKind} (same : k.tags = l.tags) : k = l := by
  cases k <;> cases l <;> first | rfl | exact absurd same (by decide)

theorem Node.tags_form (node : Node) :
    node.tree.form.get? "kind" = some (.string node.kind.tags.1) ∧
      node.tree.form.get? "literalType" = node.kind.tags.2.map .string := by
  cases node with
  | binary op => cases op <;> exact ⟨rfl, rfl⟩
  | _ => exact ⟨rfl, rfl⟩

/-- Trees of one form are of nodes of one kind. -/
theorem Node.kind_eq_of_form_eq {a b : Node} (same : a.tree.form = b.tree.form) :
    a.kind = b.kind := by
  obtain ⟨kind, width⟩ := a.tags_form
  obtain ⟨kind', width'⟩ := b.tags_form
  rw [same, kind', Option.some.injEq, JsonForm.string.injEq] at kind
  rw [same, width'] at width
  have widths := Option.map_injective (fun s t equal => JsonForm.string.inj equal) width
  exact NodeKind.tags_inj (Prod.ext kind.symm widths.symm)

/-- Two nodes of one constructor. -/
inductive Node.Alike : Node → Node → Prop
  | binary {op op' : BinaryOp} {negated negated' : Bool} {left left' right right' : Option Node} :
      op.kind = op'.kind → Alike (.binary op negated left right) (.binary op' negated' left' right')
  | unary {op op' : UnaryOp} {operand operand' : Option Node} :
      Alike (.unary op operand) (.unary op' operand')
  | byte {v w : Int8} : Alike (.byte v) (.byte w)
  | short {v w : Int16} : Alike (.short v) (.short w)
  | int {v w : Int32} : Alike (.int v) (.int w)
  | long {v w : Int64} : Alike (.long v) (.long w)
  | decimal {x y : Binary64} : Alike (.decimal x) (.decimal y)
  | text {s t : String} : Alike (.text s) (.text t)
  | raw {s t : String} : Alike (.raw s) (.raw t)
  | reference {p q : Place} : Alike (.reference p) (.reference q)
  | access {negated negated' : Bool} {p q : Place} : Alike (.access negated p) (.access negated' q)
  | element {negated negated' : Bool} {base base' : Option Place} {indices indices' : List Node} :
      Alike (.element negated base indices) (.element negated' base' indices')
  | keyword {name name' : String} : Alike (.keyword name) (.keyword name')
  | nop : Alike .nop .nop

theorem Node.alike_of_kind_eq {a b : Node} (same : a.kind = b.kind) : a.Alike b := by
  cases a with
  | binary op =>
    cases b with
    | binary op' => exact .binary same
    | _ => cases op <;> cases same
  | _ =>
    cases b with
    | binary op' => cases op' <;> cases same
    | _ => first | constructor | cases same

/-! ## Operators -/

theorem ArithmeticOp.symbol_inj {op op' : ArithmeticOp} (same : op.symbol = op'.symbol) :
    op = op' := by
  cases op <;> cases op' <;> first | rfl | exact absurd same (by decide)

theorem RelationalOp.symbol_inj {op op' : RelationalOp} (same : op.symbol = op'.symbol) :
    op = op' := by
  cases op <;> cases op' <;> first | rfl | exact absurd same (by decide)

theorem LogicalOp.symbol_inj {op op' : LogicalOp} (same : op.symbol = op'.symbol) : op = op' := by
  cases op <;> cases op' <;> first | rfl | exact absurd same (by decide)

theorem UnaryOp.name_inj {op op' : UnaryOp} (same : op.name = op'.name) : op = op' := by
  cases op <;> cases op' <;> first | rfl | exact absurd same (by decide)

/-- The tree of a binary node tells the operator within its family, the operands, and, where a node
can be negated, whether it is. -/
theorem BinaryOp.of_tree_form_eq {op op' : BinaryOp} {negated negated' : Bool}
    {left left' right right' : Json} (family : op.kind = op'.kind)
    (same : (op.tree negated left right).form = (op'.tree negated' left' right').form) :
    op = op' ∧ (op.isArithmetic = true → negated = negated') ∧ left.form = left'.form ∧
      right.form = right'.form := by
  cases op <;> cases op' <;> try cases family
  all_goals
    simp only [BinaryOp.tree, Json.form, Json.memberForms, JsonForm.object.injEq, List.cons.injEq,
      Prod.mk.injEq, true_and, and_true, JsonForm.string.injEq, JsonForm.bool.injEq] at same
  next =>
    obtain ⟨left, negated, symbol, right⟩ := same
    exact ⟨congrArg _ (ArithmeticOp.symbol_inj symbol), fun _ => negated, left, right⟩
  next =>
    obtain ⟨left, symbol, right⟩ := same
    exact ⟨congrArg _ (RelationalOp.symbol_inj symbol), fun no => (by cases no), left, right⟩
  next =>
    obtain ⟨left, symbol, right⟩ := same
    exact ⟨congrArg _ (LogicalOp.symbol_inj symbol), fun no => (by cases no), left, right⟩

/-! ## Trees -/

/-- Lists are mapped to one list exactly when they are as long and agree place by place. -/
theorem map_eq_map_iff_zip {α β : Type} {f : α → β} {xs ys : List α} :
    xs.map f = ys.map f ↔
      xs.length = ys.length ∧ ∀ pair ∈ xs.zip ys, f pair.1 = f pair.2 := by
  induction xs generalizing ys with
  | nil => cases ys <;> simp
  | cons x xs ih =>
    cases ys with
    | nil => simp
    | cons y ys =>
      rw [List.map_cons, List.map_cons, List.cons.injEq, ih, List.zip_cons_cons,
        List.forall_mem_cons, List.length_cons, List.length_cons, Nat.add_right_cancel_iff]
      tauto

theorem literalTree_form_eq_iff {width : String} {value value' : Json} :
    (literalTree width value).form = (literalTree width value').form ↔
      value.form = value'.form := by
  simp [literalTree, Json.form, Json.memberForms]

theorem literalTree_int_form_inj {width : String} {m n : Int}
    (same : (literalTree width (.int m)).form = (literalTree width (.int n)).form) : m = n := by
  rw [literalTree_form_eq_iff, Json.form, Json.form, JsonForm.number.injEq] at same
  exact Json.wholeText_inj same

namespace Node

/-- The forms of indices, place by place. -/
theorem indexTrees_form_eq_iff {indices indices' : List Node} :
    (Json.array (indexTrees indices)).form = (Json.array (indexTrees indices')).form ↔
      indices.length = indices'.length ∧
        ∀ pair ∈ indices.zip indices', pair.1.tree.form = pair.2.tree.form := by
  rw [Json.form, Json.form, Json.itemForms_eq_map, Json.itemForms_eq_map, JsonForm.array.injEq,
    indexTrees_eq_map, indexTrees_eq_map, List.map_map, List.map_map, map_eq_map_iff_zip]
  rfl

theorem element_form_eq_iff {negated negated' : Bool} {base base' : Place}
    {indices indices' : List Node} :
    (element negated (some base) indices).tree.form =
        (element negated' (some base') indices').tree.form ↔
      negated = negated' ∧ base.Agrees base' ∧ indices.length = indices'.length ∧
        ∀ pair ∈ indices.zip indices', pair.1.tree.form = pair.2.tree.form := by
  rw [← indexTrees_form_eq_iff, ← Place.tree_form_eq_iff]
  simp only [Node.tree, Json.form, Json.memberForms, JsonForm.object.injEq, List.cons.injEq,
    Prod.mk.injEq, true_and, and_true, JsonForm.bool.injEq, JsonForm.array.injEq]
  tauto

/-- An operand agrees with every node of its form. -/
theorem agrees_of_isOperand {a b : Node} (operand : a.isOperand = true)
    (same : a.tree.form = b.tree.form) : a.Agrees b := by
  cases alike_of_kind_eq (kind_eq_of_form_eq same) with
  | binary | unary | element | nop => cases operand
  | byte =>
    simp only [Node.tree] at same
    cases Int8.toInt_inj.mp (literalTree_int_form_inj same)
    exact .same rfl
  | short =>
    simp only [Node.tree] at same
    cases Int16.toInt_inj.mp (literalTree_int_form_inj same)
    exact .same rfl
  | int =>
    simp only [Node.tree] at same
    cases Int32.toInt_inj.mp (literalTree_int_form_inj same)
    exact .same rfl
  | long =>
    simp only [Node.tree] at same
    cases Int64.toInt_inj.mp (literalTree_int_form_inj same)
    exact .same rfl
  | decimal =>
    simp only [Node.tree] at same
    rcases Json.ofDecimal_form_inj (literalTree_form_eq_iff.mp same) with rfl | ⟨hx, hy⟩
    · exact .same rfl
    · exact .noNumber hx hy
  | text | raw | keyword =>
    simp only [Node.tree, literalTree, Json.form, Json.memberForms, JsonForm.object.injEq,
      List.cons.injEq, Prod.mk.injEq, true_and, and_true, JsonForm.string.injEq] at same
    cases same
    exact .same rfl
  | reference =>
    simp only [Node.tree] at same
    exact .reference (Place.tree_form_eq_iff.mp same)
  | access =>
    simp only [Node.tree] at same
    obtain ⟨rfl, agrees⟩ := Place.accessTree_form_eq_iff.mp same
    exact .access agrees

/-- Complete trees of one form agree. -/
theorem TreeOf.agrees_of_form_eq {P Q : Node → Prop} {a b : Node} (ha : TreeOf P a)
    (hb : TreeOf Q b) (same : a.tree.form = b.tree.form) : a.Agrees b := by
  induction ha generalizing b with
  | operand operand _ => exact agrees_of_isOperand operand same
  | @binary op negated _ _ flag _ _ left_ih right_ih =>
    cases alike_of_kind_eq (kind_eq_of_form_eq same) with
    | @binary _ _ _ negated' _ _ _ _ family =>
    cases hb with
    | operand operand => cases operand
    | binary flag' left' right' =>
      simp only [Node.tree, operandTree] at same
      obtain ⟨rfl, negation, left, right⟩ := BinaryOp.of_tree_form_eq family same
      -- Only arithmetic nodes write the flag; no other node of a complete tree has it set.
      have equal : negated = negated' := by
        cases arithmetic : op.isArithmetic with
        | true => exact negation arithmetic
        | false =>
          have plain : ∀ {flagged : Bool}, (flagged = true → op.isArithmetic = true) →
              flagged = false := fun flag =>
            Bool.eq_false_iff.mpr fun yes => Bool.false_ne_true (arithmetic.symm.trans (flag yes))
          exact (plain flag).trans (plain flag').symm
      cases equal
      exact .binary (left_ih left' left) (right_ih right' right)
  | unary other operand ih =>
    cases alike_of_kind_eq (kind_eq_of_form_eq same) with
    | unary =>
    cases hb with
    | operand operand => cases operand
    | unary other' operand' =>
      simp only [Node.tree, operandTree, Json.form, Json.memberForms, JsonForm.object.injEq,
        List.cons.injEq, Prod.mk.injEq, true_and, and_true, JsonForm.string.injEq] at same
      cases UnaryOp.name_inj same.1
      exact .unary (ih operand' same.2)
  | element base plain indices ih =>
    cases alike_of_kind_eq (kind_eq_of_form_eq same) with
    | element =>
    cases hb with
    | operand operand => cases operand
    | element _ _ indices' =>
      obtain ⟨rfl, agrees, length, pairs⟩ := element_form_eq_iff.mp same
      refine .element agrees length fun pair member => ?_
      obtain ⟨first, second⟩ := List.of_mem_zip member
      exact ih _ first (indices' _ second) (pairs pair member)

/-- Trees that agree have one form. -/
theorem Agrees.form_eq {a b : Node} (h : a.Agrees b) : a.tree.form = b.tree.form := by
  induction h with
  | same => rfl
  | noNumber hx hy =>
    simp only [Node.tree, Json.ofDecimal_of_not_isFinite hx, Json.ofDecimal_of_not_isFinite hy]
  | reference agrees =>
    simp only [Node.tree]
    exact Place.tree_form_eq_iff.mpr agrees
  | access agrees =>
    simp only [Node.tree]
    exact Place.accessTree_form_eq_iff.mpr ⟨rfl, agrees⟩
  | @binary op _ _ _ _ _ _ _ left right =>
    cases op <;>
      simp only [Node.tree, operandTree, BinaryOp.tree, Json.form, Json.memberForms, left, right]
  | unary _ operand =>
    simp only [Node.tree, operandTree, Json.form, Json.memberForms, operand]
  | element agrees length _ pairs =>
    exact element_form_eq_iff.mpr ⟨rfl, agrees, length, pairs⟩

theorem Agrees.isBinary_eq {a b : Node} (h : a.Agrees b) : a.isBinary = b.isBinary := by
  cases h <;> rfl

theorem indexTexts_eq_map (indices : List Node) : indexTexts indices = indices.map source := by
  induction indices with
  | nil => rfl
  | cons index rest ih => rw [indexTexts, List.map_cons, ih]

/-- Trees that agree have one text, if every decimal in the first is a number. -/
theorem Agrees.source_eq {a b : Node} (h : a.Agrees b)
    (numbers : ∀ x, decimal x ∈ a.leaves → x.isFinite = true) : a.source = b.source := by
  induction h with
  | same => rfl
  | @noNumber x _ hx hy =>
    have number := numbers x (by simp [Node.leaves])
    rw [hx] at number
    cases number
  | reference agrees => simp only [Node.source, agrees.text_eq]
  | access agrees => simp only [Node.source, agrees.text_eq]
  | binary left right left_ih right_ih =>
    simp only [Node.leaves, operandLeaves, List.mem_append] at numbers
    have first := left_ih fun x member => numbers x (.inl member)
    have second := right_ih fun x member => numbers x (.inr member)
    simp only [Node.source, operandText?, left.isBinary_eq, right.isBinary_eq, first, second]
  | unary operand ih =>
    simp only [Node.leaves, operandLeaves] at numbers
    simp only [Node.source, operandText?, operand.isBinary_eq, ih numbers]
  | @element _ _ _ indices indices' agrees length _ ih =>
    have texts : indexTexts indices = indexTexts indices' := by
      rw [indexTexts_eq_map, indexTexts_eq_map, map_eq_map_iff_zip]
      refine ⟨length, fun pair member => ih pair member fun x leaf => numbers x ?_⟩
      rw [Node.leaves, List.mem_append]
      exact .inr (mem_allLeaves (List.of_mem_zip member).1 leaf)
    simp only [Node.source, agrees.text_eq, texts]

end Node

/-! ## Evaluated expressions -/

/-- Over decoded lists, whatever bytes, tables, encodings and contexts they come from: two roots
have one JSON form exactly when they agree, and then they have one text if every decimal in the
first is a number. -/
theorem tree_form_eq_iff_agrees {context context' : Context} {bytes bytes' : List UInt8}
    {table table' : VariableTable} {encoding encoding' : TextEncoding} {a b : Node}
    (ha : evaluate context ((Decoder.ofTable table encoding).decodeAll bytes).nodes = .ok a)
    (hb : evaluate context' ((Decoder.ofTable table' encoding').decodeAll bytes').nodes = .ok b) :
    (a.tree.form = b.tree.form ↔ a.Agrees b) ∧
      (a.tree.form = b.tree.form → (∀ x, Node.decimal x ∈ a.leaves → x.isFinite = true) →
        a.source = b.source) := by
  have agrees : a.tree.form = b.tree.form → a.Agrees b :=
    (treeOf_of_evaluate ha).agrees_of_form_eq (treeOf_of_evaluate hb)
  exact ⟨⟨agrees, Node.Agrees.form_eq⟩, fun same numbers => (agrees same).source_eq numbers⟩

/-- A variable without a name, and one whose declared name is the one that would be made up and that
has an initial value: the sums of either with the same decimal have one form and one text. -/
theorem tree_form_eq_iff_agrees_declared :
    let unnamed := VariableTable.ofList [⟨.global, 0, 1, 2, [], none, none⟩]
    let declared := VariableTable.ofList [⟨.global, 0, 1, 2, [], some "g1", some (.int 7)⟩]
    let bytes : List UInt8 :=
      [0x48, 3, 0, 0x40, 1, 0, 0x46, 8, 0, 0, 0, 0, 0, 0, 0, 0xE0, 0x3F, 0x2B, 0, 0]
    ∃ a b, evaluate ⟨0, none⟩ ((Decoder.ofTable unnamed .utf8).decodeAll bytes).nodes = .ok a ∧
      evaluate ⟨1, none⟩ ((Decoder.ofTable declared .utf8).decodeAll bytes).nodes = .ok b ∧
        a.tree.form = b.tree.form ∧ a.source = b.source := by
  intro unnamed declared bytes
  let half : Binary64 := ⟨0x3FE0000000000000⟩
  let sum (v : Variable) : Node :=
    .binary (.arithmetic .add) false (some (.access false ⟨0x40, v⟩)) (some (.decimal half))
  let v : Variable := ⟨.global, 0, 1, 2, [], none, none⟩
  let w : Variable := ⟨.global, 0, 1, 2, [], some "g1", some (.int 7)⟩
  have first : evaluate ⟨0, none⟩ ((Decoder.ofTable unnamed .utf8).decodeAll bytes).nodes =
      .ok (sum v) := by with_unfolding_all rfl
  have second : evaluate ⟨1, none⟩ ((Decoder.ofTable declared .utf8).decodeAll bytes).nodes =
      .ok (sum w) := by with_unfolding_all rfl
  obtain ⟨form, text⟩ := tree_form_eq_iff_agrees first second
  have agrees : v.Agrees w := ⟨rfl, rfl, rfl, rfl, rfl, by with_unfolding_all rfl⟩
  have same := form.mpr (.binary (.access ⟨rfl, agrees⟩) (.same rfl))
  refine ⟨_, _, first, second, same, text same fun x member => ?_⟩
  simp only [sum, Node.leaves, Node.operandLeaves, List.mem_append, List.mem_singleton] at member
  rcases member with impossible | equal
  · cases impossible
  · cases equal
    decide

end NovelScript
