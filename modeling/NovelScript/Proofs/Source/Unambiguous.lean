import NovelScript.Expression.Basic
import NovelScript.Proofs.Source.RoundTrip
import NovelScript.Proofs.Wire.Tokens

/-!
# Unambiguous text — equal texts, equal trees

Where source text can be read back, equal texts come from equal trees, as far as text shows a tree.
A string literal with a quote in it cannot be read back, nor can a variable under a declared name,
since a name may be any text; variables are marked by `@` and `$` alone in source text, although the
bytecode has room for any mode. Outside of these, brackets, signs, negated nodes and lists of
indices never let two trees look alike.

What a decoder gives are tokens that reduction completes, so the tree of an expression that was
reconstructed from bytes is a complete tree of the table's variables.

## What is proved

`source_eq_iff_outline_eq`: two expressions that are reconstructed from bytes have one text exactly
when their roots have one outline.
-/

set_option autoImplicit false

namespace NovelScript.Source

open Node Reduction

/-- A node whose strings and marks can be read back: a string has no quote, and a variable is marked
by `@` or `$`. -/
def Writable : Node → Prop
  | .text s => '"' ∉ s.toList
  | .reference place | .access _ place => place.mode = 0x40 ∨ place.mode = 0x24
  | _ => True

/-- What the decoder gives is legible as far as it is writable. -/
theorem tokenOf_node {table : VariableTable} {encoding : TextEncoding} {pc : Nat}
    {payload : List UInt8} {meaning : Meaning} {node : Node}
    (h : Decoder.node table encoding pc payload meaning = .ok node) (writable : Writable node) :
    TokenOf (Legible table) node := by
  cases meaning with
  | access =>
    obtain ⟨place, result, rfl⟩ := exists_of_map_eq_ok h
    exact ⟨fun _ => ⟨writable, Decoder.var_mem_of_place result⟩, trivial⟩
  | reference =>
    obtain ⟨place, result, rfl⟩ := exists_of_map_eq_ok h
    exact ⟨fun _ => ⟨writable, Decoder.var_mem_of_place result⟩, trivial⟩
  | binary op => cases h; exact ⟨fun operand => (by cases operand), rfl⟩
  | unary op => cases h; exact ⟨fun operand => (by cases operand), trivial⟩
  | element => cases h; exact ⟨fun operand => (by cases operand), trivial⟩
  | text => cases h; exact ⟨fun _ => writable, trivial⟩
  | _ => cases h; exact ⟨fun _ => trivial, trivial⟩

/-- Negation keeps an operand legible: an access stays at its place. -/
theorem keptByNegation_legible (table : VariableTable) : KeptByNegation (Legible table) := by
  intro node negative operand negates legible
  cases negates with
  | access => exact legible
  | element => cases operand
  | arithmetic => cases operand
  | _ => trivial

/-! ## Reconstructed expressions -/

/-- An expression that is reconstructed without an assignment has the tree that its decoded nodes
derive, and the text of that tree. -/
theorem root_of_reconstruct {bytes : List UInt8} {table : VariableTable}
    {encoding : TextEncoding} {e : Expression}
    (h : reconstruct bytes none table encoding = .ok e) :
    ∃ root,
      Postfix (withoutNops ((Decoder.ofTable table encoding).decodeAll bytes).nodes) root ∧
        e.root = some root ∧ e.source = root.source := by
  obtain ⟨root, loaded, rfl⟩ := exists_of_map_eq_ok h
  have plain : (Expression.fresh standaloneScriptId none).isString = false := rfl
  simp only [Expression.load, plain, Bool.false_eq_true, if_false] at loaded ⊢
  split at loaded
  next => cases loaded
  next =>
    simp only [Expression.evaluate] at loaded ⊢
    split at loaded
    next other derived =>
      exact ⟨other, runs_nil_iff_derived.mp (evaluate_eq_ok_iff.mp derived), rfl, rfl⟩
    next => cases loaded

/-- The tree of a reconstructed expression is complete, and its operands are legible if the decoded
nodes are writable. -/
theorem treeOf_decoded {bytes : List UInt8} {table : VariableTable} {encoding : TextEncoding}
    {root : Node}
    (writable : ∀ node ∈ ((Decoder.ofTable table encoding).decodeAll bytes).nodes, Writable node)
    (h : Postfix (withoutNops ((Decoder.ofTable table encoding).decodeAll bytes).nodes) root) :
    TreeOf (Legible table) root := by
  refine h.treeOf (keptByNegation_legible table) fun node member => ?_
  have decoded := (List.mem_filter.mp member).1
  obtain ⟨pc, next, read⟩ := Decoder.decode_of_mem_decodeFrom _ _ _ decoded
  obtain ⟨payload, meaning, meant⟩ := Decoder.node_of_token read
  exact tokenOf_node meant (writable node decoded)

/-- Two expressions over one table without declared names, reconstructed without an assignment from
writable tokens, have one text exactly when their roots have one outline: when the trees are equal
up to the width of numbers and up to whether a variable without indices was a reference or an
access. -/
theorem source_eq_iff_outline_eq {table : VariableTable} {encoding : TextEncoding}
    (unnamed : ∀ v ∈ table.toList, hasName v = false) {first second : List UInt8}
    {e e' : Expression}
    (firstWritable :
      ∀ node ∈ ((Decoder.ofTable table encoding).decodeAll first).nodes, Writable node)
    (secondWritable :
      ∀ node ∈ ((Decoder.ofTable table encoding).decodeAll second).nodes, Writable node)
    (he : reconstruct first none table encoding = .ok e)
    (he' : reconstruct second none table encoding = .ok e') :
    ∃ root root', e.root = some root ∧ e'.root = some root' ∧
      (e.source = e'.source ↔ root.outline = root'.outline) := by
  obtain ⟨root, derived, hroot, text⟩ := root_of_reconstruct he
  obtain ⟨root', derived', hroot', text'⟩ := root_of_reconstruct he'
  refine ⟨root, root', hroot, hroot', ?_⟩
  rw [text, text']
  constructor
  · intro same
    have read := read_source unnamed (treeOf_decoded firstWritable derived)
    have read' := read_source unnamed (treeOf_decoded secondWritable derived')
    rw [same, read'] at read
    exact (Option.some.inj read).symm
  · intro same
    rw [← root.source_outline, same, root'.source_outline]

/-- The negated sum of a reference and a byte and that of an access and a short have one text, and
so one outline. -/
theorem source_eq_iff_outline_eq_negated_sum :
    let table := VariableTable.ofList [⟨.global, 0, 1, 1, [], none, none⟩]
    let first : List UInt8 := [0x76, 3, 0, 0x40, 1, 0, 0x42, 1, 0, 2, 0x2B, 0, 0, 0x52, 0, 0]
    let second : List UInt8 := [0x48, 3, 0, 0x40, 1, 0, 0x57, 2, 0, 2, 0, 0x2B, 0, 0, 0x52, 0, 0]
    ∃ e e', reconstruct first none table .utf8 = .ok e ∧
      reconstruct second none table .utf8 = .ok e' ∧ e.source = "-(@g1+2)" ∧
        ∃ root root', e.root = some root ∧ e'.root = some root' ∧ root.outline = root'.outline := by
  intro table first second
  have unnamed : ∀ v ∈ table.toList, hasName v = false := by decide
  let place : Place := ⟨0x40, ⟨.global, 0, 1, 1, [], none, none⟩⟩
  let tail : List Node := [.binaryToken (.arithmetic .add), .unaryToken .negate]
  -- The decoder recurses on what is left of the bytes, so evaluating it unfolds everything.
  have nodes : ((Decoder.ofTable table .utf8).decodeAll first).nodes =
      .reference place :: .byte 2 :: tail := by with_unfolding_all rfl
  have nodes' : ((Decoder.ofTable table .utf8).decodeAll second).nodes =
      .access false place :: .short 2 :: tail := by with_unfolding_all rfl
  have text : (reconstruct first none table .utf8).map Expression.source = .ok "-(@g1+2)" := by
    with_unfolding_all rfl
  have text' : (reconstruct second none table .utf8).map Expression.source = .ok "-(@g1+2)" := by
    with_unfolding_all rfl
  obtain ⟨e, he, source⟩ := exists_of_map_eq_ok text
  obtain ⟨e', he', source'⟩ := exists_of_map_eq_ok text'
  obtain ⟨root, root', hroot, hroot', same⟩ := source_eq_iff_outline_eq unnamed
    (by rw [nodes]; simp [Writable, tail, place, binaryToken, unaryToken])
    (by rw [nodes']; simp [Writable, tail, place, binaryToken, unaryToken]) he he'
  exact ⟨e, e', he, he', source, root, root', hroot, hroot', same.mp (source.trans source'.symm)⟩

end NovelScript.Source
