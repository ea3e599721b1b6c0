import NovelScript.Expr.Operator

/-!
# Opcodes — the table of the expression bytecode

An opcode is a byte. It is declared with a mnemonic, by which reports call it, with a family and
with the layout of the payload of its tokens. What its tokens mean follows from that: an operator is
found by its mnemonic among those of its family, and what kind of literal it is lies in the layout.
A declaration without a meaning makes no opcode, but there is none. A byte that is not in the table
begins no token.
-/

set_option autoImplicit false

namespace NovelScript

/-- How a payload is laid out. -/
inductive Layout where
  /-- No payload. -/
  | none
  /-- Bytes without a meaning. -/
  | any
  | i8
  | i16
  | i32
  | i64
  | f64
  /-- Text in the script's encoding. -/
  | text
  /-- An access mode and a variable id. -/
  | var
  deriving DecidableEq, Repr, Inhabited

/-- The one size that a layout fits, if it has one. -/
def Layout.size? : Layout → Option Nat
  | .none => some 0
  | .any => Option.none
  | .i8 => some 1
  | .i16 => some 2
  | .i32 => some 4
  | .i64 => some 8
  | .f64 => some 8
  | .text => Option.none
  | .var => some 3

/-- What a token stands for. -/
inductive Meaning where
  | nop
  | binary (op : BinaryOp)
  | unary (op : UnaryOp)
  /-- The end of an array access. -/
  | element
  | byte
  | short
  | int
  | long
  | decimal
  | text
  | access
  | reference
  deriving DecidableEq, Repr, Inhabited

/-- A family of opcodes. -/
inductive OpcodeFamily where
  | nop
  | arithmetic
  | relational
  | logical
  | unary
  /-- The end of an array access. -/
  | element
  | literal
  | access
  | reference
  deriving DecidableEq, Repr, Inhabited

/-- An opcode as it is declared. -/
structure OpcodeDeclaration where
  mnemonic : String
  code : UInt8
  family : OpcodeFamily
  layout : Layout
  deriving DecidableEq, Repr, Inhabited

/-- The kind of literal that a payload of a layout is, if it is one. -/
def Layout.literal? : Layout → Option Meaning
  | .i8 => some .byte
  | .i16 => some .short
  | .i32 => some .int
  | .i64 => some .long
  | .f64 => some .decimal
  | .text => some .text
  | .none | .any | .var => Option.none

/-- What the tokens of a declared opcode mean; nothing if its family has no operator of that
mnemonic, or if no literal has that layout. -/
def OpcodeDeclaration.meaning? (d : OpcodeDeclaration) : Option Meaning :=
  match d.family with
  | .nop => some .nop
  | .arithmetic => (ArithmeticOp.ofMnemonic? d.mnemonic).map fun op => .binary (.arithmetic op)
  | .relational => (RelationalOp.ofMnemonic? d.mnemonic).map fun op => .binary (.relational op)
  | .logical => (LogicalOp.ofMnemonic? d.mnemonic).map fun op => .binary (.logical op)
  | .unary => (UnaryOp.ofMnemonic? d.mnemonic).map .unary
  | .element => some .element
  | .literal => d.layout.literal?
  | .access => some .access
  | .reference => some .reference

/-- An entry of the opcode table. -/
structure Opcode where
  mnemonic : String
  code : UInt8
  meaning : Meaning
  layout : Layout
  deriving DecidableEq, Repr, Inhabited

namespace Opcode

/-- The opcodes as they are declared. -/
def declarations : List OpcodeDeclaration := [
  ⟨"nop", 0x2C, .nop, .any⟩,
  ⟨"add", 0x2B, .arithmetic, .none⟩,
  ⟨"sub", 0x2D, .arithmetic, .none⟩,
  ⟨"mul", 0x2A, .arithmetic, .none⟩,
  ⟨"div", 0x2F, .arithmetic, .none⟩,
  ⟨"mod", 0x25, .arithmetic, .none⟩,
  ⟨"eq", 0x3D, .relational, .none⟩,
  ⟨"neq", 0x21, .relational, .none⟩,
  ⟨"lt", 0x3C, .relational, .none⟩,
  ⟨"lte", 0x5A, .relational, .none⟩,
  ⟨"gt", 0x3E, .relational, .none⟩,
  ⟨"gte", 0x53, .relational, .none⟩,
  ⟨"and_also", 0x26, .logical, .none⟩,
  ⟨"or_else", 0x7C, .logical, .none⟩,
  ⟨"bit_and", 0x41, .logical, .none⟩,
  ⟨"bit_or", 0x4F, .logical, .none⟩,
  ⟨"bit_xor", 0x5E, .logical, .none⟩,
  ⟨"negate", 0x52, .unary, .none⟩,
  ⟨"not", 0x4E, .unary, .none⟩,
  ⟨"bit_not", 0x7E, .unary, .none⟩,
  ⟨"array_end", 0x29, .element, .any⟩,
  ⟨"push_i8", 0x42, .literal, .i8⟩,
  ⟨"push_i16", 0x57, .literal, .i16⟩,
  ⟨"push_i32", 0x49, .literal, .i32⟩,
  ⟨"push_i64", 0x4C, .literal, .i64⟩,
  ⟨"push_f64", 0x46, .literal, .f64⟩,
  ⟨"push_str", 0x4D, .literal, .text⟩,
  ⟨"get_var", 0x48, .access, .var⟩,
  ⟨"ref_var", 0x76, .reference, .var⟩]

/-- The opcode of a declaration. -/
def ofDeclaration? (d : OpcodeDeclaration) : Option Opcode :=
  d.meaning?.map fun meaning => ⟨d.mnemonic, d.code, meaning, d.layout⟩

/-- The opcode table. -/
def table : List Opcode := declarations.filterMap ofDeclaration?

/-- Every declaration has a meaning, so all of them are in the table, and in their order. -/
theorem map_some_table : table.map some = declarations.map ofDeclaration? := by decide +kernel

/-- The opcode that a byte is. -/
def ofCode? (code : UInt8) : Option Opcode := table.find? (fun op => op.code == code)

/-- No two opcodes share a byte, so every entry is found under its own. -/
theorem ofCode?_code : ∀ op ∈ table, ofCode? op.code = some op := by decide +kernel

end Opcode

end NovelScript
