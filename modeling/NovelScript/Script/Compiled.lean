import NovelScript.Expression.Json

/-!
# Compiled scripts — what the loaders hand over

A compiled script is a list of commands, each a name and a list of expressions, and a list of labels
that point at commands by number. Expressions are bytes; one that is an assignment says what it
assigns to. Labels are in no particular order, several may point at one command, and a label may
point past the last one.

Of a script its id and its source path are required, of a label its name and its command, of a
command its name; an expression may lack everything.
-/

set_option autoImplicit false

namespace NovelScript

/-- A label: its name, and the number of the command that it stands before. -/
structure Label where
  name : String
  command : Nat
  deriving DecidableEq, Repr, Inhabited

/-- An expression in bytes. -/
structure CompiledExpression where
  id : UInt8
  flag : UInt8
  argLoadFn : UInt8
  argLoadOp : UInt8
  /-- What it assigns to, if it is an assignment. -/
  target : Option Target
  /-- The operator that loads the target. -/
  loadOp : Option String
  bytes : List UInt8
  deriving DecidableEq, Repr, Inhabited

/-- The assignment that an expression is, if it is one. -/
def CompiledExpression.assignment (e : CompiledExpression) : Option Assignment :=
  e.target.map fun target => ⟨target, e.loadOp.getD Assignment.defaultLoadOp⟩

/-- A command and its expressions. -/
structure CompiledCommand where
  name : String
  code : UInt32
  lineNumber : UInt32
  labelId : UInt32
  expressions : List CompiledExpression
  deriving DecidableEq, Repr, Inhabited

/-- A script. -/
structure CompiledScript where
  scriptId : Int32
  /-- The path of its source, below the project's sources. -/
  source : String
  labels : List Label
  commands : List CompiledCommand
  deriving DecidableEq, Repr, Inhabited

/-- The record of a label. -/
def Label.record : RecordType Label where
  name := "LabelDump"
  start := ⟨"", 0⟩
  fields := [
    .required "name" Json.readText fun x l => { l with name := x },
    .required "commandIndex" Json.readIndex fun x l => { l with command := x }]

/-- The record of an expression. -/
def CompiledExpression.record : RecordType CompiledExpression where
  name := "ExpressionDump"
  start := ⟨0, 0, 0, 0, none, none, []⟩
  fields := [
    .withDefault "id" Json.readUInt8 fun x e => { e with id := x },
    .withDefault "flag" Json.readUInt8 fun x e => { e with flag := x },
    .withDefault "argLoadFn" Json.readUInt8 fun x e => { e with argLoadFn := x },
    .withDefault "argLoadOp" Json.readUInt8 fun x e => { e with argLoadOp := x },
    .withDefault "info" (Json.readOptional Target.record.read) fun x e => { e with target := x },
    .withDefault "loadOp" (Json.readOptional Json.readText) fun x e => { e with loadOp := x },
    .withDefault "bytes" (Json.readListOf Json.readUInt8) fun x e => { e with bytes := x }]

/-- The record of a command. -/
def CompiledCommand.record : RecordType CompiledCommand where
  name := "CommandDump"
  start := ⟨"", 0, 0, 0, []⟩
  fields := [
    .required "name" Json.readText fun x c => { c with name := x },
    .withDefault "code" Json.readUInt32 fun x c => { c with code := x },
    .withDefault "lineNumber" Json.readUInt32 fun x c => { c with lineNumber := x },
    .withDefault "labelId" Json.readUInt32 fun x c => { c with labelId := x },
    .withDefault "expressions" (Json.readListOf CompiledExpression.record.read) fun x c =>
      { c with expressions := x }]

/-- The record of a script. -/
def CompiledScript.record : RecordType CompiledScript where
  name := "ScriptDump"
  start := ⟨0, "", [], []⟩
  fields := [
    .required "scriptId" Json.readInt32 fun x s => { s with scriptId := x },
    .required "source" Json.readText fun x s => { s with source := x },
    .withDefault "labels" (Json.readListOf Label.record.read) fun x s => { s with labels := x },
    .withDefault "commands" (Json.readListOf CompiledCommand.record.read) fun x s =>
      { s with commands := x }]

end NovelScript
