import NovelScript.Expression.Basic
import NovelScript.Script.Labels
import NovelScript.Script.Nesting

/-!
# Scripts — commands with their expressions reconstructed

A script is reconstructed command by command and expression by expression, each expression from its
own bytes and nothing else. The first one that fails is the failure of the script, and the failure
says where it stands. Every command takes the labels that wait for it, and carries them and the
depth at which it is printed.
-/

set_option autoImplicit false

namespace NovelScript

/-- A reconstructed expression of a command. -/
structure ScriptExpression where
  id : UInt8
  flag : UInt8
  argLoadFn : UInt8
  argLoadOp : UInt8
  expression : Expression
  deriving Inhabited

/-- A reconstructed command. -/
structure Command where
  index : Nat
  name : String
  code : UInt32
  labelId : UInt32
  lineNumber : UInt32
  /-- The depth at which the command is printed. -/
  nest : Nat
  /-- The labels that point at the command. -/
  labels : List String
  expressions : List ScriptExpression
  deriving Inhabited

/-- A reconstructed script. -/
structure Script where
  scriptId : Int32
  source : String
  commands : List Command
  deriving Inhabited

/-- The expression of a script that could not be reconstructed. -/
structure ScriptError where
  scriptId : Int32
  commandIndex : Nat
  command : String
  expressionIndex : Nat
  error : ExpressionError
  deriving DecidableEq, Repr

/-- The message: the place, and the message of the expression. -/
def ScriptError.message (e : ScriptError) : String :=
  "script " ++ Json.wholeText e.scriptId.toInt ++ ": command " ++ Nat.repr e.commandIndex ++ " (" ++
    e.command ++ "), expression " ++ Nat.repr e.expressionIndex ++ ": " ++ e.error.message

/-- An expression of a script, reconstructed from its bytes. -/
def CompiledExpression.reconstruct (decoder : Decoder) (scriptId : Int32) (owner : Owner)
    (e : CompiledExpression) : Except ExpressionError ScriptExpression :=
  let loaded := ((Expression.fresh scriptId e.assignment).ownedBy owner).load decoder e.bytes
  loaded.2.map fun _ => ⟨e.id, e.flag, e.argLoadFn, e.argLoadOp, loaded.1⟩

namespace CompiledScript

variable (decoder : Decoder) (script : CompiledScript)

/-- The expressions of command number `index`, of which the first given is number `number`. -/
def expressionsFrom (index : Nat) (command : String) :
    (number : Nat) → List CompiledExpression → Except ScriptError (List ScriptExpression)
  | _, [] => .ok []
  | number, e :: rest =>
    match e.reconstruct decoder script.scriptId ⟨index, number⟩ with
    | .error error => .error ⟨script.scriptId, index, command, number, error⟩
    | .ok e => (expressionsFrom index command (number + 1) rest).map (e :: ·)

/-- The commands, of which the first given is number `index` and comes at `depth`; `waiting` are the
labels that no command has taken. -/
def commandsFrom :
    (index depth : Nat) → (waiting : LabelTable) → List CompiledCommand →
      Except ScriptError (List Command)
  | _, _, _, [] => .ok []
  | index, depth, waiting, c :: rest =>
    match script.expressionsFrom decoder index c.name 0 c.expressions with
    | .error error => .error error
    | .ok expressions =>
      let role := BlockRole.ofName c.name
      (commandsFrom (index + 1) (role.next depth) (waiting.without index) rest).map fun commands =>
        { index := index
          name := c.name
          code := c.code
          labelId := c.labelId
          lineNumber := c.lineNumber
          nest := role.place depth
          labels := waiting.names index
          expressions := expressions } :: commands

/-- The reconstructed script. -/
def reconstruct : Except ScriptError Script :=
  (script.commandsFrom decoder 0 0 (.ofList script.labels) script.commands).map fun commands =>
    ⟨script.scriptId, script.source, commands⟩

end CompiledScript

end NovelScript
