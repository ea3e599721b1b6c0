import NovelScript.CommandLine.Arguments
import NovelScript.CommandLine.Hex
import NovelScript.CommandLine.Store
import NovelScript.Project.Basic
import NovelScript.Project.CommonDirectory
import NovelScript.Project.Globals

/-!
# Plans — what a command line does, step by step

A request reads at most one file and then knows everything it is going to do: what to print, which
directories to make, which files to write, and the exit code. That is its plan. A plan is data, so
it can be carried out on a real file system or on a store (`Plan.run`), with the same text either
way. It ends early at the first step on files that fails, with a message that says what was tried
and why it failed.

Every script is written as soon as it is announced, and the globals file goes into the directory
that all output paths share, those of failed scripts included.
-/

set_option autoImplicit false

namespace NovelScript

/-- A step of a plan. -/
inductive Step where
  /-- Prints to standard output. -/
  | say (text : String)
  /-- Prints to standard error. -/
  | warn (text : String)
  | makeDirectories (path : Path)
  | write (path : Path) (text : String)
  deriving DecidableEq, Repr

/-- Steps, and the exit code after the last of them. -/
structure Plan where
  steps : List Step
  exit : UInt8
  deriving DecidableEq, Repr, Inhabited

/-- The exit code of a success. -/
def exitSuccess : UInt8 := 0

/-- The exit code of a failure. -/
def exitFailure : UInt8 := 1

/-- The exit code of a command line that asks for nothing. -/
def exitUsage : UInt8 := 2

/-- A cause, its first line behind a mark and the others as deep as that. -/
def causeLines (mark rest cause : String) : String :=
  match splitAtEvery '\n' cause.toList with
  | [] => mark
  | first :: others =>
    mark ++ String.ofList first ++
      String.join (others.map fun line => "\n" ++ rest ++ String.ofList line)

/-- The number of a cause, in five columns. -/
def causeNumber (n : Nat) : String :=
  String.ofList (List.replicate (5 - (Nat.repr n).length) ' ') ++ Nat.repr n ++ ": "

/-- The message of a failure and its causes. Several causes are numbered, a single one is not. -/
def failureText (context : String) (causes : List String) : String :=
  "Error: " ++ context ++
    (match causes with
      | [] => ""
      | [cause] => "\n\nCaused by:\n" ++ causeLines "    " "    " cause
      | causes =>
        "\n\nCaused by:" ++ String.join (causes.zipIdx.map fun (cause, n) =>
          "\n" ++ causeLines (causeNumber n) "       " cause)) ++ "\n"

/-- A path as messages name it. -/
def Path.quoted (p : Path) : String := QuoteStyle.path.quote p.text

/-- The message of a step on files that failed. -/
def Step.failure (step : Step) (e : FileError) : String :=
  match step with
  | .makeDirectories path => failureText ("failed to create " ++ path.quoted) [e.message]
  | .write path _ => failureText ("failed to write " ++ path.quoted) [e.message]
  | _ => failureText e.message []

namespace Plan

/-- The plan that only prints a failure. -/
def failing (context : String) (causes : List String) : Plan :=
  ⟨[.warn (failureText context causes)], exitFailure⟩

/-- The text of the program's help. -/
def helpText : String :=
  "YuRis script decompiler CLI\n" ++
  "\n" ++
  "Usage: ysdec [COMMAND]\n" ++
  "\n" ++
  "Commands:\n" ++
  "  expr        Reconstructs a single expression from its bytecode\n" ++
  "  project     Decompiles every script of a project dump\n" ++
  "  completion  Generate shell completion\n" ++
  "  help        Print this message or the help of the given subcommand(s)\n" ++
  "\n" ++
  "Options:\n" ++
  "  -h, --help     Print help\n" ++
  "  -V, --version  Print version\n"

/-- The text of the program's version. -/
def versionText : String := "ysdec 0.1.0\n"

/-- A number of five columns filled up with zeros, of which the sign takes one. -/
def scriptNumber (n : Int) : String :=
  let digits := Nat.repr n.natAbs
  let sign := if n < 0 then "-" else ""
  sign ++ zeros (5 - sign.length - digits.length) ++ digits

/-- The message of a text that is no list of bytes. -/
def hexFailure : HexError → Plan
  | .oddLength => failing "hex input has an odd number of digits" []
  | .badPair pair =>
    failing ("invalid hex byte " ++ QuoteStyle.text.quote pair) ["invalid digit found in string"]

/-- The table of variables that a request names; an empty one if it names none. -/
def loadTable (file : Option Path) (input : Except FileError String) :
    Except Plan VariableTable :=
  match file with
  | none => .ok .empty
  | some path =>
    match input with
    | .error e => .error (failing ("failed to read " ++ path.quoted) [e.message])
    | .ok text =>
      (VariableTable.parse text).mapError fun fault =>
        failing ("invalid variable table " ++ path.quoted) [fault.message]

/-- What is printed of an expression. -/
def expressionText (format : OutputFormat) (e : Expression) : String :=
  match format with
  | .text => e.source ++ "\n"
  | .json => (operandTree e.root).pretty ++ "\n"

/-- The plan for a single expression. -/
def ofExpression (r : ExpressionRequest) (input : Except FileError String) : Plan :=
  match Hex.parse r.hex with
  | .error e => hexFailure e
  | .ok bytes =>
    match loadTable r.tableFile input with
    | .error plan => plan
    | .ok table =>
      let assignment := r.keyword.map fun keyword => ⟨⟨some keyword, r.resultType⟩, r.loadOp⟩
      match reconstruct bytes assignment table r.options.encoding with
      | .ok e => ⟨[.say (expressionText r.options.format e)], exitSuccess⟩
      | .error e =>
        ⟨[.warn ("decompile error: " ++ e.message ++ "\n"), .warn (e.diagnostic ++ "\n")],
          exitFailure⟩

/-- The steps for a script that was reconstructed. -/
def writeSteps (path : Path) (text : String) : List Step :=
  (path.parent?.map Step.makeDirectories).toList ++
    [.write path text, .say (" -> " ++ path.text ++ "\n")]

/-- The steps for a script that failed. -/
def failureSteps : Except ScriptError Script → List Step
  | .error e =>
    [.say " -> Failed.\n", .warn (e.message ++ "\n"), .warn (e.error.diagnostic ++ "\n")]
  | .ok _ => []

/-- The steps for a script. -/
def scriptSteps (out : Path) (format : OutputFormat) (o : Outcome) : List Step :=
  .say ("Decompiling yst" ++ scriptNumber o.scriptId.toInt ++ ".ybn ...") ::
    match o.render? format with
    | some text => writeSteps (o.outputPath out format) text
    | none => failureSteps o.result

/-- The directory of the globals file: the one that all output paths share, else the output
directory itself. -/
def globalsDirectory (out : Path) (format : OutputFormat) (outcomes : List Outcome) : Path :=
  (commonDirectory? (outcomes.map fun o => o.outputPath out format)).getD out

/-- The steps for the globals file. -/
def globalsSteps (directory : Path) (table : VariableTable) (format : OutputFormat) : List Step :=
  [.makeDirectories directory,
    .write (directory.join ⟨VariableTable.globalsName format⟩) (table.globalsText format)]

/-- The plan for the scripts and the globals of a project. -/
def ofOutcomes (out : Path) (format : OutputFormat) (table : VariableTable)
    (outcomes : List Outcome) : Plan :=
  let failed := (outcomes.filter fun o => (o.render? format).isNone).length
  let steps := outcomes.flatMap (scriptSteps out format) ++
    globalsSteps (globalsDirectory out format outcomes) table format
  if failed = 0 then ⟨steps, exitSuccess⟩
  else
    ⟨steps ++ [.warn (Nat.repr failed ++ " of " ++ Nat.repr outcomes.length ++
      " scripts failed\n")], exitFailure⟩

/-- The plan for a project. -/
def ofProject (r : ProjectRequest) (input : Except FileError String) : Plan :=
  match input with
  | .error e => failing ("failed to read " ++ r.dump.quoted) [e.message]
  | .ok text =>
    match Project.parse text with
    | .error fault =>
      failing ("failed to parse " ++ r.dump.quoted)
        ["invalid project dump: " ++ fault.message, fault.message]
    | .ok project =>
      ofOutcomes r.out r.options.format project.table (project.reconstruct r.options.encoding)

end Plan

/-- The file that a request reads, if it reads one. -/
def Request.input? : Request → Option Path
  | .expression r => r.tableFile
  | .project r => some r.dump
  | _ => none

/-- The plan of a request, given what came of reading its file. -/
def Request.plan (input : Except FileError String) : Request → Plan
  | .help => ⟨[.say Plan.helpText], exitSuccess⟩
  | .version => ⟨[.say Plan.versionText], exitSuccess⟩
  | .expression r => .ofExpression r input
  | .project r => .ofProject r input

/-- The plan of a command line that asks for nothing. -/
def UsageError.plan (e : UsageError) : Plan := ⟨[.warn ("error: " ++ e.message ++ "\n")], exitUsage⟩

/-- What a run leaves behind. -/
structure RunResult where
  exit : UInt8
  out : String
  err : String
  store : Store
  deriving DecidableEq, Repr

namespace RunResult

/-- The result with more on standard output. -/
def say (r : RunResult) (text : String) : RunResult := { r with out := r.out ++ text }

/-- The result with more on standard error. -/
def warn (r : RunResult) (text : String) : RunResult := { r with err := r.err ++ text }

/-- The result after steps, of which a failing one is the last. -/
def after (exit : UInt8) (r : RunResult) : List Step → RunResult
  | [] => { r with exit := exit }
  | .say text :: rest => after exit (r.say text) rest
  | .warn text :: rest => after exit (r.warn text) rest
  | .makeDirectories path :: rest =>
    match r.store.makeDirectories path with
    | .ok store => after exit { r with store := store } rest
    | .error e => { r.warn ((Step.makeDirectories path).failure e) with exit := exitFailure }
  | .write path text :: rest =>
    match r.store.writeFile path text with
    | .ok store => after exit { r with store := store } rest
    | .error e => { r.warn ((Step.write path text).failure e) with exit := exitFailure }

end RunResult

/-- The result of a plan on a store. -/
def Plan.run (plan : Plan) (store : Store) : RunResult :=
  RunResult.after plan.exit ⟨exitSuccess, "", "", store⟩ plan.steps

/-- What a request reads from a store. -/
def Request.readInput (store : Store) (r : Request) : Except FileError String :=
  match r.input? with
  | some path => store.readFile path
  | none => .ok ""

/-- The result of a command line on a store. -/
def runCommandLine (arguments : List String) (store : Store) : RunResult :=
  match Arguments.parse arguments with
  | .ok request => (request.plan (request.readInput store)).run store
  | .error e => e.plan.run store

end NovelScript
