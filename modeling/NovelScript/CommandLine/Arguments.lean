import NovelScript.Options
import NovelScript.Expression.Assignment
import NovelScript.Project.Path

/-!
# Arguments — what a command line asks for

A command line names a command and gives it options and one positional value. Options and
positionals come in any order; an option is written with its value behind an equals sign or as the
next argument, and a value of its own cannot begin with a dash unless it is just that. Two dashes
end the options. No option comes twice.

Every other command line is a usage error. Which one is not told apart here, beyond a sentence for
the person who typed it.
-/

set_option autoImplicit false

namespace NovelScript

/-- What is wanted of a single expression. -/
structure ExpressionRequest where
  hex : String
  keyword : Option String
  loadOp : String
  resultType : ResultType
  /-- The file of the variable table. -/
  tableFile : Option Path
  options : Options
  deriving DecidableEq, Repr

/-- What is wanted of a project. -/
structure ProjectRequest where
  /-- The file of the project. -/
  dump : Path
  /-- The output directory. -/
  out : Path
  options : Options
  deriving DecidableEq, Repr

/-- What a command line asks for. -/
inductive Request where
  | help
  | version
  | expression (request : ExpressionRequest)
  | project (request : ProjectRequest)
  deriving DecidableEq, Repr

/-- Why a command line asks for nothing. -/
inductive UsageError where
  | unknownCommand (argument : String)
  | unknownArgument (argument : String)
  | missingValue (option : String)
  | badValue (option value : String)
  | repeated (option : String)
  | missing (name : String)
  deriving DecidableEq, Repr

/-- The sentence for a usage error. -/
def UsageError.message : UsageError → String
  | .unknownCommand argument => "unknown command " ++ argument
  | .unknownArgument argument => "unexpected argument " ++ argument
  | .missingValue option => "a value is required for --" ++ option
  | .badValue option value => "invalid value " ++ value ++ " for --" ++ option
  | .repeated option => "--" ++ option ++ " cannot be used more than once"
  | .missing name => "missing " ++ name

namespace Arguments

/-- The options and the positionals of a command, as they are written. -/
structure Parsed where
  options : List (String × String)
  positionals : List String
  deriving DecidableEq, Repr

/-- An argument behind its dashes: the name, and the value behind an equals sign if there is one. -/
def splitOption (text : List Char) : String × Option String :=
  let name := String.ofList (text.takeWhile (· ≠ '='))
  match text.dropWhile (· ≠ '=') with
  | _ :: value => (name, some (String.ofList value))
  | [] => (name, none)

/-- Whether an argument begins with a dash and goes on; such a one is no value by itself. -/
def isDashed (argument : String) : Bool :=
  match argument.toList with
  | '-' :: _ :: _ => true
  | _ => false

/-- One more option, unless it was given before. -/
def Parsed.addOption (p : Parsed) (name value : String) : Except UsageError Parsed :=
  if (p.options.lookup name).isSome then .error (.repeated name)
  else .ok { p with options := p.options ++ [(name, value)] }

/-- One more positional, unless there are as many as the command takes. -/
def Parsed.addPositional (p : Parsed) (limit : Nat) (value : String) : Except UsageError Parsed :=
  if p.positionals.length < limit then .ok { p with positionals := p.positionals ++ [value] }
  else .error (.unknownArgument value)

/-- The positionals behind two dashes. -/
def positionalsOnly (limit : Nat) (p : Parsed) : List String → Except UsageError Parsed
  | [] => .ok p
  | argument :: rest =>
    match p.addPositional limit argument with
    | .ok p => positionalsOnly limit p rest
    | .error e => .error e

/-- The arguments of a command that knows these options and takes so many positionals. -/
def scan (known : List String) (limit : Nat) (p : Parsed) :
    List String → Except UsageError Parsed
  | [] => .ok p
  | "--" :: rest => positionalsOnly limit p rest
  | argument :: rest =>
    match argument.toList with
    | '-' :: '-' :: text =>
      let (name, value?) := splitOption text
      if !known.contains name then .error (.unknownArgument argument)
      else
        match value?, rest with
        | some value, rest =>
          match p.addOption name value with
          | .ok p => scan known limit p rest
          | .error e => .error e
        | none, [] => .error (.missingValue name)
        | none, value :: rest =>
          if isDashed value then .error (.missingValue name)
          else
            match p.addOption name value with
            | .ok p => scan known limit p rest
            | .error e => .error e
    | _ =>
      if isDashed argument then .error (.unknownArgument argument)
      else
        match p.addPositional limit argument with
        | .ok p => scan known limit p rest
        | .error e => .error e

/-- The value of an option that is one of some words; a default if the option is not given. -/
def Parsed.choice {α : Type} (p : Parsed) (name : String) (words : List (String × α))
    (default : α) : Except UsageError α :=
  match p.options.lookup name with
  | none => .ok default
  | some word =>
    match words.lookup word with
    | some value => .ok value
    | none => .error (.badValue name word)

/-- The value of an option that names a file. -/
def Parsed.path? (p : Parsed) (name : String) : Except UsageError (Option Path) :=
  match p.options.lookup name with
  | none => .ok none
  | some "" => .error (.badValue name "")
  | some text => .ok (some ⟨text⟩)

/-- The words for the result types. -/
def resultTypes : List (String × ResultType) :=
  [("any", .any), ("int", .int), ("decimal", .decimal), ("string", .string)]

/-- The words for the output formats. -/
def formats : List (String × OutputFormat) := [("text", .text), ("json", .json)]

/-- The words for the encodings. -/
def encodings : List (String × TextEncoding) :=
  [("shift-jis", .shiftJis), ("gbk", .gbk), ("utf8", .utf8)]

/-- The options that every command has. -/
def Parsed.commonOptions (p : Parsed) : Except UsageError Options := do
  let format ← p.choice "format" formats .text
  let encoding ← p.choice "encoding" encodings .shiftJis
  return ⟨format, encoding⟩

/-- The request of the expression command. -/
def expressionRequest (arguments : List String) : Except UsageError Request := do
  let known :=
    ["keyword", "load-op", "result-type", "variables", "format", "encoding"]
  let p ← scan known 1 ⟨[], []⟩ arguments
  let resultType ← p.choice "result-type" resultTypes .any
  let tableFile ← p.path? "variables"
  let options ← p.commonOptions
  match p.positionals with
  | hex :: _ =>
    return .expression {
      hex := hex
      keyword := p.options.lookup "keyword"
      loadOp := (p.options.lookup "load-op").getD Assignment.defaultLoadOp
      resultType := resultType
      tableFile := tableFile
      options := options }
  | [] => throw (.missing "<HEX>")

/-- The request of the project command. -/
def projectRequest (arguments : List String) : Except UsageError Request := do
  let p ← scan ["out", "format", "encoding"] 1 ⟨[], []⟩ arguments
  let out ← p.path? "out"
  let options ← p.commonOptions
  match p.positionals, out with
  | "" :: _, _ => throw (.missing "<DUMP>")
  | dump :: _, some out => return .project ⟨⟨dump⟩, out, options⟩
  | [], _ => throw (.missing "<DUMP>")
  | _, none => throw (.missing "--out")

/-- The request of a command line. -/
def parse : List String → Except UsageError Request
  | [] => .ok .help
  | ["--"] => .ok .help
  | "expr" :: rest => expressionRequest rest
  | "project" :: rest => projectRequest rest
  | ["help"] => .ok .help
  | "--help" :: _ => .ok .help
  | "--version" :: _ => .ok .version
  | argument :: _ =>
    match argument.toList with
    | '-' :: 'h' :: _ => .ok .help
    | '-' :: 'V' :: _ => .ok .version
    | '-' :: _ :: _ => .error (.unknownArgument argument)
    | _ => .error (.unknownCommand argument)

end Arguments

end NovelScript
