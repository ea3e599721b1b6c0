import NovelScript.Script.Text
import NovelScript.Script.Json
import NovelScript.Variable.Json
import NovelScript.Project.Path

/-!
# Projects — all scripts of a game

A project is what the loaders extracted: the declared variables and the compiled scripts. Every
script is reconstructed against the same table of variables; a script that fails is an outcome like
any other and does not stop the next. An outcome has a path below the output directory whether it
failed or not, and a rendered text only if it did not.
-/

set_option autoImplicit false

namespace NovelScript

/-- Variables and compiled scripts. -/
structure Project where
  declared : List Variable
  scripts : List CompiledScript
  deriving Inhabited

/-- What came of a script. -/
structure Outcome where
  scriptId : Int32
  source : String
  result : Except ScriptError Script

namespace Project

/-- The record of a project. -/
def record : RecordType Project where
  name := "ProjectDump"
  start := ⟨[], []⟩
  fields := [
    .withDefault "variables" (Json.readListOf Variable.record.read) fun x p =>
      { p with declared := x },
    .withDefault "scripts" (Json.readListOf CompiledScript.record.read) fun x p =>
      { p with scripts := x }]

/-- The project that a text is. -/
def parse (text : String) : Except ReadFault Project := Json.readDocument record.read text

/-- The project's variables by id. -/
def table (p : Project) : VariableTable := .ofList p.declared

/-- What came of each script, in order. -/
def reconstruct (p : Project) (encoding : TextEncoding) : List Outcome :=
  let decoder := Decoder.ofTable p.table encoding
  p.scripts.map fun script => ⟨script.scriptId, script.source, script.reconstruct decoder⟩

end Project

namespace Outcome

/-- Where the script's output goes: its source path below a root, with an extension of its own if
the output is JSON. -/
def outputPath (o : Outcome) (root : Path) (format : OutputFormat) : Path :=
  match format with
  | .text => root.join ⟨o.source⟩
  | .json => (root.join ⟨o.source⟩).withExtension "json"

/-- The script's output, if there is one. -/
def render? (o : Outcome) (format : OutputFormat) : Option String :=
  match o.result, format with
  | .ok script, .text => some script.text
  | .ok script, .json => some script.toJson.pretty
  | .error _, _ => none

end Outcome

end NovelScript
