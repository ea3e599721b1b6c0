import NovelScript.CommandLine.Plan

/-!
# The program — a command line carried out on the file system

All decisions are in the plan; here files are read, steps are done, and failures of the system get
their words.
-/

set_option autoImplicit false

namespace NovelScript

/-- A failure of the file system. Names of the wrong type and names that are refused are told apart
by the system's code. -/
def FileError.ofSystem : IO.Error → FileError
  | .noFileOrDirectory .. => .notFound
  | .alreadyExists .. => .alreadyExists
  | .inappropriateType _ code _ => if code = 21 then .isDirectory else .notDirectory
  | .invalidArgument _ code text =>
    if code = 36 then .nameTooLong else if code = 22 then .zeroInPath else .other text
  | e => .other (toString e)

/-- What came of an action on files. -/
def attempt {α : Type} (action : IO α) : IO (Except FileError α) := do
  match ← action.toBaseIO with
  | .ok value => return .ok value
  | .error e => return .error (.ofSystem e)

/-- Makes a directory; one that is there already will do. -/
def createDirectory (path : Path) : IO (Except FileError Unit) := do
  match ← attempt (IO.FS.createDir path.text) with
  | .error .alreadyExists =>
    if ← (← IO.FS.realPath path.text).isDir then return .ok () else return .error .alreadyExists
  | result => return result

/-- Makes a directory and all that it lies in, at most `levels` levels of them. -/
def createDirectories : (levels : Nat) → Path → IO (Except FileError Unit)
  | 0, path => createDirectory path
  | levels + 1, path =>
    match path.text, path.parent? with
    | "", _ => return .ok ()
    | _, none => return .ok ()
    | _, some parent => do
      match ← createDirectory path with
      | .error .notFound =>
        match ← createDirectories levels parent with
        | .error e => return .error e
        | .ok () => createDirectory path
      | result => return result

/-- Does a step; a failure ends the plan. -/
def Step.perform (step : Step) : IO (Option FileError) := do
  let result ← match step with
    | .say text => do
      let out ← IO.getStdout
      out.putStr text
      out.flush
      pure (.ok ())
    | .warn text => do
      let err ← IO.getStderr
      err.putStr text
      err.flush
      pure (.ok ())
    | .makeDirectories path => createDirectories (path.text.length + 1) path
    | .write path text => attempt (IO.FS.writeFile path.text text)
  match result with
  | .ok () => return none
  | .error e => return some e

/-- Does the steps of a plan and gives the exit code. -/
def Plan.perform (exit : UInt8) : List Step → IO UInt32
  | [] => return exit.toUInt32
  | step :: rest => do
    match ← step.perform with
    | none => Plan.perform exit rest
    | some e => do
      let _ ← (Step.warn (step.failure e)).perform
      return exitFailure.toUInt32

/-- Carries out a command line. -/
def performCommandLine (arguments : List String) : IO UInt32 := do
  match Arguments.parse arguments with
  | .error e => Plan.perform e.plan.exit e.plan.steps
  | .ok request =>
    let input ← match request.input? with
      | some path => attempt (IO.FS.readFile path.text)
      | none => pure (.ok "")
    let plan := request.plan input
    Plan.perform plan.exit plan.steps

end NovelScript

/-- The program. -/
def main (arguments : List String) : IO UInt32 := NovelScript.performCommandLine arguments
