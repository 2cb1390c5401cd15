import CveTriage.CommandLine.Program

/-!
# The executable

Runs the program on the machine itself. Errors go to the standard error
stream, and the exit code tells how the run ended.
-/

set_option autoImplicit false

namespace CveTriage.CommandLine

/-- The answer of an action, or nothing if it fails. -/
def attempt {α : Type} (action : IO α) : IO (Option α) := do
  try return some (← action)
  catch _ => return none

/-- The surroundings of the process. -/
def machine (bindings : List (String × String)) : Surroundings IO where
  readText path := attempt (IO.FS.readFile path)
  listDirectory path := attempt do
    let directory ← IO.FS.realPath path
    return (← directory.readDir).toList.map fun entry => entry.fileName
  pathExists path := return (← attempt (IO.FS.realPath path)).isSome
  directoryExists path := do
    match ← attempt (IO.FS.realPath path) with
    | some directory => directory.isDir
    | none => return false
  makeDirectory path := do
    try
      IO.FS.createDir path
      return .ok ()
    catch
      | .alreadyExists .. => return .error .occupied
      | .noFileOrDirectory .. => return .error .missing
      | .inappropriateType .. => return .error .notDirectory
      | error => return .error (.refused error.toString)
  environment := return fun name => List.lookup name bindings
  home := return (List.lookup "HOME" bindings).filter fun home => !home.isEmpty

/-- The environment variables that the program looks at. -/
def variableNames : List String :=
  ["HOME", "OVALSIFT_OVAL_UNFIXED_EVAL_ENABLED", "OVALSIFT_INDEX_PATH", "OVALSIFT_LOG_LEVEL"]

/-- The variables that are set, with their values. -/
def readVariables : IO (List (String × String)) := do
  let values ← variableNames.mapM fun name => return (name, ← IO.getEnv name)
  return values.filterMap fun entry => entry.2.map (entry.1, ·)

/-- Runs the program on the machine with the given arguments. -/
def execute (arguments : List String) : IO UInt32 := do
  let bindings ← readVariables
  match ← (machine bindings).run arguments with
  | .printed text =>
    IO.print text
    return 0
  | .failed failure =>
    IO.eprintln ("Error: " ++ failure.message)
    return 1
  | .aborted failure =>
    IO.eprintln failure.message
    return 101
  | .misused =>
    IO.eprint helpLines
    return 2

end CveTriage.CommandLine

/-- Runs the program with the arguments of the process. -/
def main (arguments : List String) : IO UInt32 :=
  CveTriage.CommandLine.execute arguments
