import CveTriage.CommandLine.Session

/-!
# Runs of the program

What the words behind the name of the program ask for, and the run that does it.
-/

set_option autoImplicit false

namespace CveTriage.CommandLine

/-! ## Arguments

The words behind the program's name. Options stand before the name of a
command and after it; those that locate settings and index are known in both
places, and what is said after the command counts. An option takes its value
from the same word, behind an equals sign, or from the next word, which then
may not look like an option. No option is given twice in one place and no
value is empty.

Words are read from left to right, so a mistake in front of a request for the
version or for help comes first.
-/

/-! ### Words -/

/-- What a word looks like. -/
inductive Word where
  /-- An option with a long name, and the value behind the equals sign. -/
  | long (name : String) (value : Option String)
  /-- Options with one letter each. -/
  | short (letters : List Char)
  /-- The word that ends the options. -/
  | separator
  | plain

/-- What a text looks like as a word. -/
def Word.ofText (text : String) : Word :=
  match text.toList with
  | ['-', '-'] => .separator
  | '-' :: '-' :: rest =>
    match Text.cutFirst '=' rest with
    | some (name, value) => .long (String.ofList name) (some (String.ofList value))
    | none => .long (String.ofList rest) none
  | '-' :: letter :: letters => .short (letter :: letters)
  | _ => .plain

/-! ### Options -/

/-- What an option does. -/
inductive OptionKind where
  | valued
  | switch
  | version
  | help
deriving DecidableEq

/-- The options that are known in one place. -/
structure OptionTable where
  long : String → Option OptionKind
  short : Char → Option OptionKind

/-- The options of one place with their values; the value of a switch is empty. -/
abbrev Given := List (String × String)

/-- How the options of one place end. -/
inductive Ending where
  | exhausted
  /-- At a word that is no option. -/
  | word (text : String) (rest : List String)
  | version
  | help
  | misused

/-- The options given, with one more. -/
def Given.add? (given : Given) (name value : String) : Option Given :=
  if (given.lookup name).isSome then none else some (given ++ [(name, value)])

/-- The options given, with one more that has a value. -/
def Given.addValue? (given : Given) (name value : String) : Option Given :=
  if value.isEmpty then none else given.add? name value

/-- The options at the front of the words. -/
def readOptions (table : OptionTable) : List String → Given → Given × Ending
  | [], given => (given, .exhausted)
  | text :: rest, given =>
    match Word.ofText text with
    | .plain => (given, .word text rest)
    | .separator => (given, if rest.isEmpty then .exhausted else .misused)
    | .short letters =>
      match letters.head?.bind table.short with
      | some .version => (given, .version)
      | some .help => (given, .help)
      | _ => (given, .misused)
    | .long name value =>
      match table.long name, value, rest with
      | some .version, none, _ => (given, .version)
      | some .help, none, _ => (given, .help)
      | some .switch, none, rest =>
        match given.add? name "" with
        | some given => readOptions table rest given
        | none => (given, .misused)
      | some .valued, some value, rest =>
        match given.addValue? name value with
        | some given => readOptions table rest given
        | none => (given, .misused)
      | some .valued, none, value :: rest =>
        match Word.ofText value, given.addValue? name value with
        | .plain, some given => readOptions table rest given
        | _, _ => (given, .misused)
      | _, _, _ => (given, .misused)

/-! ### Commands -/

/-- What the program is to do with requests. -/
inductive Command where
  | evaluate (request : String)
  | batch (directory : String)
deriving DecidableEq

/-- What the arguments ask for. -/
structure Invocation where
  settingsPath : Option String
  indexPath : Option String
  updatesPath : Option String
  /-- Whether reports carry evidence. -/
  extended : Bool
  command : Command
deriving DecidableEq

/-- What the arguments come to. -/
inductive Demand where
  | run (invocation : Invocation)
  | version
  | help
  | misused
deriving DecidableEq

/-- The options in front of the command. -/
def mainOptions : OptionTable where
  long
    | "config" | "index" => some .valued
    | "version" => some .version
    | "help" => some .help
    | _ => none
  short
    | 'V' => some .version
    | 'h' => some .help
    | _ => none

/-- The options of a command that needs the given one. -/
def commandOptions (needed : String) : OptionTable where
  long name :=
    if name = needed then some .valued
    else match name with
      | "config" | "index" | "updates" => some .valued
      | "extended" => some .switch
      | "help" => some .help
      | _ => none
  short
    | 'h' => some .help
    | _ => none

/-- The demand of the words behind the name of a command. -/
def readCommand (outer : Given) (needed : String) (command : String → Command)
    (words : List String) : Demand :=
  match readOptions (commandOptions needed) words [] with
  | (given, .exhausted) =>
    match given.lookup needed with
    | none => .misused
    | some target => .run
      { settingsPath := (given.lookup "config").or (outer.lookup "config")
        indexPath := (given.lookup "index").or (outer.lookup "index")
        updatesPath := given.lookup "updates"
        extended := (given.lookup "extended").isSome
        command := command target }
  | (_, .version) => .version
  | (_, .help) => .help
  | (_, .word _ _) => .misused
  | (_, .misused) => .misused

/-- The demand of the words behind `help`: the name of one command may follow,
and nothing else. -/
def readHelp : List String → Demand
  | [] => .help
  | [topic] => if topic = "evaluate" ∨ topic = "batch" ∨ topic = "help" then .help else .misused
  | _ => .misused

/-- What the arguments come to. -/
def Demand.ofArguments (arguments : List String) : Demand :=
  match readOptions mainOptions arguments [] with
  | (_, .exhausted) => .misused
  | (outer, .word "evaluate" rest) => readCommand outer "request" .evaluate rest
  | (outer, .word "batch" rest) => readCommand outer "requests-dir" .batch rest
  | (_, .word "help" rest) => readHelp rest
  | (_, .word _ _) => .misused
  | (_, .version) => .version
  | (_, .help) => .help
  | (_, .misused) => .misused

/-! ## The program

A run loads the settings, makes the directory for the logs, loads the index
and the updates, and then evaluates one request or all requests of a
directory. The first of these that fails ends the run, so of two faults the
one in the earlier part is reported. A run is aborted when the directory for
the logs is there but cannot hold a log file.
-/

/-- How a run ends. -/
inductive Outcome where
  | printed (text : String)
  | failed (failure : Failure)
  | aborted (failure : Failure)
  | misused
deriving DecidableEq

/-- How a failure ends a run. -/
def Failure.outcome : Failure → Outcome
  | .logFile path => .aborted (.logFile path)
  | failure => .failed failure

/-- The line that tells the version. -/
def versionLine : String :=
  "ovalsift 0.1.0\n"

/-- The lines that tell how to use the program. -/
def helpLines : String :=
  "Classify the vulnerabilities of a host as unpatched, fixable or manually fixable\n\n" ++
  "Usage: ovalsift [--config FILE] [--index FILE] COMMAND\n\n" ++
  "Commands:\n" ++
  "  evaluate --request FILE [--updates FILE] [--extended]\n" ++
  "  batch --requests-dir DIR [--updates FILE] [--extended]\n"

/-- The index that a text denotes. -/
def indexOfText? (text : String) : Option Index := do
  let snapshot ← (Json.parse? text).bind Snapshot.ofJson?
  (Index.ofSnapshot snapshot).toOption

/-- The list of updates that a text denotes. -/
def updatesOfText? (text : String) : Option UpdateList :=
  (Json.parse? text).bind UpdateList.ofJson?

/-- The path of a log file in a directory. Its name ends with the day, so all
these names have the same length. -/
def logFile (directory : String) : String :=
  Path.join directory "ovalsift.log.1970-01-01"

namespace Surroundings

variable {m : Type → Type} [Monad m]

/-- Makes the directory for the logs, if there is to be one. -/
def provideLogs (surroundings : Surroundings m) (settings : Settings) : ExceptT Failure m Unit :=
  match settings.logsDirectory with
  | none => return
  | some path => do
    match ← (surroundings.provide path : m _) with
    | .ok () => if Path.isTooLong (logFile path) then throw (.logFile path)
    | .error cause => throw (.logsDirectory path cause)

/-- The index at the place that the settings tell. -/
def loadIndex (surroundings : Surroundings m) (settings : Settings) : ExceptT Failure m Index := do
  match indexLocation settings (← surroundings.home) with
  | none => throw .homeless
  | some path =>
    match (← (surroundings.readText path : m _)).bind indexOfText? with
    | none => throw (.index path)
    | some index => return index

/-- The updates in a file, or none if there is no file. -/
def loadUpdates (surroundings : Surroundings m) (path : Option String) :
    ExceptT Failure m UpdateSource :=
  match path with
  | none => return UpdateSource.none
  | some path => do
    match ← (surroundings.readText path : m _) with
    | none => throw (.updatesUnreadable path)
    | some text =>
      match updatesOfText? text with
      | none => throw (.updatesMalformed path)
      | some updates => return UpdateSource.prepared updates

/-- What the requests of a run share. -/
def openSession (surroundings : Surroundings m) (invocation : Invocation) :
    ExceptT Failure m Session := do
  match ← (surroundings.loadSettings invocation.settingsPath : m _) with
  | .error _ => throw .settings
  | .ok settings =>
    let settings := { settings with indexPath := invocation.indexPath.or settings.indexPath }
    surroundings.provideLogs settings
    let index ← surroundings.loadIndex settings
    let updates ← surroundings.loadUpdates invocation.updatesPath
    return ⟨index, settings.evaluation, updates, invocation.extended⟩

/-- The names and the texts of the requests in a directory. -/
def readRequests (surroundings : Surroundings m) (directory : String) :
    ExceptT Failure m (List (String × Option String)) := do
  match ← (surroundings.listDirectory directory : m _) with
  | none => throw (.directory directory)
  | some names =>
    (names.filter isRequestName).mapM fun name => do
      return (name, ← (surroundings.readText (Path.join directory name) : m _))

/-- Carries out a command. -/
def perform (surroundings : Surroundings m) (session : Session) (command : Command) :
    ExceptT Failure m Json := do
  match command with
  | .evaluate path => session.answer path (← (surroundings.readText path : m _))
  | .batch directory => return session.batch directory (← surroundings.readRequests directory)

/-- The record that a run yields. -/
def invoke (surroundings : Surroundings m) (invocation : Invocation) : ExceptT Failure m Json := do
  let session ← surroundings.openSession invocation
  surroundings.perform session invocation.command

/-- Runs the program with the given arguments. -/
def run (surroundings : Surroundings m) (arguments : List String) : m Outcome := do
  match Demand.ofArguments arguments with
  | .version => return .printed versionLine
  | .help => return .printed helpLines
  | .misused => return .misused
  | .run invocation =>
    match ← (surroundings.invoke invocation).run with
    | .ok record => return .printed (record.pretty ++ "\n")
    | .error failure => return failure.outcome

end Surroundings

end CveTriage.CommandLine
