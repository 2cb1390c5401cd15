import CveTriage.Settings

/-!
# The machine

Paths, what the program asks of the machine, and where it finds the settings there.
-/

set_option autoImplicit false

namespace CveTriage.CommandLine

/-! ## Paths

Paths are texts with slashes between the steps. Empty steps and steps to the
same place mean nothing, except that a path of one such step is not empty.

Every byte counts towards the length of a path, also one of a step that means
nothing. Machines refuse paths that are too long before they walk them.
-/

namespace Path

/-- The number of bytes that a path may not reach. -/
def byteLimit : Nat := 4096

/-- The greatest number of bytes of a name. -/
def nameLimit : Nat := 255

/-- Whether the path is as long as no path may be. -/
def isTooLong (path : String) : Bool :=
  byteLimit ≤ path.utf8ByteSize

/-- The texts between the slashes. -/
def segments (path : String) : List String :=
  (path.toList.splitOn '/').map String.ofList

/-- Whether the path starts at the root. -/
def isAbsolute (path : String) : Bool :=
  path.toList.head? == some '/'

/-- The path of an entry of a directory; the empty path is where paths start. -/
def join (directory name : String) : String :=
  if directory.isEmpty ∨ directory.toList.getLast? = some '/' then directory ++ name
  else directory ++ "/" ++ name

/-- The steps of a path that lead somewhere, and the first one anyway. -/
def steps (path : String) : List String :=
  match segments path with
  | [] => []
  | first :: rest =>
    (if first.isEmpty then [] else [first]) ++
      rest.filter fun step => !step.isEmpty && step != "."

/-- The path with the given start and steps. -/
def ofSteps (absolute : Bool) (steps : List String) : String :=
  (if absolute then "/" else "") ++ String.intercalate "/" steps

/-- What a file name has behind its last dot, unless nothing is before it. -/
def extension? (name : String) : Option String :=
  match Text.cutLast '.' name.toList with
  | some (_ :: _, extension) => some (String.ofList extension)
  | _ => none

end Path

/-! ## Surroundings

What the program asks of the machine that it runs on. The program is written
for any such surroundings and any monad, so it runs on a real machine as well
as on a tree of files that is a value.

Directories are made one at a time. A whole path is made from its end: if the
directory above is missing, that one is made first.
-/

/-- Why a directory cannot be made. -/
inductive PathError where
  | occupied
  | missing
  /-- A step of the path is a file. -/
  | notDirectory
  /-- The path, or a step of it, has too many bytes. -/
  | tooLong
  /-- The machine has a reason of its own. -/
  | refused (reason : String)
deriving DecidableEq

/-- The wording of the error, as the machine gives it. -/
def PathError.message : PathError → String
  | .occupied => "File exists (os error 17)"
  | .missing => "No such file or directory (os error 2)"
  | .notDirectory => "Not a directory (os error 20)"
  | .tooLong => "File name too long (os error 36)"
  | .refused reason => reason

/-- The operations of a machine. -/
structure Surroundings (m : Type → Type) where
  /-- The text of a file, if there is a file that holds a text. -/
  readText : String → m (Option String)
  /-- The names in a directory, if there is one. -/
  listDirectory : String → m (Option (List String))
  pathExists : String → m Bool
  directoryExists : String → m Bool
  /-- Makes a directory in one that exists. -/
  makeDirectory : String → m (Except PathError Unit)
  environment : m Environment
  home : m (Option String)

namespace Surroundings

variable {m : Type → Type} [Monad m]

/-- Makes a directory unless it exists, given what makes the one above it. -/
def provideDirectory (surroundings : Surroundings m) (path : String)
    (above : m (Except PathError Unit)) : m (Except PathError Unit) := do
  let settle (error : PathError) : m (Except PathError Unit) := do
    return if ← surroundings.directoryExists path then .ok () else .error error
  match ← surroundings.makeDirectory path with
  | .ok () => return .ok ()
  | .error .missing =>
    match ← above with
    | .error error => return .error error
    | .ok () =>
      match ← surroundings.makeDirectory path with
      | .ok () => return .ok ()
      | .error error => settle error
  | .error error => settle error

/-- Makes the directories at the end of the steps, last one first. -/
def provideSteps (surroundings : Surroundings m) (absolute : Bool) :
    List String → m (Except PathError Unit)
  | [] => return .ok ()
  | last :: above =>
    surroundings.provideDirectory (Path.ofSteps absolute (last :: above).reverse)
      (provideSteps surroundings absolute above)

/-- Makes a directory, and those above it, unless they exist. -/
def provide (surroundings : Surroundings m) (path : String) : m (Except PathError Unit) :=
  if path.isEmpty then return .ok ()
  else surroundings.provideDirectory path
    (surroundings.provideSteps (Path.isAbsolute path) (Path.steps path).reverse.tail)

end Surroundings

/-! ## Where settings come from

Settings come from a file that is named, or else from the usual place in the
home directory of the user, where the file may be missing. The environment
overrides what the file says.
-/

/-- Why there are no settings. -/
inductive SettingsError where
  | unreadable
  | malformed
  | homeless
deriving DecidableEq

/-- The usual place of a file of the program. -/
def usualPath (home name : String) : String :=
  Path.join (Path.join home ".ovalsift") name

/-- Where the index is, for a user with the given home directory. -/
def indexLocation (settings : Settings) (home : Option String) : Option String :=
  settings.indexPath.or (home.map (usualPath · "index.json"))

namespace Surroundings

variable {m : Type → Type} [Monad m]

/-- The settings in a file. -/
def readSettings (surroundings : Surroundings m) (path : String) :
    m (Except SettingsError Settings) := do
  return match ← surroundings.readText path with
    | none => .error .unreadable
    | some document =>
      match Settings.parse? document with
      | none => .error .malformed
      | some settings => .ok settings

/-- The settings at the usual place, or those that nobody has changed. -/
def usualSettings (surroundings : Surroundings m) : m (Except SettingsError Settings) := do
  match ← surroundings.home with
  | none => return .error .homeless
  | some home =>
    let path := usualPath home "config.toml"
    if ← surroundings.pathExists path then surroundings.readSettings path
    else return .ok Settings.default

/-- The settings in a file or at the usual place, with the overrides of the environment. -/
def loadSettings (surroundings : Surroundings m) (path : Option String) :
    m (Except SettingsError Settings) := do
  let found ← match path with
    | some path => surroundings.readSettings path
    | none => surroundings.usualSettings
  let environment ← surroundings.environment
  return found.map (Settings.overriddenBy environment)

end Surroundings

end CveTriage.CommandLine
