import CveTriage.Evaluation.Evaluate
import CveTriage.Toml.Parser

/-!
# Settings

What a user can set, how the environment overrides it, and how it is written down.
-/

set_option autoImplicit false

namespace CveTriage

/-! ## Settings and their overrides

Settings say how evaluations are carried out, where the index is, and how much
is logged. Three environment variables override settings. A variable that
switches something on or off is ignored unless it holds one of the accepted
spellings, in any case and with blanks around it; the other two are taken as
they are.
-/

/-- What a user can set. -/
structure Settings where
  evaluation : EvaluationSettings
  /-- Where the index is, unless it is at its usual place. -/
  indexPath : Option String
  logLevel : String
  /-- Where logs are written, if they are written to files. -/
  logsDirectory : Option String
deriving DecidableEq

/-- The values of environment variables. -/
abbrev Environment := String → Option String

namespace Settings

/-- The settings unless others are chosen. -/
def default : Settings :=
  ⟨EvaluationSettings.default, none, "info", none⟩

/-- What a switch is set to by a text. -/
def switch? (text : String) : Option Bool :=
  let word := String.ofList ((Text.trim text.toList).map Char.toLower)
  if word ∈ ["1", "true", "yes", "on"] then some true
  else if word ∈ ["0", "false", "no", "off"] then some false
  else none

/-- The settings with the overrides of an environment. -/
def overriddenBy (environment : Environment) (settings : Settings) : Settings where
  evaluation :=
    { settings.evaluation with
      unfixed := ((environment "OVALSIFT_OVAL_UNFIXED_EVAL_ENABLED").bind switch?).getD
        settings.evaluation.unfixed }
  indexPath := (environment "OVALSIFT_INDEX_PATH").or settings.indexPath
  logLevel := (environment "OVALSIFT_LOG_LEVEL").getD settings.logLevel
  logsDirectory := settings.logsDirectory

end Settings

/-! ## Settings documents

Settings are written as a TOML document with three sections. Every section and
every field may be left out and then has its default; a field with a value of
the wrong kind makes the document useless.
-/

/-- How evaluations are carried out, from its section. -/
def EvaluationSettings.ofToml? (value : Toml) : Option EvaluationSettings := do
  let fields ← value.fields? ["oval_unfixed_eval_enabled", "max_criteria_depth"]
  let unfixed ← Toml.defaulted? fields "oval_unfixed_eval_enabled" Toml.toBool?
    EvaluationSettings.default.unfixed
  let maxDepth ← Toml.defaulted? fields "max_criteria_depth" Toml.toNat?
    EvaluationSettings.default.maxDepth
  return ⟨unfixed, maxDepth⟩

namespace Settings

/-- Where the index is, from the section about it. -/
def indexOfToml? (value : Toml) : Option (Option String) := do
  let fields ← value.fields? ["path"]
  Toml.defaulted? fields "path" (fun path => path.toText?.map some) none

/-- The level and the directory of the logs, from the section about them. -/
def loggingOfToml? (value : Toml) : Option (String × Option String) := do
  let fields ← value.fields? ["level", "logs_dir"]
  let level ← Toml.defaulted? fields "level" Toml.toText? default.logLevel
  let directory ← Toml.defaulted? fields "logs_dir" (fun path => path.toText?.map some) none
  return (level, directory)

/-- The settings that a table of sections denotes. -/
def ofToml? (value : Toml) : Option Settings := do
  let sections ← value.fields? ["evaluation", "index", "logging"]
  let evaluation ← Toml.defaulted? sections "evaluation" EvaluationSettings.ofToml?
    default.evaluation
  let indexPath ← Toml.defaulted? sections "index" indexOfToml? none
  let (level, directory) ← Toml.defaulted? sections "logging" loggingOfToml?
    (default.logLevel, none)
  return ⟨evaluation, indexPath, level, directory⟩

/-- The settings that a document denotes. -/
def parse? (document : String) : Option Settings :=
  (Toml.parse? document).bind ofToml?

end Settings

end CveTriage
