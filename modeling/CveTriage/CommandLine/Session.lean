import CveTriage.Codec
import CveTriage.CommandLine.Surroundings

/-!
# Requests of one run

A session answers requests, and a pool of tasks answers the requests of a batch.
-/

set_option autoImplicit false

namespace CveTriage.CommandLine

open Std (ExtTreeMap)

/-! ## Sessions

A session holds what all requests of one run share: the index, the settings,
the updates, and the kind of report. It answers the text of a request with a
record.

A batch answers the requests of a directory, each under the name of its file.
One that cannot be answered has a record of its error in the place of the
answer. The result is a record in the order of the names, whatever the order
of the directory.
-/

/-- Why the program ends without a result. -/
inductive Failure where
  | settings
  | logsDirectory (path : String) (cause : PathError)
  /-- No log file can be opened in the directory for the logs. -/
  | logFile (path : String)
  | homeless
  | index (path : String)
  | updatesUnreadable (path : String)
  | updatesMalformed (path : String)
  | directory (path : String)
  | requestUnreadable (path : String)
  | requestMalformed (path : String)
  | evaluation (cause : EvaluationError)
deriving DecidableEq

/-- The wording of the failure. -/
def Failure.message : Failure → String
  | .settings => "failed to load configuration"
  | .logsDirectory path cause => "failed to create logs directory " ++ path ++ ": " ++ cause.message
  | .logFile path => "failed to open a log file in " ++ path
  | .homeless => "cannot determine home directory"
  | .index path => "failed to load index " ++ path
  | .updatesUnreadable path => "failed to read updates at " ++ path
  | .updatesMalformed path => "failed to parse updates at " ++ path
  | .directory path => "failed to read " ++ path
  | .requestUnreadable path => "failed to read request " ++ path
  | .requestMalformed path => "failed to parse request " ++ path
  | .evaluation cause => cause.message

/-- The wording of the failure and of its cause. -/
def Failure.chain : Failure → String
  | .evaluation cause => cause.chain
  | failure => failure.message

/-- The record of a failure. -/
def Failure.toJson (failure : Failure) : Json :=
  .record [("error", .string failure.chain)]

/-- What the requests of a run share. -/
structure Session where
  index : Index
  settings : EvaluationSettings
  updates : UpdateSource
  /-- Whether reports carry evidence. -/
  extended : Bool

namespace Session

/-- The record for a request. -/
def report (session : Session) (request : Request) : Except EvaluationError Json :=
  if session.extended then
    (extendedReport session.index session.settings session.updates request).map
      (Report.toJson Detail.toJson)
  else
    (compactReport session.index session.settings session.updates request).map
      (Report.toJson .string)

/-- The record for the request in a file, given the text of the file. -/
def answer (session : Session) (path : String) (text : Option String) : Except Failure Json :=
  match text with
  | none => .error (.requestUnreadable path)
  | some text =>
    match (Json.parse? text).bind Request.ofJson? with
    | none => .error (.requestMalformed path)
    | some request => (session.report request).mapError .evaluation

/-- The record for the request in a file, or that of the failure. -/
def answerOrError (session : Session) (path : String) (text : Option String) : Json :=
  match session.answer path text with
  | .ok record => record
  | .error failure => failure.toJson

/-- The answers to the files of a directory by file name. -/
def answers (session : Session) (directory : String) (files : List (String × Option String)) :
    ExtTreeMap String Json :=
  files.foldl
    (fun answers file =>
      answers.insert file.1 (session.answerOrError (Path.join directory file.1) file.2))
    ∅

/-- The record of the answers to the files of a directory. -/
def batch (session : Session) (directory : String) (files : List (String × Option String)) :
    Json :=
  .record (session.answers directory files).toList

end Session

/-- Whether the name is that of a request. -/
def isRequestName (name : String) : Bool :=
  Path.extension? name == some "json"

/-! ## A pool of tasks

The requests of a batch are answered by tasks, one for each, all started before
any answer is collected. From then on the tasks run by themselves, and at any
time any of them may finish. The answers are collected in the order in which the
tasks were started, so a task that finishes early keeps its answer until its
turn comes.

A pool is what is left to be collected and what has been collected. Its steps say
what can happen next, and nothing is said about which of the possible steps
happens. A task that fails is collected as the record of its failure.
-/

/-- The tasks of a batch. -/
structure Pool where
  /-- The names of the tasks whose answers have not been collected, in the order in
  which the tasks were started, each with its answer once the task has finished. -/
  tasks : List (String × Option (Except Failure Json))
  /-- The records of the collected answers by the names of their tasks. -/
  collected : ExtTreeMap String Json

namespace Pool

/-- The pool in which all tasks have been started and none has finished. -/
def start (names : List String) : Pool :=
  ⟨names.map (·, none), ∅⟩

/-- The record of an answer, or that of the failure. -/
def recordOf : Except Failure Json → Json
  | .ok record => record
  | .error failure => failure.toJson

/-- One step of a pool in which the task of a name finishes with the given answer. -/
inductive Step (answer : String → Except Failure Json) : Pool → Pool → Prop where
  /-- Some task finishes, whichever it is. -/
  | finish {before after : List (String × Option (Except Failure Json))} {name : String}
      {collected : ExtTreeMap String Json} :
      Step answer ⟨before ++ (name, none) :: after, collected⟩
        ⟨before ++ (name, some (answer name)) :: after, collected⟩
  /-- The task whose turn it is has finished, and its answer is collected. -/
  | collect {name : String} {found : Except Failure Json}
      {rest : List (String × Option (Except Failure Json))}
      {collected : ExtTreeMap String Json} :
      Step answer ⟨(name, some found) :: rest, collected⟩
        ⟨rest, collected.insert name (recordOf found)⟩

end Pool

end CveTriage.CommandLine
