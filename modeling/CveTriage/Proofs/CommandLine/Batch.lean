import CveTriage.Proofs.CommandLine.FileTree
import CveTriage.Proofs.Evaluation.Classification
import CveTriage.Proofs.Index.Records
import Mathlib.Logic.Relation
import Mathlib.Order.WellFounded

/-!
# Batches

A pool collects the answers of all its tasks, and a batch answers its files one by one.
-/

set_option autoImplicit false

namespace CveTriage.CommandLine

open Relation (ReflTransGen)
open Std (ExtTreeMap)

/-! ## What a pool collects

Whatever order the tasks of a pool finish in, the same answers are collected.

What a task that has not been collected yet will contribute is known from its
name, so what a pool will have collected in the end can be told at any time
(`Pool.due`). No step changes it (`Step.due`), as long as the answers that are
waiting are the right ones, and no step spoils that (`Step.sound`). In the end
nothing is left to be collected, and there what is due has been collected.

There is an end: as long as a task is left some step is possible
(`exists_step`), and every step leaves less to do (`Step.remaining_lt`).
-/

namespace Pool

variable {answer : String → Except Failure Json} {pool next last : Pool}

/-- The answers that are waiting are those of their tasks. -/
def Sound (answer : String → Except Failure Json) (pool : Pool) : Prop :=
  ∀ name found, (name, some found) ∈ pool.tasks → found = answer name

/-- What will have been collected once all tasks have had their turn. -/
def due (answer : String → Except Failure Json) (pool : Pool) : ExtTreeMap String Json :=
  pool.tasks.foldl (fun collected task => collected.insert task.1 (recordOf (answer task.1)))
    pool.collected

/-- The number of steps until everything is collected. -/
def remaining (pool : Pool) : Nat :=
  pool.tasks.length + pool.tasks.countP fun task => task.2.isNone

/-! ### One step -/

theorem Step.sound (step : Step answer pool next) (sound : pool.Sound answer) :
    next.Sound answer := by
  intro name found member
  cases step with
  | finish =>
      rcases List.mem_append.1 member with earlier | later
      · exact sound name found (List.mem_append_left _ earlier)
      · rcases List.mem_cons.1 later with same | later
        · obtain ⟨rfl, same⟩ := Prod.mk.inj same
          exact Option.some.inj same
        · exact sound name found (List.mem_append_right _ (List.mem_cons_of_mem _ later))
  | collect => exact sound name found (List.mem_cons_of_mem _ member)

/-- **No step changes what will have been collected.** -/
theorem Step.due (step : Step answer pool next) (sound : pool.Sound answer) :
    next.due answer = pool.due answer := by
  cases step with
  | finish => simp only [Pool.due, List.foldl_append, List.foldl_cons]
  | @collect name found rest collected =>
      have right : found = answer name := sound name found List.mem_cons_self
      simp only [Pool.due, List.foldl_cons, right]

/-- Every step leaves less to do. -/
theorem Step.remaining_lt (step : Step answer pool next) : next.remaining < pool.remaining := by
  cases step with
  | finish =>
      simp only [remaining, List.length_append, List.length_cons, List.countP_append,
        List.countP_cons, Option.isNone_none, Option.isNone_some, if_true, if_false,
        Bool.false_eq_true]
      omega
  | collect =>
      simp only [remaining, List.length_cons, List.countP_cons, Option.isNone_some,
        Bool.false_eq_true, if_false]
      omega

/-- As long as an answer is left to be collected, the pool is not stuck. -/
theorem exists_step (answer : String → Except Failure Json) (left : pool.tasks ≠ []) :
    ∃ next, Step answer pool next := by
  obtain ⟨tasks, collected⟩ := pool
  cases tasks with
  | nil => exact absurd rfl left
  | cons first rest =>
      obtain ⟨name, found⟩ := first
      cases found with
      | none => exact ⟨_, @Step.finish answer [] rest name collected⟩
      | some found => exact ⟨_, Step.collect⟩

/-! ### Whole runs -/

/-- No run of a pool goes on for ever. -/
theorem wellFounded_step (answer : String → Except Failure Json) :
    WellFounded fun next pool => Step answer pool next :=
  Subrelation.wf (fun step => step.remaining_lt) (measure remaining).wf

theorem sound_of_run (run : ReflTransGen (Step answer) pool last) (sound : pool.Sound answer) :
    last.Sound answer := by
  induction run with
  | refl => exact sound
  | tail _ step ih => exact step.sound ih

/-- What will have been collected is the same all along a run. -/
theorem due_of_run (run : ReflTransGen (Step answer) pool last) (sound : pool.Sound answer) :
    last.due answer = pool.due answer := by
  induction run with
  | refl => rfl
  | tail before step ih => rw [step.due (sound_of_run before sound), ih]

/-- Every pool can go on until everything is collected. -/
theorem exists_complete_run (answer : String → Except Failure Json) (pool : Pool) :
    ∃ last, ReflTransGen (Step answer) pool last ∧ last.tasks = [] := by
  induction pool using (wellFounded_step answer).induction with
  | _ pool ih =>
      by_cases left : pool.tasks = []
      · exact ⟨pool, .refl, left⟩
      · obtain ⟨next, step⟩ := exists_step answer left
        obtain ⟨last, run, complete⟩ := ih next step
        exact ⟨last, .head step run, complete⟩

/-- Whatever happens, the pool collects the given records: every run can be
completed, none goes on for ever, and one that is complete has collected them. -/
structure Collects (answer : String → Except Failure Json) (pool : Pool)
    (records : ExtTreeMap String Json) : Prop where
  completes : ∀ between, ReflTransGen (Step answer) pool between →
    ∃ last, ReflTransGen (Step answer) between last ∧ last.tasks = []
  ends : Acc (fun next pool => Step answer pool next) pool
  collected : ∀ last, ReflTransGen (Step answer) pool last → last.tasks = [] →
    last.collected = records

/-- **A pool collects the answers of its tasks, whatever order they finish in.** -/
theorem collects_start (answer : String → Except Failure Json) (names : List String) :
    (start names).Collects answer (tableOf id (fun name => recordOf (answer name)) names) where
  completes between _ := exists_complete_run answer between
  ends := (wellFounded_step answer).apply _
  collected last run complete := by
    have sound : (start names).Sound answer := by
      intro name found member
      simp [start] at member
    have same := due_of_run run sound
    simp only [due, complete, List.foldl_nil, start, List.foldl_map] at same
    exact same

end Pool

/-! ## A batch answers its files one by one

The two commands are compared in a tree of files. A batch over a directory has a
member for every name that ends in `.json` and has something in front of that,
and the member is what the file has for an answer when it is evaluated alone:
the record of the evaluation, or the record of the failure
(`AnswersFilewise`).

A member depends on nothing but the name and the text of its file. So a file
that cannot be answered changes no other member, and the order in which the
directory is listed does not show. Nor does the order in which the tasks of the
batch finish, since a pool collects the answers of its tasks in any case
(`Pool.collects_start`).
-/

/-! ### Names of requests -/

/-- **The names of requests end in `.json` and have something in front of it.** -/
theorem isRequestName_iff {name : String} :
    isRequestName name = true ↔ ∃ stem, stem ≠ "" ∧ name = stem ++ ".json" := by
  simp only [isRequestName, Path.extension?, beq_iff_eq]
  constructor
  · intro named
    cases cut : Text.cutLast '.' name.toList with
    | none => simp [cut] at named
    | some parts =>
        obtain ⟨before, after⟩ := parts
        cases before with
        | nil => simp [cut] at named
        | cons first before =>
            rw [cut] at named
            have json : after = ".json".toList.tail := by
              rw [← String.toList_ofList (l := after), Option.some.inj named]
              rfl
            obtain ⟨shape, -⟩ := Text.cutLast_eq_some_iff.1 cut
            refine ⟨String.ofList (first :: before), by simp, ?_⟩
            rw [← String.toList_inj, shape, json]
            simp
  · rintro ⟨stem, notEmpty, rfl⟩
    have cut : Text.cutLast '.' (stem ++ ".json").toList =
        some (stem.toList, ".json".toList.tail) := by
      refine Text.cutLast_eq_some_iff.2 ⟨?_, by decide⟩
      rw [String.toList_append]
      rfl
    cases letters : stem.toList with
    | nil => exact absurd (String.toList_eq_nil_iff.1 letters) notEmpty
    | cons first rest =>
        rw [cut, letters]
        rfl

example : isRequestName ".json" = false ∧ isRequestName "a.JSON" = false := by decide

namespace FileTree

variable {tree : FileTree} {start : Place} {environment : Environment} {home : Option String}
  {session : Session} {directory : String} {entries : List (String × FileTree)}
  {names : List String} {name : String} {record : Json}

/-! ### The members of a batch -/

/-- The answer to the request in a file of a directory. -/
def answerIn (tree : FileTree) (start : Place) (session : Session) (directory name : String) :
    Except Failure Json :=
  session.answer (Path.join directory name) (tree.textIn? start directory name)

/-- The answers to the requests among the given names. -/
def answersIn (tree : FileTree) (start : Place) (session : Session) (directory : String)
    (names : List String) : ExtTreeMap String Json :=
  tableOf id (fun name => Pool.recordOf (tree.answerIn start session directory name))
    (names.filter isRequestName)

/-- A batch has the answers to all requests of the directory as its members. -/
theorem perform_batch (listed : tree.find? start directory = some (.directory entries)) :
    tree.perform start environment home session (.batch directory) =
      (.ok (.record (tree.answersIn start session directory (entries.map Prod.fst)).toList),
        tree) := by
  have recorded : ∀ name, session.answerOrError (Path.join directory name)
      (tree.textIn? start directory name) =
        Pool.recordOf (tree.answerIn start session directory name) := by
    intro name
    simp only [Session.answerOrError, answerIn]
    cases session.answer (Path.join directory name) (tree.textIn? start directory name) with
    | ok record => rfl
    | error failure => rfl
  refine Eq.trans (run_bind_of_run (run_readRequests listed)) ?_
  show (Except.ok (session.batch directory _), tree) = _
  simp only [Session.batch, Session.answers, List.foldl_map, recorded]
  rfl

/-- The members of a batch are the answers by the names of the requests. -/
theorem mem_answersIn_iff :
    (name, record) ∈ (tree.answersIn start session directory names).toList ↔
      name ∈ names.filter isRequestName ∧
        record = Pool.recordOf (tree.answerIn start session directory name) := by
  rw [ExtTreeMap.mem_toList_iff_getElem?_eq_some, answersIn, getElem?_tableOf,
    Option.map_eq_some_iff]
  constructor
  · rintro ⟨last, found, answered⟩
    obtain ⟨member, same⟩ := lastWith?_eq_some found
    rw [id] at same
    subst same
    exact ⟨member, answered.symm⟩
  · rintro ⟨member, answered⟩
    obtain ⟨last, found⟩ := exists_lastWith?_of_mem id member
    have same : last = name := (lastWith?_eq_some found).2
    exact ⟨last, found, same ▸ answered.symm⟩

/-- There is one member for each request. -/
theorem names_answersIn_perm (distinct : names.Nodup) :
    ((tree.answersIn start session directory names).toList.map Prod.fst).Perm
      (names.filter isRequestName) := by
  have once : ((tree.answersIn start session directory names).toList.map Prod.fst).Nodup := by
    rw [ExtTreeMap.map_fst_toList_eq_keys]
    exact ExtTreeMap.nodup_keys
  refine (List.perm_ext_iff_of_nodup once (distinct.filter _)).2 fun name => ?_
  rw [List.mem_map]
  constructor
  · rintro ⟨⟨name, record⟩, member, rfl⟩
    exact (mem_answersIn_iff.1 member).1
  · intro member
    exact ⟨(name, _), mem_answersIn_iff.2 ⟨member, rfl⟩, rfl⟩

/-- The members are those of a batch over a directory with the given names: the
answers to its requests, file by file. -/
structure AnswersFilewise (tree : FileTree) (start : Place) (environment : Environment)
    (home : Option String) (session : Session) (directory : String) (names : List String)
    (members : List (String × Json)) : Prop where
  /-- Each request has one member, and nothing else has one. -/
  requests : (members.map Prod.fst).Perm (names.filter isRequestName)
  /-- A request for which there is a report has what its evaluation yields. -/
  reported : ∀ name ∈ names.filter isRequestName, ∀ record,
    session.Reports (tree.textIn? start directory name) record →
      (name, record) ∈ members ∧
      tree.perform start environment home session (.evaluate (Path.join directory name)) =
        (.ok record, tree)
  /-- Any other request has the failure with which its evaluation ends. -/
  failed : ∀ name ∈ names.filter isRequestName,
    (∀ record, ¬session.Reports (tree.textIn? start directory name) record) →
      ∃ failure : Failure,
        (name, .record [("error", .string failure.chain)]) ∈ members ∧
        tree.perform start environment home session (.evaluate (Path.join directory name)) =
          (.error failure, tree)
  /-- A pool collects the same, whatever order its tasks are started in and finish in. -/
  pooled : ∀ order, order.Perm (names.filter isRequestName) →
    ∃ answers : ExtTreeMap String Json, answers.toList = members ∧
      (Pool.start order).Collects (tree.answerIn start session directory) answers

/-- The answers to the requests of a directory are those of the files. -/
theorem answersFilewise (distinct : names.Nodup) :
    tree.AnswersFilewise start environment home session directory names
      (tree.answersIn start session directory names).toList where
  requests := names_answersIn_perm distinct
  reported name member record reported := by
    have answered : tree.answerIn start session directory name = .ok record :=
      Session.answer_eq_ok_iff.2 reported
    refine ⟨mem_answersIn_iff.2 ⟨member, by rw [answered]; rfl⟩, ?_⟩
    rw [perform_evaluate]
    exact congrArg (·, tree) answered
  failed name member unreported := by
    obtain ⟨failure, answered⟩ :
        ∃ failure, tree.answerIn start session directory name = .error failure :=
      Session.exists_answer_eq_error _ unreported
    refine ⟨failure, mem_answersIn_iff.2 ⟨member, by rw [answered]; rfl⟩, ?_⟩
    rw [perform_evaluate]
    exact congrArg (·, tree) answered
  pooled order reordered := by
    have once : ((names.filter isRequestName).map id).Nodup := by
      rw [List.map_id]
      exact distinct.filter _
    refine ⟨tree.answersIn start session directory names, rfl, ?_⟩
    rw [answersIn, ← tableOf_perm once reordered.symm]
    exact Pool.collects_start _ order

/-- The same texts give the same answer. -/
theorem answerIn_congr {other : FileTree}
    (same : tree.textIn? start directory name = other.textIn? start directory name) :
    tree.answerIn start session directory name = other.answerIn start session directory name := by
  simp only [answerIn, same]

/-- The same requests with the same texts have the same answers, in whatever order
they are listed: a table is told by its members, and these by the names and texts. -/
theorem answersIn_congr {other : FileTree} {otherNames : List String}
    (reordered : (names.filter isRequestName).Perm (otherNames.filter isRequestName))
    (same : ∀ name ∈ names.filter isRequestName,
      tree.textIn? start directory name = other.textIn? start directory name) :
    tree.answersIn start session directory names =
      other.answersIn start session directory otherNames := by
  refine ExtTreeMap.ext_getElem? fun name => Option.ext fun record => ?_
  rw [← ExtTreeMap.mem_toList_iff_getElem?_eq_some, ← ExtTreeMap.mem_toList_iff_getElem?_eq_some,
    mem_answersIn_iff, mem_answersIn_iff, ← reordered.mem_iff]
  refine and_congr_right fun member => ?_
  rw [answerIn_congr (same name member)]

end FileTree

/-- Different members make different records. -/
theorem record_injective : Function.Injective Json.record := by
  intro members others same
  have inside := Json.object.inj same
  refine List.map_injective_iff.2 ?_ inside
  intro ⟨name, record⟩ ⟨otherName, otherRecord⟩ same
  obtain ⟨names, records⟩ := Prod.mk.inj same
  exact Prod.ext (Option.some.inj names) records

/-- **A batch agrees with single evaluations, file by file.** The requests are the
names that end in `.json` and have something in front of it. A batch over a
directory of different names always yields a record, whose members are the answers
to the requests, and it leaves the files as they are.

The entry of a name decides its text, and the text decides the member, whatever
else is in the directory. So directories that differ in the order of the names, or
in what is no request, have the same members.

An invocation carries out its command with a session that does not depend on the
command, so a batch and an evaluation share it. -/
theorem batch_answers_filewise (session : Session) (start : Place) (environment : Environment)
    (home : Option String) (directory : String) :
    (∀ name, isRequestName name = true ↔ ∃ stem, stem ≠ "" ∧ name = stem ++ ".json") ∧
    (∀ (tree : FileTree) (entries : List (String × FileTree)),
      tree.find? start directory = some (.directory entries) → (entries.map Prod.fst).Nodup →
      ∃ members, tree.perform start environment home session (.batch directory) =
          (.ok (.record members), tree) ∧
        tree.AnswersFilewise start environment home session directory (entries.map Prod.fst)
          members) ∧
    (∀ (tree other : FileTree) (entries others : List (String × FileTree)),
      tree.find? start directory = some (.directory entries) →
      other.find? start directory = some (.directory others) →
      (∀ name, Path.IsEntryName name → entries.lookup name = others.lookup name →
        tree.textIn? start directory name = other.textIn? start directory name) ∧
      ∀ members otherMembers,
        tree.perform start environment home session (.batch directory) =
          (.ok (.record members), tree) →
        other.perform start environment home session (.batch directory) =
          (.ok (.record otherMembers), other) →
        (∀ name ∈ entries.map Prod.fst, name ∈ others.map Prod.fst →
          tree.textIn? start directory name = other.textIn? start directory name →
          ∀ record, (name, record) ∈ members ↔ (name, record) ∈ otherMembers) ∧
        (((entries.map Prod.fst).filter isRequestName).Perm
            ((others.map Prod.fst).filter isRequestName) →
          (∀ name ∈ (entries.map Prod.fst).filter isRequestName,
            tree.textIn? start directory name = other.textIn? start directory name) →
          members = otherMembers)) ∧
    (∀ (tree : FileTree) (invocation : Invocation) (command : Command),
      ((FileTree.surroundings start environment home).invoke
          { invocation with command }).run.run tree =
        match ((FileTree.surroundings start environment home).openSession
            invocation).run.run tree with
        | (.ok session, opened) => opened.perform start environment home session command
        | (.error failure, opened) => (.error failure, opened)) := by
  refine ⟨fun name => isRequestName_iff, ?_, ?_, ?_⟩
  · intro tree entries listed distinct
    exact ⟨_, FileTree.perform_batch listed, FileTree.answersFilewise distinct⟩
  · intro tree other entries others listed otherListed
    refine ⟨fun name proper same => FileTree.textIn?_congr listed otherListed proper same, ?_⟩
    intro members otherMembers performed otherPerformed
    rw [FileTree.perform_batch listed] at performed
    rw [FileTree.perform_batch otherListed] at otherPerformed
    obtain rfl := record_injective (Except.ok.inj (Prod.mk.inj performed).1)
    obtain rfl := record_injective (Except.ok.inj (Prod.mk.inj otherPerformed).1)
    constructor
    · intro name listed otherListed same record
      rw [FileTree.mem_answersIn_iff, FileTree.mem_answersIn_iff, FileTree.answerIn_congr same,
        List.mem_filter, List.mem_filter, and_iff_right listed, and_iff_right otherListed]
    · intro reordered same
      rw [FileTree.answersIn_congr reordered same]
  · intro tree invocation command
    rcases opens : ((FileTree.surroundings start environment home).openSession
      invocation).run.run tree with ⟨failure | shared, opened⟩
    · exact run_bind_of_error opens
    · exact run_bind_of_run opens

/-- The text of a request of the overlapping host. -/
def overlappingText : String :=
  "\x7b\"package_list\": [\"bash-0:5.1-1.x86_64\"], \"repository_list\": [\"base\"]\x7d"

/-- A request, a file that has the name of one, and two entries without such a name. -/
def mixedEntries : List (String × FileTree) :=
  [("b.json", .file overlappingText.toUTF8), ("a.json", .file "[".toUTF8), (".json", .empty),
    ("note.txt", .file "".toUTF8)]

/-- The directory without the two other entries, and with a request in either file. -/
def mendedEntries : List (String × FileTree) :=
  [("a.json", .file overlappingText.toUTF8), ("b.json", .file overlappingText.toUTF8)]

/-- The tree with a directory of the given entries. -/
def treeOf (entries : List (String × FileTree)) : FileTree :=
  .directory [("requests", .directory entries)]

/-- The session of the overlapping index. -/
def overlappingSession : Session :=
  ⟨overlappingIndex, .default, overlappingUpdates, false⟩

theorem reports_overlappingText :
    ∃ report, overlappingSession.Reports (some overlappingText) report :=
  ⟨_, overlappingText, overlappingHost, rfl, by decide +kernel, rfl⟩

theorem not_reports_bracket (report : Json) : ¬overlappingSession.Reports (some "[") report := by
  rintro ⟨contents, request, text, read, -⟩
  obtain rfl := Option.some.inj text
  have unreadable : (Json.parse? "[").bind Request.ofJson? = none := by decide +kernel
  rw [unreadable] at read
  cases read

/-- One request has its report and the other one an error, whatever the order of the
directory is. When the other file is mended, the report stays. -/
theorem batch_answers_filewise_mixedEntries :
    ∃ report error answers mendedMembers,
      overlappingSession.Reports ((treeOf mixedEntries).textIn? [] "requests" "b.json") report ∧
      (treeOf mixedEntries).perform [] (fun _ => none) none overlappingSession
        (.batch "requests") = (.ok (.record answers.toList), treeOf mixedEntries) ∧
      (treeOf mixedEntries.reverse).perform [] (fun _ => none) none overlappingSession
        (.batch "requests") = (.ok (.record answers.toList), treeOf mixedEntries.reverse) ∧
      (treeOf mendedEntries).perform [] (fun _ => none) none overlappingSession
        (.batch "requests") = (.ok (.record mendedMembers), treeOf mendedEntries) ∧
      (answers.toList.map Prod.fst).Perm ["b.json", "a.json"] ∧
      (Pool.start ["a.json", "b.json"]).Collects
        ((treeOf mixedEntries).answerIn [] overlappingSession "requests") answers ∧
      ("b.json", report) ∈ answers.toList ∧
      ("a.json", .record [("error", .string error)]) ∈ answers.toList ∧
      ("b.json", report) ∈ mendedMembers := by
  obtain ⟨-, yields, agrees, -⟩ := batch_answers_filewise overlappingSession [] (fun _ => none)
    none "requests"
  have text : (treeOf mixedEntries).textIn? [] "requests" "b.json" = some overlappingText := by
    decide +kernel
  have bracket : (treeOf mixedEntries).textIn? [] "requests" "a.json" = some "[" := by
    decide +kernel
  have requests : (mixedEntries.map Prod.fst).filter isRequestName = ["b.json", "a.json"] := by
    decide
  have aName : Path.IsEntryName "a.json" := by constructor <;> decide
  have bName : Path.IsEntryName "b.json" := by constructor <;> decide
  obtain ⟨report, reports⟩ := reports_overlappingText
  rw [← text] at reports
  obtain ⟨members, performed, filewise⟩ := yields (treeOf mixedEntries) mixedEntries rfl (by decide)
  obtain ⟨others, otherPerformed, -⟩ :=
    yields (treeOf mixedEntries.reverse) mixedEntries.reverse rfl (by decide)
  obtain ⟨mended, mendedPerformed, -⟩ := yields (treeOf mendedEntries) mendedEntries rfl (by decide)
  obtain ⟨failure, failed, -⟩ :=
    filewise.failed "a.json" (by decide) (bracket ▸ not_reports_bracket)
  have reported := (filewise.reported "b.json" (by decide) report reports).1
  obtain ⟨answers, rfl, collected⟩ := filewise.pooled ["a.json", "b.json"] (by decide)
  have same : answers.toList = others := by
    obtain ⟨texts, same⟩ := agrees (treeOf mixedEntries) (treeOf mixedEntries.reverse)
      mixedEntries mixedEntries.reverse rfl rfl
    refine (same _ _ performed otherPerformed).2 (by decide) ?_
    intro name requested
    rw [requests, List.mem_pair] at requested
    rcases requested with rfl | rfl
    · exact texts "b.json" bName rfl
    · exact texts "a.json" aName rfl
  have kept : ("b.json", report) ∈ mended := by
    obtain ⟨texts, same⟩ := agrees (treeOf mixedEntries) (treeOf mendedEntries) mixedEntries
      mendedEntries rfl rfl
    exact ((same _ _ performed mendedPerformed).1 "b.json" (by decide) (by decide)
      (texts "b.json" bName rfl) report).1 reported
  exact ⟨report, failure.chain, answers, mended, reports, performed, same ▸ otherPerformed,
    mendedPerformed, filewise.requests, collected, reported, failed, kept⟩

end CveTriage.CommandLine
