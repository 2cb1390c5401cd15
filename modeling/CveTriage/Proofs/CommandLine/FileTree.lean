import CveTriage.CommandLine.FileTree
import CveTriage.CommandLine.Program

/-!
# Files and commands

Where a path to an entry of a directory leads, and what the commands answer in a tree of
files.
-/

set_option autoImplicit false

namespace CveTriage.CommandLine

/-! ## The entries of a directory

A directory that a path leads to can be entered by name. If the name is one that
an entry may have, and the longer path is not too long, then the path with the
name behind it leads to the entry (`FileTree.find?_join`).

The segments of the longer path are those of the path to the directory, and the
name as one more. A slash at the end of the path to the directory makes no
difference: the empty segment behind it stays where it is.
-/

namespace Path

/-- A name that the entry of a directory may have. -/
structure IsEntryName (name : String) : Prop where
  notEmpty : name ≠ ""
  notHere : name ≠ "."
  notAbove : name ≠ ".."
  noSlash : '/' ∉ name.toList
  noNull : '\x00' ∉ name.toList
  notTooLong : name.utf8ByteSize ≤ nameLimit

variable {directory name : String}

theorem segments_of_noSlash (noSlash : '/' ∉ name.toList) : segments name = [name] := by
  have whole : name.toList.splitOn '/' = [name.toList] := by
    refine List.splitOnP_eq_singleton fun char member => ?_
    simp only [beq_eq_false_iff_ne, ne_eq]
    rintro rfl
    exact noSlash member
  rw [segments, whole, List.map_singleton, String.ofList_toList]

theorem segments_append_slash (start rest : String) :
    segments (start ++ "/" ++ rest) = segments start ++ segments rest := by
  have cut : (start ++ "/" ++ rest).toList = start.toList ++ '/' :: rest.toList := by simp
  simp only [segments, cut, List.splitOn]
  rw [List.splitOnP_append_cons _ _ (by decide), List.map_append]

/-- The name of an entry is one more segment, in front of which there may be the
empty one behind a slash at the end. -/
theorem segments_join (notEmpty : directory ≠ "") (noSlash : '/' ∉ name.toList) :
    ∃ front, segments (join directory name) = front ++ [name] ∧
      (segments directory = front ∨ segments directory = front ++ [""]) := by
  by_cases ended : directory.toList.getLast? = some '/'
  · obtain ⟨start, shape⟩ := List.getLast?_eq_some_iff.1 ended
    have shaped : directory = String.ofList start ++ "/" ++ "" := by
      rw [← String.toList_inj, shape]
      simp
    have joined : join directory name = String.ofList start ++ "/" ++ name := by
      rw [join, if_pos (.inr ended), shaped, String.append_empty]
    refine ⟨segments (String.ofList start), ?_, .inr ?_⟩
    · rw [joined, segments_append_slash, segments_of_noSlash noSlash]
    · rw [shaped, segments_append_slash]
      rfl
  · have joined : join directory name = directory ++ "/" ++ name :=
      if_neg (not_or.2 ⟨by simpa using notEmpty, ended⟩)
    refine ⟨segments directory, ?_, .inl rfl⟩
    rw [joined, segments_append_slash, segments_of_noSlash noSlash]

/-- The name of an entry leaves the start of the path as it is. -/
theorem isAbsolute_join (notEmpty : directory ≠ "") :
    isAbsolute (join directory name) = isAbsolute directory := by
  cases letters : directory.toList with
  | nil => exact absurd (String.toList_eq_nil_iff.1 letters) notEmpty
  | cons first rest =>
      simp only [isAbsolute, join]
      split <;> simp [letters]

/-- The characters of the longer path are those of the two parts, and slashes. -/
theorem null_notMem_join (directoryNull : '\x00' ∉ directory.toList)
    (nameNull : '\x00' ∉ name.toList) : '\x00' ∉ (join directory name).toList := by
  simp only [join]
  split <;> simp [directoryNull, nameNull]

theorem join_ne_empty (notEmpty : directory ≠ "") : join directory name ≠ "" := by
  simp only [join]
  split <;> simp [notEmpty]

end Path

namespace FileTree

variable {tree : FileTree} {start : Place} {directory name : String}
  {entries : List (String × FileTree)} {trail : Trail}

/-- A step to an entry of the directory at the end of the trail. -/
theorem step_entry (here : tree.found? trail = some (.directory entries))
    (proper : Path.IsEntryName name) :
    tree.step trail name = .ok ((name, entries.lookup name) :: trail) := by
  simp only [step, here]
  rw [if_neg (by simp [proper.notEmpty, proper.notHere]), if_neg proper.notAbove,
    if_neg (Nat.not_lt.2 proper.notTooLong)]

/-- An empty step stays where it is. -/
theorem trail_of_step_empty {next : Trail} (stepped : tree.step trail "" = .ok next) :
    next = trail := by
  simp only [step] at stepped
  split at stepped
  · cases stepped
  · cases stepped
  · exact (Except.ok.inj stepped).symm

/-- A walk ends somewhere if the path is fit to be walked and every step is possible. -/
theorem follow_eq_ok_iff {path : String} {segments : List String} :
    tree.follow start path segments = .ok trail ↔
      '\x00' ∉ path.toList ∧ Path.isTooLong path = false ∧ path ≠ "" ∧
        segments.foldlM tree.step (if Path.isAbsolute path then [] else tree.trailTo start) =
          .ok trail := by
  by_cases noNull : '\x00' ∈ path.toList
  · simp [follow, noNull]
  · cases long : Path.isTooLong path with
    | true => simp [follow, noNull, long]
    | false =>
        by_cases empty : path = ""
        · subst empty
          simp [follow, long]
        · simp [follow, noNull, long, empty]

/-- What a path leads to is at the end of a walk along its segments. -/
theorem find?_eq_some_iff {path : String} {found : FileTree} :
    tree.find? start path = some found ↔
      ∃ trail, tree.follow start path (Path.segments path) = .ok trail ∧
        tree.found? trail = some found := by
  simp only [find?]
  cases tree.follow start path (Path.segments path) with
  | error cause => simp
  | ok trail => simp

/-- A path that is too long leads nowhere. -/
theorem find?_eq_none_of_isTooLong {path : String} (long : Path.isTooLong path = true) :
    tree.find? start path = none := by
  refine Option.eq_none_iff_forall_ne_some.2 fun found leads => ?_
  obtain ⟨trail, walked, -⟩ := find?_eq_some_iff.1 leads
  obtain ⟨-, short, -⟩ := follow_eq_ok_iff.1 walked
  rw [long] at short
  cases short

/-- An empty segment behind the others is a step that stays where they lead. -/
theorem foldlM_step_of_emptyLast {front : List String} {before trail : Trail}
    (steps : (front ++ [""]).foldlM tree.step before = .ok trail) :
    front.foldlM tree.step before = .ok trail := by
  rw [List.foldlM_append] at steps
  cases reached : front.foldlM tree.step before with
  | error cause =>
      rw [reached] at steps
      cases steps
  | ok last =>
      rw [reached] at steps
      have walked : [""].foldlM tree.step last = .ok trail := steps
      have stepped : tree.step last "" = .ok trail := by simpa using walked
      rw [trail_of_step_empty stepped]

/-- **A path with the name of an entry behind it leads to the entry.** -/
theorem find?_join (listed : tree.find? start directory = some (.directory entries))
    (proper : Path.IsEntryName name) (short : Path.isTooLong (Path.join directory name) = false) :
    tree.find? start (Path.join directory name) = entries.lookup name := by
  obtain ⟨trail, walked, here⟩ := find?_eq_some_iff.1 listed
  obtain ⟨noNull, -, notEmpty, steps⟩ := follow_eq_ok_iff.1 walked
  obtain ⟨front, joined, shape⟩ := Path.segments_join notEmpty proper.noSlash
  have front : front.foldlM tree.step
      (if Path.isAbsolute directory then [] else tree.trailTo start) = .ok trail := by
    rcases shape with same | slash
    · rw [← same]
      exact steps
    · rw [slash] at steps
      exact foldlM_step_of_emptyLast steps
  have further : tree.follow start (Path.join directory name)
      (Path.segments (Path.join directory name)) =
        .ok ((name, entries.lookup name) :: trail) := by
    refine follow_eq_ok_iff.2 ⟨Path.null_notMem_join noNull proper.noNull, short,
      Path.join_ne_empty notEmpty, ?_⟩
    rw [Path.isAbsolute_join notEmpty, joined, List.foldlM_append, front]
    show List.foldlM tree.step trail [name] = _
    rw [List.foldlM_cons, step_entry here proper]
    rfl
  simp only [find?, further]
  rfl

end FileTree

/-! ## Commands in a tree of files

In a tree of files a command is a function: it yields a record or a failure, and
the tree afterwards (`FileTree.perform`). Neither of the two commands changes a
tree in which it can read. An evaluation answers the text of a file
(`FileTree.perform_evaluate`); a batch reads the texts of the requests of a
directory one after the other (`FileTree.run_readRequests`), and what it reads for
a name is decided by the entry of that name (`FileTree.textIn?_congr`).
-/

/-! ### Runs -/

section Runs

variable {ε σ α β : Type} {state next : σ}

/-- What follows a successful action starts where the action ends. -/
theorem run_bind_of_run {action : ExceptT ε (StateM σ) α} {value : α}
    {rest : α → ExceptT ε (StateM σ) β} (ran : action.run.run state = (.ok value, next)) :
    (action >>= rest).run.run state = (rest value).run.run next := by
  rw [ExceptT.run_bind, StateT.run_bind, ran]
  rfl

/-- Nothing follows an action that fails. -/
theorem run_bind_of_error {action : ExceptT ε (StateM σ) α} {failure : ε}
    {rest : α → ExceptT ε (StateM σ) β} (ran : action.run.run state = (.error failure, next)) :
    (action >>= rest).run.run state = (.error failure, next) := by
  rw [ExceptT.run_bind, StateT.run_bind, ran]
  rfl

/-- Actions that only look something up leave the state as it is. -/
theorem run_mapM_of_run (lookUp : α → ExceptT ε (StateM σ) β) (value : α → β)
    (ran : ∀ element, (lookUp element).run.run state = (.ok (value element), state))
    (elements : List α) :
    (elements.mapM lookUp).run.run state = (.ok (elements.map value), state) := by
  induction elements with
  | nil => rfl
  | cons first rest ih =>
      rw [List.mapM_cons, run_bind_of_run (ran first), run_bind_of_run ih]
      rfl

end Runs

/-! ### Answers -/

namespace Session

variable {session : Session} {path : String} {text : Option String} {record : Json}

/-- The text is that of a request, and the session reports the record for it. -/
def Reports (session : Session) (text : Option String) (record : Json) : Prop :=
  ∃ contents request, text = some contents ∧
    (Json.parse? contents).bind Request.ofJson? = some request ∧
    session.report request = .ok record

/-- The answer is the record that the session reports. -/
theorem answer_eq_ok_iff :
    session.answer path text = .ok record ↔ session.Reports text record := by
  constructor
  · intro answered
    cases text with
    | none => cases answered
    | some contents =>
        cases read : (Json.parse? contents).bind Request.ofJson? with
        | none => simp [answer, read] at answered
        | some request =>
            cases reported : session.report request with
            | error cause =>
                simp only [answer, read, reported] at answered
                cases answered
            | ok same =>
                simp only [answer, read, reported] at answered
                obtain rfl : same = record := Except.ok.inj answered
                exact ⟨contents, request, rfl, read, reported⟩
  · rintro ⟨contents, request, rfl, read, reported⟩
    simp only [answer, read, reported]
    rfl

/-- Where nothing is reported, the answer is a failure. -/
theorem exists_answer_eq_error (path : String)
    (unreported : ∀ record, ¬session.Reports text record) :
    ∃ failure, session.answer path text = .error failure := by
  cases answered : session.answer path text with
  | error failure => exact ⟨failure, rfl⟩
  | ok record => exact absurd (answer_eq_ok_iff.1 answered) (unreported record)

end Session

/-! ### Commands -/

namespace FileTree

section

variable (tree : FileTree) (start : Place)

/-- The text at a path, if there is a file that holds a text. -/
def text? (path : String) : Option String :=
  match tree.find? start path with
  | some (.file contents) => String.fromUTF8? contents
  | _ => none

/-- The text of a file in a directory. -/
def textIn? (directory name : String) : Option String :=
  tree.text? start (Path.join directory name)

/-- Carries out a command among the files of the tree. -/
def perform (environment : Environment) (home : Option String) (session : Session)
    (command : Command) : Except Failure Json × FileTree :=
  ((surroundings start environment home).perform session command).run.run tree

end

variable {tree : FileTree} {start : Place} {environment : Environment} {home : Option String}
  {session : Session} {directory : String} {entries : List (String × FileTree)}

theorem run_readText (path : String) :
    (ExceptT.lift ((surroundings start environment home).readText path) :
      ExceptT Failure (StateM FileTree) (Option String)).run.run tree =
      (.ok (tree.text? start path), tree) := rfl

/-- An evaluation answers the text at the path. -/
theorem perform_evaluate (path : String) :
    tree.perform start environment home session (.evaluate path) =
      (session.answer path (tree.text? start path), tree) := by
  refine Eq.trans (run_bind_of_run (run_readText path)) ?_
  cases session.answer path (tree.text? start path) with
  | ok record => rfl
  | error failure => rfl

theorem run_listDirectory (listed : tree.find? start directory = some (.directory entries)) :
    (ExceptT.lift ((surroundings start environment home).listDirectory directory) :
      ExceptT Failure (StateM FileTree) (Option (List String))).run.run tree =
      (.ok (some (entries.map Prod.fst)), tree) := by
  simp only [surroundings, ExceptT.run_lift, StateT.run_map, StateT.run_bind, StateT.run_get,
    pure_bind, StateT.run_pure, listed, map_pure]
  rfl

/-- The requests of a directory are read one after the other. -/
theorem run_readRequests (listed : tree.find? start directory = some (.directory entries)) :
    ((surroundings start environment home).readRequests directory).run.run tree =
      (.ok (((entries.map Prod.fst).filter isRequestName).map
        fun name => (name, tree.textIn? start directory name)), tree) := by
  refine Eq.trans (run_bind_of_run (run_listDirectory listed)) ?_
  refine run_mapM_of_run _ (fun name => (name, tree.textIn? start directory name)) ?_ _
  intro name
  exact run_bind_of_run (run_readText (Path.join directory name))

/-- The text that is read for a name is decided by the entry. -/
theorem textIn?_congr {other : FileTree} {others : List (String × FileTree)}
    (listed : tree.find? start directory = some (.directory entries))
    (otherListed : other.find? start directory = some (.directory others))
    {name : String} (proper : Path.IsEntryName name)
    (same : entries.lookup name = others.lookup name) :
    tree.textIn? start directory name = other.textIn? start directory name := by
  have found : tree.find? start (Path.join directory name) =
      other.find? start (Path.join directory name) := by
    cases long : Path.isTooLong (Path.join directory name) with
    | true => rw [find?_eq_none_of_isTooLong long, find?_eq_none_of_isTooLong long]
    | false => rw [find?_join listed proper long, find?_join otherListed proper long, same]
  simp only [textIn?, text?, found]

end FileTree

end CveTriage.CommandLine
