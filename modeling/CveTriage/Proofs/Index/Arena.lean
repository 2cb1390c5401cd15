import CveTriage.Index.Shared
import CveTriage.Proofs.Evaluation.Classification
import Mathlib.Data.Fintype.EquivFin
import Mathlib.Logic.Function.Basic
import Mathlib.Logic.Relation

/-!
# Shared indexes

A shared index is kept at a place that counts the references to it. The module has the
steps that callers can take, and what no sequence of steps can lose.
-/

set_option autoImplicit false

namespace CveTriage

open Relation (ReflTransGen)

/-! ## Indexes by reference

The holder of a shared index does not hold the index itself, but a reference to
the place where it is kept, and a snapshot is one more reference to that place.
A place counts the references to it. When the last one is given up, so is the
index, and another index may be kept in its place.

Any number of callers share an index. At any time any of them may take a
snapshot, replace the index, or give up a reference that it holds, each at one
go. The steps of an arena say what can happen next, and nothing is said about
which of the possible steps happens.
-/

/-- An index at its place, with the count of the references to it. -/
structure Cell (α : Type) where
  index : α
  references : Nat

/-- The cell with one more reference. -/
def Cell.retain {α : Type} (cell : Cell α) : Cell α :=
  { cell with references := cell.references + 1 }

/-- What is left of the cell when one reference is given up. -/
def Cell.release {α : Type} (cell : Cell α) : Option (Cell α) :=
  if cell.references = 1 then none else some { cell with references := cell.references - 1 }

/-- An access of a caller, with the index that it took. -/
structure Call (α : Type) where
  caller : Nat
  access : Shared.Access α
  taken : α

/-- A reference that a caller holds. -/
structure Hold where
  /-- The number of the call that took it. -/
  number : Nat
  caller : Nat
  place : Nat

/-- The places where indexes are kept, and the references to them. -/
structure Arena (α : Type) where
  cells : Nat → Option (Cell α)
  /-- The place of the current index. -/
  current : Nat
  /-- The references of the callers. -/
  holds : List Hold
  /-- What has been called so far. -/
  history : List (Call α)

namespace Arena

variable {α β : Type}

/-- The arena of a new holder. -/
def start (first : α) : Arena α :=
  ⟨Function.update (fun _ => none) 0 (some ⟨first, 1⟩), 0, [], []⟩

/-- The index that is kept at a place. -/
def index? (arena : Arena α) (place : Nat) : Option α :=
  (arena.cells place).map Cell.index

/-- The answer of the index at a place, if one is kept there. -/
def ask (arena : Arena α) (place : Nat) (question : α → β) : Option β :=
  (arena.index? place).map question

/-- One step of the callers of a shared index. -/
inductive Step : Arena α → Arena α → Prop where
  /-- A caller takes a reference to the current index. -/
  | snapshot {arena : Arena α} {cell : Cell α} (caller : Nat)
      (found : arena.cells arena.current = some cell) :
      Step arena
        { arena with
          cells := Function.update arena.cells arena.current (some cell.retain)
          holds := ⟨arena.history.length, caller, arena.current⟩ :: arena.holds
          history := arena.history ++ [⟨caller, .snapshot, cell.index⟩] }
  /-- A new index is kept at a free place, and a caller takes the reference to the
  previous one from the holder. -/
  | replace {arena : Arena α} {cell : Cell α} (caller : Nat) (index : α) (place : Nat)
      (found : arena.cells arena.current = some cell) (free : arena.cells place = none) :
      Step arena
        { cells := Function.update arena.cells place (some ⟨index, 1⟩)
          current := place
          holds := ⟨arena.history.length, caller, arena.current⟩ :: arena.holds
          history := arena.history ++ [⟨caller, .replace index, cell.index⟩] }
  /-- A caller gives up a reference. -/
  | release {arena : Arena α} {cell : Cell α} {before after : List Hold} (hold : Hold)
      (held : arena.holds = before ++ hold :: after)
      (found : arena.cells hold.place = some cell) :
      Step arena
        { arena with
          cells := Function.update arena.cells hold.place cell.release
          holds := before ++ after }

end Arena

/-! ## A held snapshot keeps its answers

An index can be given up, and its place used for another one, but not while
something refers to the place. All that a step can do about a place is said once
(`Step.effect`). It follows that the counts stay right (`Step.counted`), and so
that no step changes the index of a place to which something refers before and
after (`Step.index?_eq`).

All that a step can do about the callers is said once, too (`Step.calls`). What
is known of an arena at any time (`Faithful`) is known at the start, and no step
spoils it (`Step.faithful`). A reference that is held leads to what the call took
that took the reference, and what the calls took is what the same accesses take
from a holder that has the index itself.

The steps are not made up to be few. Any caller can have any access at any time
(`exists_run`), and can give up any reference that it holds (`exists_release`).
-/

namespace Arena

variable {α β : Type} {arena next last : Arena α}

/-! ### References -/

/-- The places to which something refers, each as often as something does. -/
def referred (arena : Arena α) : List Nat :=
  arena.current :: arena.holds.map Hold.place

/-- The number of references to a place. -/
def references (arena : Arena α) (place : Nat) : Nat :=
  arena.referred.count place

theorem references_pos_iff {place : Nat} :
    0 < arena.references place ↔ place ∈ arena.referred :=
  List.count_pos_iff

theorem references_current_pos (arena : Arena α) : 0 < arena.references arena.current :=
  references_pos_iff.2 List.mem_cons_self

theorem references_pos_of_mem {hold : Hold} (held : hold ∈ arena.holds) :
    0 < arena.references hold.place :=
  references_pos_iff.2 (List.mem_cons_of_mem _ (List.mem_map_of_mem held))

/-- Everything that one step can do about a place. -/
inductive Effect (arena next : Arena α) (place : Nat) : Prop where
  | none (cells : next.cells place = arena.cells place)
      (count : next.references place = arena.references place)
  | retained {cell : Cell α} (found : arena.cells place = some cell)
      (cells : next.cells place = some cell.retain)
      (count : next.references place = arena.references place + 1)
  | filled {index : α} (free : arena.cells place = none)
      (cells : next.cells place = some ⟨index, 1⟩)
      (count : next.references place = arena.references place + 1)
  | released {cell : Cell α} (found : arena.cells place = some cell)
      (cells : next.cells place = cell.release)
      (count : next.references place + 1 = arena.references place)

theorem Step.effect (step : Step arena next) (place : Nat) : Effect arena next place := by
  cases step with
  | snapshot caller found =>
      by_cases here : place = arena.current
      · subst here
        refine .retained found (Function.update_self _ _ _) ?_
        simp only [references, referred, List.map_cons, List.count_cons_self]
      · refine .none (Function.update_of_ne here _ _) ?_
        simp only [references, referred, List.map_cons, List.count_cons_of_ne (Ne.symm here)]
  | replace caller index fresh found free =>
      by_cases here : place = fresh
      · subst here
        refine .filled free (Function.update_self _ _ _) ?_
        simp only [references, referred, List.map_cons, List.count_cons_self]
      · refine .none (Function.update_of_ne here _ _) ?_
        simp only [references, referred, List.map_cons, List.count_cons_of_ne (Ne.symm here)]
  | release hold held found =>
      by_cases here : place = hold.place
      · subst here
        refine .released found (Function.update_self _ _ _) ?_
        simp only [references, referred, held, List.map_append, List.map_cons, List.count_cons,
          List.count_append, beq_self_eq_true, if_true]
        omega
      · refine .none (Function.update_of_ne here _ _) ?_
        simp only [references, referred, held, List.map_append, List.map_cons, List.count_cons,
          List.count_append, beq_eq_false_iff_ne.2 (Ne.symm here), Bool.false_eq_true, if_false,
          Nat.add_zero]

/-- The count of a cell is right, and without references there is no cell. -/
def IsCount (cell : Option (Cell α)) (references : Nat) : Prop :=
  match cell with
  | none => references = 0
  | some cell => cell.references = references ∧ 0 < references

/-- An index is kept exactly as long as something refers to its place, and the place
counts the references. -/
def Counted (arena : Arena α) : Prop :=
  ∀ place, IsCount (arena.cells place) (arena.references place)

theorem counted_start (first : α) : (start first).Counted := by
  intro place
  by_cases here : place = 0
  · subst here
    exact ⟨rfl, Nat.one_pos⟩
  · have free : (start first).cells place = none := by simp [start, here]
    rw [free]
    exact List.count_eq_zero.2 (by simpa [referred, start] using here)

/-- The counts stay right. -/
theorem Step.counted (step : Step arena next) (counted : arena.Counted) : next.Counted := by
  intro place
  have before := counted place
  cases step.effect place with
  | none cells count => rwa [cells, count]
  | retained found cells count =>
      rw [found] at before
      rw [cells, count]
      exact ⟨congrArg (· + 1) before.1, Nat.succ_pos _⟩
  | filled free cells count =>
      rw [free] at before
      rw [cells, count]
      exact ⟨congrArg (· + 1) before.symm, Nat.succ_pos _⟩
  | @released cell found cells count =>
      rw [found, ← count] at before
      rw [cells]
      by_cases last : cell.references = 1
      · rw [Cell.release, if_pos last]
        exact Nat.succ.inj (before.1.symm.trans last)
      · rw [Cell.release, if_neg last]
        obtain ⟨exact, -⟩ := before
        refine ⟨?_, ?_⟩
        · show cell.references - 1 = _
          omega
        · omega

theorem index?_of_cell {place : Nat} {cell : Cell α} (found : arena.cells place = some cell) :
    arena.index? place = some cell.index :=
  congrArg (Option.map Cell.index) found

/-- **No step puts another index where something keeps referring to.** -/
theorem Step.index?_eq (step : Step arena next) (counted : arena.Counted) {place : Nat}
    (before : 0 < arena.references place) (after : 0 < next.references place) :
    next.index? place = arena.index? place := by
  have isCount := counted place
  cases step.effect place with
  | none cells count => rw [index?, cells, index?]
  | retained found cells count => rw [index?_of_cell found, index?_of_cell cells, Cell.retain]
  | filled free cells count =>
      rw [free] at isCount
      exact absurd isCount (Nat.ne_of_gt before)
  | @released cell found cells count =>
      rw [found] at isCount
      obtain ⟨exact, -⟩ := isCount
      have notLast : cell.references ≠ 1 := by omega
      rw [Cell.release, if_neg notLast] at cells
      rw [index?_of_cell found, index?_of_cell cells]

/-! ### Calls -/

/-- Everything that one step can do about the callers: one of them accesses the
current index, or references are given up. -/
theorem Step.calls (step : Step arena next) :
    (∃ caller access index, arena.index? arena.current = some index ∧
      next.history = arena.history ++ [⟨caller, access, index⟩] ∧
      next.holds = ⟨arena.history.length, caller, arena.current⟩ :: arena.holds ∧
      next.index? next.current = some ((⟨index⟩ : Shared α).access access).2.current) ∨
    (next.history = arena.history ∧ next.current = arena.current ∧
      ∀ hold ∈ next.holds, hold ∈ arena.holds) := by
  cases step with
  | @snapshot cell caller found =>
      refine .inl ⟨caller, .snapshot, cell.index, index?_of_cell found, rfl, rfl, ?_⟩
      have retained : Function.update arena.cells arena.current (some cell.retain) arena.current =
          some cell.retain := Function.update_self _ _ _
      exact congrArg (Option.map Cell.index) retained
  | @replace cell caller index fresh found free =>
      refine .inl ⟨caller, .replace index, cell.index, index?_of_cell found, rfl, rfl, ?_⟩
      have filled : Function.update arena.cells fresh (some ⟨index, 1⟩) fresh =
          some ⟨index, 1⟩ := Function.update_self _ _ _
      exact congrArg (Option.map Cell.index) filled
  | release hold held found =>
      refine .inr ⟨rfl, rfl, fun other member => ?_⟩
      rw [held]
      rcases List.mem_append.1 member with before | after
      · exact List.mem_append_left _ before
      · exact List.mem_append_right _ (List.mem_cons_of_mem _ after)

/-- The history only grows. -/
theorem Step.history_grows (step : Step arena next) : arena.history <+: next.history := by
  rcases step.calls with ⟨caller, access, index, -, history, -, -⟩ | ⟨history, -, -⟩
  · rw [history]
    exact List.prefix_append _ _
  · rw [history]

/-- A call keeps its number. -/
theorem called_of_grown {history later : List (Call α)} (grown : history <+: later)
    {number : Nat} {call : Call α} (called : history[number]? = some call) :
    later[number]? = some call := by
  obtain ⟨rest, rfl⟩ := grown
  rw [List.getElem?_append_left (List.getElem?_eq_some_iff.1 called).1, called]

/-- What is known of an arena at any time: the counts are right, the calls have taken
what they take from a holder of the first index, and the reference that a call took
leads to what the call took. -/
structure Faithful (first : α) (arena : Arena α) : Prop where
  counted : arena.Counted
  replayed : ∃ index, arena.index? arena.current = some index ∧
    (⟨first⟩ : Shared α).run (arena.history.map Call.access) =
      (arena.history.map Call.taken, ⟨index⟩)
  held : ∀ hold ∈ arena.holds, ∃ call, arena.history[hold.number]? = some call ∧
    call.caller = hold.caller ∧ arena.index? hold.place = some call.taken

theorem faithful_start (first : α) : (start first).Faithful first where
  counted := counted_start first
  replayed := ⟨first, rfl, rfl⟩
  held _ member := absurd member List.not_mem_nil

/-- The index of a reference that stays does not change. -/
theorem Step.index?_of_mem (step : Step arena next) (counted : arena.Counted) {hold : Hold}
    (before : hold ∈ arena.holds) (after : hold ∈ next.holds) :
    next.index? hold.place = arena.index? hold.place :=
  step.index?_eq counted (references_pos_of_mem before) (references_pos_of_mem after)

/-- What is known stays known. A call takes the current index, which is what the holder of
it has, and after any other step the holder refers to the current index as before. -/
theorem Step.faithful {first : α} (step : Step arena next) (faithful : arena.Faithful first) :
    next.Faithful first where
  counted := step.counted faithful.counted
  replayed := by
    obtain ⟨current, kept, replayed⟩ := faithful.replayed
    rcases step.calls with ⟨caller, access, index, here, history, -, after⟩ | ⟨history, same, -⟩
    · rw [kept] at here
      obtain rfl := Option.some.inj here
      refine ⟨_, after, ?_⟩
      rw [history, List.map_append, List.map_append, Shared.run_append, replayed]
      cases access with
      | snapshot => rfl
      | replace index => rfl
    · refine ⟨current, ?_, by rw [history, replayed]⟩
      rw [← kept, same]
      refine step.index?_eq faithful.counted (references_current_pos arena) ?_
      rw [← same]
      exact references_current_pos next
  held hold member := by
    have old : hold ∈ arena.holds → ∃ call, next.history[hold.number]? = some call ∧
        call.caller = hold.caller ∧ next.index? hold.place = some call.taken := by
      intro old
      obtain ⟨call, called, same, taken⟩ := faithful.held hold old
      refine ⟨call, called_of_grown step.history_grows called, same, ?_⟩
      rw [step.index?_of_mem faithful.counted old member, taken]
    rcases step.calls with ⟨caller, access, index, here, history, holds, -⟩ | ⟨-, -, fewer⟩
    · rcases List.mem_cons.1 (holds ▸ member) with new | before
      · subst new
        refine ⟨⟨caller, access, index⟩, by simp [history], rfl, ?_⟩
        rw [← here]
        exact step.index?_eq faithful.counted (references_current_pos arena)
          (references_pos_of_mem member)
      · exact old before
    · exact old (fewer hold member)

/-- **All along a run, held references lead to what was taken.** -/
theorem faithful_of_run {first : α} (run : ReflTransGen Step (start first) arena) :
    arena.Faithful first := by
  induction run with
  | refl => exact faithful_start first
  | tail _ step ih => exact step.faithful ih

theorem history_grows_of_run (run : ReflTransGen Step arena last) :
    arena.history <+: last.history := by
  induction run with
  | refl => exact List.prefix_rfl
  | tail _ step ih => exact ih.trans step.history_grows

/-- A reference that is still held leads to what it led to before. -/
theorem index?_of_run {first : α} (before : ReflTransGen Step (start first) arena)
    (run : ReflTransGen Step arena last) {hold : Hold} (held : hold ∈ arena.holds)
    (still : hold ∈ last.holds) : last.index? hold.place = arena.index? hold.place := by
  obtain ⟨call, called, -, taken⟩ := (faithful_of_run before).held hold held
  obtain ⟨same, calledAlso, -, takenAlso⟩ :=
    (faithful_of_run (before.trans run)).held hold still
  rw [called_of_grown (history_grows_of_run run) called] at calledAlso
  rw [taken, takenAlso, Option.some.inj calledAlso]

/-! ### What can happen -/

/-- There is always room for another index. -/
theorem exists_free (counted : arena.Counted) : ∃ place, arena.cells place = none := by
  obtain ⟨place, unused⟩ :=
    Infinite.exists_notMem_finset arena.referred.toFinset
  refine ⟨place, ?_⟩
  have isCount := counted place
  cases kept : arena.cells place with
  | none => rfl
  | some cell =>
      rw [kept] at isCount
      exact absurd (List.mem_toFinset.2 (references_pos_iff.1 isCount.2)) unused

/-- Any access is possible for any caller at any time. -/
theorem exists_step {first : α} (faithful : arena.Faithful first) (caller : Nat)
    (access : Shared.Access α) :
    ∃ next index, Step arena next ∧
      next.history = arena.history ++ [⟨caller, access, index⟩] := by
  obtain ⟨index, kept, -⟩ := faithful.replayed
  obtain ⟨cell, found, -⟩ := Option.map_eq_some_iff.1 kept
  cases access with
  | snapshot => exact ⟨_, _, .snapshot caller found, rfl⟩
  | replace index =>
      obtain ⟨place, free⟩ := exists_free faithful.counted
      exact ⟨_, _, .replace caller index place found free, rfl⟩

/-- Any accesses are possible for any callers, in whatever order they come. -/
theorem exists_run (first : α) (calls : List (Nat × Shared.Access α)) :
    ∃ arena, ReflTransGen Step (start first) arena ∧
      arena.history.map (fun call => (call.caller, call.access)) = calls := by
  induction calls using List.reverseRecOn with
  | nil => exact ⟨start first, .refl, rfl⟩
  | append_singleton calls call ih =>
      obtain ⟨arena, run, called⟩ := ih
      obtain ⟨next, index, step, history⟩ :=
        exists_step (faithful_of_run run) call.1 call.2
      exact ⟨next, run.tail step, by simp [history, called]⟩

/-- Any held reference can be given up at any time. -/
theorem exists_release {first : α} (faithful : arena.Faithful first) {hold : Hold}
    (held : hold ∈ arena.holds) :
    ∃ next before after, Step arena next ∧ arena.holds = before ++ hold :: after ∧
      next.holds = before ++ after := by
  obtain ⟨before, after, split⟩ := List.append_of_mem held
  obtain ⟨call, -, -, kept⟩ := faithful.held hold held
  obtain ⟨cell, found, -⟩ := Option.map_eq_some_iff.1 kept
  exact ⟨_, before, after, .release hold split found, split, rfl⟩

end Arena

section ArenaRuns

variable {α : Type}

/-- **A shared index loses no index and duplicates none.** After any accesses, the
first index and those installed are, in order, those that the replacements have
returned and the current one. A snapshot takes the index installed last before it.

The same holds where callers share an index by reference. Whatever they do, and
whatever order they do it in, they take what those accesses take. What a caller has
taken answers every question the way it did when it was taken, for as long as the
caller holds it. -/
theorem Shared.loses_no_index (first : α) :
    (∀ accesses : List (Access α),
      ∃ taken last, (⟨first⟩ : Shared α).run accesses = (taken, ⟨last⟩) ∧
        taken.length = accesses.length ∧
        first :: installed accesses = returned accesses taken ++ [last] ∧
        ∀ before after, accesses = before ++ .snapshot :: after →
          taken[before.length]? = some ((installed before).getLastD first)) ∧
    (∀ calls : List (Nat × Access α),
      ∃ arena, ReflTransGen Arena.Step (Arena.start first) arena ∧
        arena.history.map (fun call => (call.caller, call.access)) = calls) ∧
    (∀ arena, ReflTransGen Arena.Step (Arena.start first) arena →
      (∃ last, (⟨first⟩ : Shared α).run (arena.history.map Call.access) =
          (arena.history.map Call.taken, ⟨last⟩) ∧
        arena.index? arena.current = some last) ∧
      (∀ hold ∈ arena.holds, ∃ call, arena.history[hold.number]? = some call ∧
        call.caller = hold.caller ∧
        ∀ (β : Type) (question : α → β),
          arena.ask hold.place question = some (question call.taken)) ∧
      ∀ later, ReflTransGen Arena.Step arena later →
        ∀ hold ∈ arena.holds, hold ∈ later.holds → ∀ (β : Type) (question : α → β),
          later.ask hold.place question = arena.ask hold.place question) := by
  refine ⟨?_, Arena.exists_run first, ?_⟩
  · intro accesses
    refine ⟨_, _, rfl, length_run accesses, installed_eq_returned accesses, ?_⟩
    rintro before after rfl
    exact taken_snapshot before after
  · intro arena run
    have faithful := Arena.faithful_of_run run
    refine ⟨?_, ?_, ?_⟩
    · obtain ⟨last, kept, replayed⟩ := faithful.replayed
      exact ⟨last, replayed, kept⟩
    · intro hold held
      obtain ⟨call, called, same, taken⟩ := faithful.held hold held
      refine ⟨call, called, same, fun β question => ?_⟩
      rw [Arena.ask, taken]
      rfl
    · intro later further hold held still β question
      rw [Arena.ask, Arena.index?_of_run run further held still, Arena.ask]

/-- One caller takes a snapshot. Later a second one has replaced the index, a third one
has taken a snapshot, and the second one has given up what it had taken. -/
theorem Arena.run_overlappingIndex :
    ∃ arena later, ReflTransGen Arena.Step (Arena.start overlappingIndex) arena ∧
      ReflTransGen Arena.Step arena later ∧
      arena.history = [⟨0, .snapshot, overlappingIndex⟩] ∧
      arena.holds = [⟨0, 0, 0⟩] ∧ later.holds = [⟨2, 2, 1⟩, ⟨0, 0, 0⟩] := by
  have taken : Arena.Step (Arena.start overlappingIndex) _ := .snapshot 0 rfl
  exact ⟨_, _, .single taken,
    ((ReflTransGen.single (.replace 1 (Index.empty .epoch) 1 rfl rfl)).tail
      (.snapshot 2 rfl)).tail (@Arena.Step.release _ _ _ [_] _ ⟨1, 1, 0⟩ rfl rfl),
    rfl, rfl, rfl⟩

/-- The snapshot is evaluated as before, and the later one takes the new index. -/
theorem Shared.loses_no_index_overlappingIndex :
    ∃ arena later, ReflTransGen Arena.Step (Arena.start overlappingIndex) arena ∧
      ReflTransGen Arena.Step arena later ∧
      later.ask 0 (fun index => evaluate index .default overlappingUpdates overlappingHost) =
        some (.ok overlappingBuckets) ∧
      ∃ taken, ((⟨overlappingIndex⟩ : Shared Index).run
          [.snapshot, .replace (Index.empty .epoch), .snapshot]).1 = taken ∧
        taken[2]? = some (Index.empty .epoch) := by
  obtain ⟨takes, -, keeps⟩ := Shared.loses_no_index overlappingIndex
  obtain ⟨arena, later, run, further, history, holds, still⟩ := Arena.run_overlappingIndex
  obtain ⟨-, answers, stays⟩ := keeps arena run
  have held : ⟨0, 0, 0⟩ ∈ arena.holds := by simp [holds]
  obtain ⟨call, called, -, answered⟩ := answers ⟨0, 0, 0⟩ held
  rw [history] at called
  obtain rfl := Option.some.inj called
  refine ⟨arena, later, run, further, ?_, ?_⟩
  · rw [stays later further ⟨0, 0, 0⟩ held (by simp [still])]
    exact answered _ _
  · obtain ⟨taken, last, same, -, -, snapshots⟩ :=
      takes [.snapshot, .replace (Index.empty .epoch), .snapshot]
    exact ⟨taken, congrArg Prod.fst same,
      snapshots [.snapshot, .replace (Index.empty .epoch)] [] rfl⟩

end ArenaRuns

end CveTriage
