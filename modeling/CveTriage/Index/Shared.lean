/-!
# A shared index

Evaluations take the index that is current when they start and keep it, while
a refresh puts a new one in its place as a whole. Both accesses are atomic, so
a history of a shared index is a list of accesses, and the holder is the index
that the latest replacement installed.

What the holder holds may be anything; nothing here depends on its type.
-/

set_option autoImplicit false

namespace CveTriage

/-- A holder of one index, which can be replaced. -/
structure Shared (α : Type) where
  current : α

namespace Shared

variable {α : Type}

/-- One access to a shared index. -/
inductive Access (α : Type) where
  /-- Takes the current index. -/
  | snapshot
  /-- Installs a new index and takes the previous one. -/
  | replace (index : α)

/-- The current index. -/
def snapshot (shared : Shared α) : α :=
  shared.current

/-- The previous index, and the holder of the new one. -/
def replace (shared : Shared α) (index : α) : α × Shared α :=
  (shared.current, ⟨index⟩)

/-- What an access takes, and the holder afterwards. -/
def access (shared : Shared α) : Access α → α × Shared α
  | .snapshot => (shared.snapshot, shared)
  | .replace index => shared.replace index

/-- What the accesses take, in order, and the holder after the last one. -/
def run (shared : Shared α) : List (Access α) → List α × Shared α
  | [] => ([], shared)
  | first :: rest =>
    let (taken, shared) := shared.access first
    let (others, shared) := shared.run rest
    (taken :: others, shared)

/-! ## The holder of an index loses nothing

Which indexes a list of accesses installs is read from the list (`installed`), and
which are returned also from what the accesses take (`returned`). The first index
and the installed ones are, in order, the returned ones and the current one
(`installed_eq_returned`). What a snapshot takes is the index installed last
before it (`taken_snapshot`).
-/

variable {shared : Shared α}

/-- The indexes that are installed by some accesses, in order. -/
def installed (accesses : List (Access α)) : List α :=
  accesses.filterMap fun access =>
    match access with
    | .snapshot => none
    | .replace index => some index

/-- The indexes that are returned by the replacements among some accesses, in order,
given what each access takes. -/
def returned (accesses : List (Access α)) (taken : List α) : List α :=
  (accesses.zip taken).filterMap fun call =>
    match call.1 with
    | .snapshot => none
    | .replace _ => some call.2

/-- Accesses after others start from the holder that these leave. -/
theorem run_append (first second : List (Access α)) :
    shared.run (first ++ second) =
      ((shared.run first).1 ++ ((shared.run first).2.run second).1,
        ((shared.run first).2.run second).2) := by
  induction first generalizing shared with
  | nil => rfl
  | cons access rest ih => simp only [List.cons_append, run, ih]

/-- Every access takes one index. -/
theorem length_run (accesses : List (Access α)) :
    (shared.run accesses).1.length = accesses.length := by
  induction accesses generalizing shared with
  | nil => rfl
  | cons access rest ih => simp only [run, List.length_cons, ih]

/-- The current index is the one that was installed last. -/
theorem current_run (accesses : List (Access α)) :
    (shared.run accesses).2.current = (installed accesses).getLastD shared.current := by
  induction accesses generalizing shared with
  | nil => rfl
  | cons access rest ih =>
      cases access with
      | snapshot => exact ih
      | replace index =>
          rw [run, ih]
          simp only [installed, List.filterMap_cons, access, replace, List.getLastD_cons]

/-- **No index is lost, and none is returned twice.** -/
theorem installed_eq_returned (accesses : List (Access α)) :
    shared.current :: installed accesses =
      returned accesses (shared.run accesses).1 ++ [(shared.run accesses).2.current] := by
  induction accesses generalizing shared with
  | nil => rfl
  | cons access rest ih =>
      cases access with
      | snapshot => exact ih
      | replace index =>
          have later := @ih ⟨index⟩
          simp only [installed, returned, run, access, replace, List.filterMap_cons,
            List.zip_cons_cons, List.cons_append] at later ⊢
          rw [later]

/-- A snapshot takes the index that was installed last before it. -/
theorem taken_snapshot (before after : List (Access α)) :
    (shared.run (before ++ .snapshot :: after)).1[before.length]? =
      some ((installed before).getLastD shared.current) := by
  rw [run_append]
  have here : (shared.run before).1.length = before.length := length_run before
  rw [List.getElem?_append_right (Nat.le_of_eq here), here, Nat.sub_self, ← current_run]
  rfl

end Shared
end CveTriage
