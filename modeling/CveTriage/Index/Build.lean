import CveTriage.Feed
import Std.Data.ExtTreeMap

/-!
# Indexes

An index is a record of lookups. A snapshot becomes one by way of tables, which are lists
of records with the last word on every key.
-/

set_option autoImplicit false

namespace CveTriage

open Std (ExtTreeMap)

/-! ## Tables

A list of records becomes a table by inserting them in order, so the last
record with a key decides what the key leads to. That rule is stated on the
list itself (`lastWith?`) and proved of the table (`getElem?_tableOf`).

An inverse table leads from a key to all the values that were recorded with
it, in order (`getD_inverseOf`), and to no others (`mem_inverseOf_iff`).

What a table leads to can be listed in the order of its keys (`mem_values_iff`).
-/

section Table

variable {α κ β : Type} [Ord κ] [Std.TransOrd κ]

/-- The last record with the given key. -/
def lastWith? [DecidableEq κ] (key : α → κ) (wanted : κ) (records : List α) : Option α :=
  records.reverse.find? fun record => key record = wanted

/-- The table from the keys of records to what they say. -/
def tableOf (key : α → κ) (content : α → β) (records : List α) : ExtTreeMap κ β :=
  records.foldl (fun table record => table.insert (key record) (content record)) ∅

/-- Puts a value in front of the list that a key leads to. -/
def consAt (table : ExtTreeMap κ (List β)) (key : κ) (value : β) : ExtTreeMap κ (List β) :=
  table.alter key fun values => some (value :: values.getD [])

/-- The table from keys to the values recorded with them, in order. It is put
together from the last entry on, so that no list is walked. -/
def inverseOf (entries : List (κ × β)) : ExtTreeMap κ (List β) :=
  entries.foldr (fun entry table => consAt table entry.1 entry.2) ∅

omit [Ord κ] [Std.TransOrd κ] in
theorem lastWith?_eq_some [DecidableEq κ] {key : α → κ} {wanted : κ} {records : List α}
    {record : α} (found : lastWith? key wanted records = some record) :
    record ∈ records ∧ key record = wanted := by
  have member := List.mem_of_find?_eq_some found
  have hit := List.find?_some found
  exact ⟨List.mem_reverse.1 member, of_decide_eq_true hit⟩

omit [Ord κ] [Std.TransOrd κ] in
/-- A key that some record has leads to a record. -/
theorem exists_lastWith?_of_mem [DecidableEq κ] (key : α → κ) {records : List α} {record : α}
    (member : record ∈ records) : ∃ last, lastWith? key (key record) records = some last := by
  rw [← Option.isSome_iff_exists, lastWith?, List.find?_isSome]
  exact ⟨record, List.mem_reverse.2 member, decide_eq_true rfl⟩

omit [Ord κ] [Std.TransOrd κ] in
/-- A record in front counts only if no later one has its key. -/
theorem lastWith?_cons [DecidableEq κ] {key : α → κ} {wanted : κ} {record : α} {rest : List α} :
    lastWith? key wanted (record :: rest) =
      (lastWith? key wanted rest).or (if key record = wanted then some record else none) := by
  simp only [lastWith?, List.reverse_cons, List.find?_append, List.find?_singleton,
    decide_eq_true_eq]

theorem getElem?_foldl_insert [DecidableEq κ] [Std.LawfulEqOrd κ] (key : α → κ) (content : α → β)
    (records : List α) (start : ExtTreeMap κ β) (wanted : κ) :
    (records.foldl (fun table record => table.insert (key record) (content record))
        start)[wanted]? =
      ((lastWith? key wanted records).map content).or start[wanted]? := by
  induction records generalizing start with
  | nil => simp [lastWith?]
  | cons record rest ih =>
    rw [List.foldl_cons, ih, Std.ExtTreeMap.getElem?_insert, lastWith?_cons, Option.map_or,
      Option.or_assoc]
    by_cases same : key record = wanted
    · simp [same]
    · simp [same]

/-- **A table answers from the last record with the key.** -/
theorem getElem?_tableOf [DecidableEq κ] [Std.LawfulEqOrd κ] (key : α → κ) (content : α → β)
    (records : List α) (wanted : κ) :
    (tableOf key content records)[wanted]? = (lastWith? key wanted records).map content := by
  simp [tableOf, getElem?_foldl_insert]

theorem getD_consAt [DecidableEq κ] [Std.LawfulEqOrd κ] (table : ExtTreeMap κ (List β))
    (key wanted : κ) (value : β) :
    (consAt table key value)[wanted]?.getD [] =
      (if key = wanted then [value] else []) ++ table[wanted]?.getD [] := by
  rw [consAt, Std.ExtTreeMap.getElem?_alter]
  by_cases same : key = wanted <;> simp [same]

/-- **An inverse table lists all values recorded with the key, in order.** -/
theorem getD_inverseOf [DecidableEq κ] [Std.LawfulEqOrd κ] (entries : List (κ × β)) (wanted : κ) :
    (inverseOf entries)[wanted]?.getD [] =
      (entries.filter fun entry => entry.1 = wanted).map Prod.snd := by
  induction entries with
  | nil => simp [inverseOf]
  | cons entry rest ih =>
    have step : inverseOf (entry :: rest) = consAt (inverseOf rest) entry.1 entry.2 := rfl
    rw [step, getD_consAt, ih]
    by_cases same : entry.1 = wanted <;> simp [same]

/-- An inverse table lists what is recorded. -/
theorem mem_inverseOf_iff [DecidableEq κ] [Std.LawfulEqOrd κ] {entries : List (κ × β)}
    {wanted : κ} {value : β} :
    value ∈ (inverseOf entries)[wanted]?.getD [] ↔ (wanted, value) ∈ entries := by
  rw [getD_inverseOf, List.mem_map]
  constructor
  · rintro ⟨⟨key, _⟩, listed, rfl⟩
    obtain ⟨member, same⟩ := List.mem_filter.1 listed
    obtain rfl : key = wanted := of_decide_eq_true same
    exact member
  · intro member
    exact ⟨(wanted, value), List.mem_filter.2 ⟨member, decide_eq_true rfl⟩, rfl⟩

/-! ### Listing a table -/

/-- The values of a table, in the order of the keys. -/
theorem values_eq_map_toList (table : ExtTreeMap κ β) :
    table.values = table.toList.map Prod.snd := by
  have folded : table.values = table.foldr (fun _ value values => value :: values) [] := by
    rcases table with ⟨⟨table⟩⟩
    rfl
  rw [folded, Std.ExtTreeMap.foldr_eq_foldr_toList]
  induction table.toList with
  | nil => rfl
  | cons entry rest ih => simp [ih]

/-- Exactly what some key leads to is listed. -/
theorem mem_values_iff [Std.LawfulEqOrd κ] {table : ExtTreeMap κ β} {value : β} :
    value ∈ table.values ↔ ∃ key : κ, table[key]? = some value := by
  rw [values_eq_map_toList, List.mem_map]
  constructor
  · rintro ⟨⟨key, _⟩, member, rfl⟩
    exact ⟨key, Std.ExtTreeMap.mem_toList_iff_getElem?_eq_some.1 member⟩
  · rintro ⟨key, found⟩
    exact ⟨(key, value), Std.ExtTreeMap.mem_toList_iff_getElem?_eq_some.2 found, rfl⟩

end Table

/-! ## Lookups

Everything the evaluation asks about the feed, as a record of functions.
Evaluation works over any such record, so what is proved about it holds for
indexes that no snapshot produces as well. An unknown key has no answer or an
empty list; a lookup never fails.
-/

/-- The lookups that the evaluation needs. -/
structure Index where
  lastChange : Instant
  packageNameId : String → Option NameId
  /-- Definitions that test a package of this name. -/
  packageNameDefinitions : NameId → List DefinitionId
  definition : DefinitionId → Option Definition
  definitionCves : DefinitionId → List String
  definitionErrata : DefinitionId → List ErratumId
  /-- Repositories that carry a label. -/
  repositoryIds : String → List RepositoryId
  repository : RepositoryId → Option Repository
  contentSetId : String → Option ContentSetId
  repositoryPlatforms : RepositoryId → List PlatformId
  contentSetPlatforms : ContentSetId → List PlatformId
  platformDefinitions : PlatformId → List DefinitionId
  criteria : CriteriaId → Option Criteria
  test : TestId → Option PackageTest
  state : StateId → Option PackageState
  /-- Stream that a module test requires. -/
  moduleTest : ModuleTestId → Option ModuleStream
  architectureId : String → Option ArchitectureId
  /-- Vulnerabilities that an erratum fixes, by its name. -/
  erratumCves : String → List String
  erratumName : ErratumId → Option String
  erratumId : String → Option ErratumId

namespace Index

/-- The index that knows nothing. -/
def empty (lastChange : Instant) : Index where
  lastChange
  packageNameId _ := none
  packageNameDefinitions _ := []
  definition _ := none
  definitionCves _ := []
  definitionErrata _ := []
  repositoryIds _ := []
  repository _ := none
  contentSetId _ := none
  repositoryPlatforms _ := []
  contentSetPlatforms _ := []
  platformDefinitions _ := []
  criteria _ := none
  test _ := none
  state _ := none
  moduleTest _ := none
  architectureId _ := none
  erratumCves _ := []
  erratumName _ := none
  erratumId _ := none

/-- The names of the errata linked to a definition, as far as they have one. -/
def errataNames (index : Index) (id : DefinitionId) : List String :=
  (index.definitionErrata id).filterMap index.erratumName

/-- The index without the details of the given definitions and repositories.
Lists that mention them stay as they are. -/
def withholding (index : Index) (definitions : List DefinitionId)
    (repositories : List RepositoryId) : Index :=
  { index with
    definition := fun id => if id ∈ definitions then none else index.definition id
    repository := fun id => if id ∈ repositories then none else index.repository id }

end Index

/-! ## Building an index

A snapshot becomes a set of tables, and the tables answer the lookups. For
every key the last record wins. Two tables are inverses that the snapshot does
not spell out: the repositories that carry a label, in record order, and the
definitions that list a package name, in ascending order.

The targets of the states are read while the index is built. The first state
in list order whose target cannot be read is the error, even if a later record
has the same identifier.
-/

/-- Why a snapshot is no index. -/
inductive IndexError where
  | invalidStateEvr (state : StateId) (cause : PackageError)
deriving DecidableEq

/-- The wording of the error. -/
def IndexError.message : IndexError → String
  | .invalidStateEvr state cause =>
    "state " ++ toString state.number.toNat ++ " has invalid evr: " ++ cause.message

/-- The state of a record, once its target is read. -/
def StateRecord.read (record : StateRecord) : Except IndexError PackageState :=
  match Evr.parse record.evr with
  | .ok evr => .ok ⟨record.id, evr, record.operation, record.architectures⟩
  | .error cause => .error (.invalidStateEvr record.id cause)

/-- The tables that the lookups of an index are answered from. -/
structure Tables where
  lastChange : Instant
  packageNames : ExtTreeMap String NameId
  nameDefinitions : ExtTreeMap NameId (List DefinitionId)
  definitions : ExtTreeMap DefinitionId Definition
  definitionCves : ExtTreeMap DefinitionId (List String)
  definitionErrata : ExtTreeMap DefinitionId (List ErratumId)
  repositoryLabels : ExtTreeMap String (List RepositoryId)
  repositories : ExtTreeMap RepositoryId Repository
  repositoryPlatforms : ExtTreeMap RepositoryId (List PlatformId)
  contentSetLabels : ExtTreeMap String ContentSetId
  contentSetPlatforms : ExtTreeMap ContentSetId (List PlatformId)
  platformDefinitions : ExtTreeMap PlatformId (List DefinitionId)
  criteria : ExtTreeMap CriteriaId Criteria
  tests : ExtTreeMap TestId PackageTest
  states : ExtTreeMap StateId PackageState
  moduleTests : ExtTreeMap ModuleTestId ModuleStream
  architectures : ExtTreeMap String ArchitectureId
  erratumCves : ExtTreeMap String (List String)
  erratumNames : ExtTreeMap ErratumId String
  erratumIds : ExtTreeMap String ErratumId

/-- The package names that definitions list, each with the definition. -/
def Snapshot.nameEntries (snapshot : Snapshot) : List (NameId × DefinitionId) :=
  snapshot.definitions.flatMap fun record => record.names.map (·, record.definition.id)

/-- A name and a definition are recorded together if a record of the definition lists the
name. -/
theorem Snapshot.mem_nameEntries_iff {snapshot : Snapshot} {nameId : NameId}
    {id : DefinitionId} :
    (nameId, id) ∈ snapshot.nameEntries ↔
      ∃ record ∈ snapshot.definitions, record.definition.id = id ∧ nameId ∈ record.names := by
  simp only [nameEntries, List.mem_flatMap, List.mem_map, Prod.mk.injEq]
  constructor
  · rintro ⟨record, member, _, listed, rfl, rfl⟩
    exact ⟨record, member, rfl, listed⟩
  · rintro ⟨record, member, rfl, listed⟩
    exact ⟨record, member, nameId, listed, rfl, rfl⟩

/-- The tables of a snapshot whose states have been read. -/
def Tables.ofSnapshot (snapshot : Snapshot) (states : List PackageState) : Tables where
  lastChange := snapshot.lastChange
  packageNames := tableOf (·.name) (·.id) snapshot.packageNames
  nameDefinitions := (inverseOf snapshot.nameEntries).map fun _ ids => Id.ascending ids
  definitions := tableOf (·.definition.id) (·.definition) snapshot.definitions
  definitionCves := tableOf (·.definition.id) (·.cves) snapshot.definitions
  definitionErrata := tableOf (·.definition.id) (·.errata) snapshot.definitions
  repositoryLabels := inverseOf
    (snapshot.repositories.map fun record => (record.repository.label, record.repository.id))
  repositories := tableOf (·.repository.id) (·.repository) snapshot.repositories
  repositoryPlatforms := tableOf (·.repository.id) (·.platforms) snapshot.repositories
  contentSetLabels := tableOf (·.label) (·.id) snapshot.contentSets
  contentSetPlatforms := tableOf (·.id) (·.platforms) snapshot.contentSets
  platformDefinitions := tableOf (·.id) (·.definitions) snapshot.platforms
  criteria := tableOf (·.id) id snapshot.criteria
  tests := tableOf (·.id) id snapshot.tests
  states := tableOf (·.id) id states
  moduleTests := tableOf (·.id) (·.required) snapshot.moduleTests
  architectures := tableOf (·.name) (·.id) snapshot.architectures
  erratumCves := tableOf (·.name) (·.cves) snapshot.errata
  erratumNames := tableOf (·.id) (·.name) snapshot.errata
  erratumIds := tableOf (·.name) (·.id) snapshot.errata

/-- The lookups that tables answer. -/
def Tables.index (tables : Tables) : Index where
  lastChange := tables.lastChange
  packageNameId name := tables.packageNames[name]?
  packageNameDefinitions id := tables.nameDefinitions[id]?.getD []
  definition id := tables.definitions[id]?
  definitionCves id := tables.definitionCves[id]?.getD []
  definitionErrata id := tables.definitionErrata[id]?.getD []
  repositoryIds label := tables.repositoryLabels[label]?.getD []
  repository id := tables.repositories[id]?
  contentSetId label := tables.contentSetLabels[label]?
  repositoryPlatforms id := tables.repositoryPlatforms[id]?.getD []
  contentSetPlatforms id := tables.contentSetPlatforms[id]?.getD []
  platformDefinitions id := tables.platformDefinitions[id]?.getD []
  criteria id := tables.criteria[id]?
  test id := tables.tests[id]?
  state id := tables.states[id]?
  moduleTest id := tables.moduleTests[id]?
  architectureId name := tables.architectures[name]?
  erratumCves name := tables.erratumCves[name]?.getD []
  erratumName id := tables.erratumNames[id]?
  erratumId name := tables.erratumIds[name]?

/-- The index of a snapshot. -/
def Index.ofSnapshot (snapshot : Snapshot) : Except IndexError Index :=
  (snapshot.states.mapM StateRecord.read).map fun states =>
    (Tables.ofSnapshot snapshot states).index

end CveTriage
