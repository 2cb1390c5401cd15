import CveTriage.Proofs.Index.Build
import Mathlib.Data.List.Basic

/-!
# Renumbered feeds

A feed with new numbers, and the index that it is built into.
-/

set_option autoImplicit false

namespace CveTriage

open Std (ExtTreeMap)

/-! ## Renumbering a feed

A renumbering gives every identifier a new number, and different identifiers of
one kind get different numbers. It is applied throughout a snapshot: to the
records themselves and to whatever refers to them.

The new numbers may have another order. So when identifiers are put into
ascending order, only what is listed can be compared before and after
(`Renumbering.Covers`). If the renumbering keeps the order of the identifiers that are
listed, the listing is the same up to the new numbers (`ascending_map`). A map
that keeps the order of all numbers changes none of them, which is why order is
asked for on given identifiers only (`Renumbering.IncreasingOn`).
-/

/-- New numbers for the identifiers of every kind. -/
structure Renumbering where
  apply : {kind : IdKind} → Id kind → Id kind
  injective : ∀ kind : IdKind, Function.Injective (@apply kind)

namespace Renumbering

variable (renumbering : Renumbering) {kind : IdKind}

/-! ### Records -/

/-- A name under its new number. -/
def namedRecord (record : NamedRecord kind) : NamedRecord kind :=
  { record with id := renumbering.apply record.id }

/-- A repository under its new number. -/
def repository (repository : Repository) : Repository :=
  { repository with id := renumbering.apply repository.id }

/-- A repository with new numbers for itself and for its platforms. -/
def repositoryRecord (record : RepositoryRecord) : RepositoryRecord where
  repository := renumbering.repository record.repository
  platforms := record.platforms.map renumbering.apply

/-- A content set with new numbers for itself and for its platforms. -/
def contentSetRecord (record : ContentSetRecord) : ContentSetRecord :=
  { record with
    id := renumbering.apply record.id
    platforms := record.platforms.map renumbering.apply }

/-- A platform with new numbers for itself and for its definitions. -/
def platformRecord (record : PlatformRecord) : PlatformRecord :=
  { record with
    id := renumbering.apply record.id
    definitions := record.definitions.map renumbering.apply }

/-- A definition with new numbers for itself and for its root. -/
def definition (definition : Definition) : Definition :=
  { definition with
    id := renumbering.apply definition.id
    criteriaId := renumbering.apply definition.criteriaId }

/-- A definition with new numbers for itself and for what it is linked to. -/
def definitionRecord (record : DefinitionRecord) : DefinitionRecord :=
  { record with
    definition := renumbering.definition record.definition
    errata := record.errata.map renumbering.apply
    names := record.names.map renumbering.apply }

/-- A criteria node with new numbers for itself and for its children. -/
def criteria (node : Criteria) : Criteria :=
  { node with
    id := renumbering.apply node.id
    moduleTests := node.moduleTests.map renumbering.apply
    tests := node.tests.map renumbering.apply
    children := node.children.map renumbering.apply }

/-- A test with new numbers for itself, for its package name and for its states. -/
def test (test : PackageTest) : PackageTest :=
  { test with
    id := renumbering.apply test.id
    nameId := renumbering.apply test.nameId
    states := test.states.map renumbering.apply }

/-- A state with new numbers for itself and for the architectures that it admits. -/
def state (state : PackageState) : PackageState :=
  { state with
    id := renumbering.apply state.id
    architectures := state.architectures.map renumbering.apply }

/-- The record of a state with the same new numbers as the state. -/
def stateRecord (record : StateRecord) : StateRecord :=
  { record with
    id := renumbering.apply record.id
    architectures := record.architectures.map renumbering.apply }

/-- A module test under its new number. -/
def moduleTestRecord (record : ModuleTestRecord) : ModuleTestRecord :=
  { record with id := renumbering.apply record.id }

/-- An erratum under its new number. -/
def erratumRecord (record : ErratumRecord) : ErratumRecord :=
  { record with id := renumbering.apply record.id }

/-- The snapshot with new numbers throughout. -/
def snapshot (snapshot : Snapshot) : Snapshot where
  lastChange := snapshot.lastChange
  packageNames := snapshot.packageNames.map renumbering.namedRecord
  architectures := snapshot.architectures.map renumbering.namedRecord
  repositories := snapshot.repositories.map renumbering.repositoryRecord
  contentSets := snapshot.contentSets.map renumbering.contentSetRecord
  platforms := snapshot.platforms.map renumbering.platformRecord
  definitions := snapshot.definitions.map renumbering.definitionRecord
  criteria := snapshot.criteria.map renumbering.criteria
  tests := snapshot.tests.map renumbering.test
  states := snapshot.states.map renumbering.stateRecord
  moduleTests := snapshot.moduleTests.map renumbering.moduleTestRecord
  errata := snapshot.errata.map renumbering.erratumRecord

/-! ### Single identifiers -/

variable {renumbering} {ids renumbered : List (Id kind)} {id other : Id kind}

@[simp]
theorem apply_inj : renumbering.apply id = renumbering.apply other ↔ id = other :=
  (renumbering.injective kind).eq_iff

@[simp]
theorem apply_beq_apply : (renumbering.apply id == renumbering.apply other) = (id == other) := by
  simp [beq_eq_decide]

/-! ### Lists of identifiers -/

variable (renumbering)

/-- The second list has the new numbers of the first one, in whatever order. -/
def Covers (ids renumbered : List (Id kind)) : Prop :=
  ∀ id, id ∈ renumbered ↔ id ∈ ids.map renumbering.apply

/-- The renumbering keeps the order of the given identifiers. -/
def IncreasingOn (ids : List (Id kind)) : Prop :=
  ∀ first ∈ ids, ∀ second ∈ ids, first.number < second.number →
    (renumbering.apply first).number < (renumbering.apply second).number

variable {renumbering}

theorem covers_map : renumbering.Covers ids (ids.map renumbering.apply) :=
  fun _ => Iff.rfl

namespace Covers

theorem apply_mem_iff (covers : renumbering.Covers ids renumbered) :
    renumbering.apply id ∈ renumbered ↔ id ∈ ids := by
  rw [covers, List.mem_map_of_injective (renumbering.injective kind)]

theorem ascending (covers : renumbering.Covers ids renumbered) :
    renumbering.Covers (Id.ascending ids) (Id.ascending renumbered) := by
  intro id
  simpa using covers id

theorem isEmpty_eq (covers : renumbering.Covers ids renumbered) :
    renumbered.isEmpty = ids.isEmpty := by
  rw [Bool.eq_iff_iff, List.isEmpty_iff, List.isEmpty_iff, List.eq_nil_iff_forall_not_mem,
    ← List.map_eq_nil_iff (f := renumbering.apply), List.eq_nil_iff_forall_not_mem]
  exact forall_congr' fun id => not_congr (covers id)

/-- Lists that follow from identifiers one by one are covered when they are
covered for every identifier. -/
theorem flatMap {kind' : IdKind} {next next' : Id kind → List (Id kind')}
    (covers : renumbering.Covers ids renumbered)
    (follow : ∀ id, next' (renumbering.apply id) = (next id).map renumbering.apply) :
    renumbering.Covers (ids.flatMap next) (renumbered.flatMap next') := by
  have expanded : (ids.map renumbering.apply).flatMap next' =
      (ids.flatMap next).map renumbering.apply := by
    simp only [List.flatMap_map, List.map_flatMap, follow]
  intro id
  rw [← expanded, List.mem_flatMap, List.mem_flatMap]
  simp only [covers _]

end Covers

/-- **Identifiers whose order is kept are listed in the same order.** -/
theorem ascending_map (increasing : renumbering.IncreasingOn ids) :
    Id.ascending (ids.map renumbering.apply) = (Id.ascending ids).map renumbering.apply := by
  refine eq_of_ascending Id.pairwise_ascending ?_ (covers_map.ascending)
  rw [List.pairwise_map]
  refine Id.pairwise_ascending.imp_of_mem ?_
  intro first second memberFirst memberSecond less
  exact Id.compare_eq_lt_iff.2 (increasing first (Id.mem_ascending.1 memberFirst) second
    (Id.mem_ascending.1 memberSecond) (Id.compare_eq_lt_iff.1 less))

end Renumbering

/-! ## The index of a renumbered feed

A table of renumbered records answers like the table of the original ones: the
new number of a key leads to the renumbered answer (`getElem?_tableOf_map`). The
last record with a key remains the last one, since no other key gets its number.

Hence a renumbered snapshot has an index exactly when the original one has
(`exists_ofSnapshot_iff`), and then all lookups of the two indexes agree up to
the new numbers (`Index.Renumbered`). Order shows in one place, the definitions
that list a package name: they are sorted by their numbers. If the renumbering
keeps the order of the definitions, even that lookup agrees
(`Index.RenumberedInOrder`).
-/

/-! ### Tables of changed records -/

section Tables

variable {α β κ : Type} [DecidableEq κ] {change : α → α} {move : κ → κ} {alter : β → β}
  {key : α → κ} {content : α → β}

theorem lastWith?_map (distinct : Function.Injective move)
    (moved : ∀ record, key (change record) = move (key record)) (wanted : κ) (records : List α) :
    lastWith? key (move wanted) (records.map change) =
      (lastWith? key wanted records).map change := by
  have same : (fun record => decide (key record = move wanted)) ∘ change =
      fun record => decide (key record = wanted) := by
    funext record
    simp only [Function.comp_apply, moved, distinct.eq_iff]
  rw [lastWith?, ← List.map_reverse, List.find?_map, same, lastWith?]

variable [Ord κ] [Std.TransOrd κ] [Std.LawfulEqOrd κ]

/-- **A table of changed records has the changed answers.** -/
theorem getElem?_tableOf_map (distinct : Function.Injective move) (wanted : κ)
    (records : List α) (moved : ∀ record, key (change record) = move (key record))
    (altered : ∀ record, content (change record) = alter (content record)) :
    (tableOf key content (records.map change))[move wanted]? =
      ((tableOf key content records)[wanted]?).map alter := by
  rw [getElem?_tableOf, getElem?_tableOf, lastWith?_map distinct moved, Option.map_map,
    Option.map_map]
  exact congrArg (Option.map · _) (funext altered)

/-- The same for a table of lists that are changed element by element. -/
theorem getD_tableOf_map {content : α → List β} (distinct : Function.Injective move) (wanted : κ)
    (records : List α) (moved : ∀ record, key (change record) = move (key record))
    (altered : ∀ record, content (change record) = (content record).map alter) :
    (tableOf key content (records.map change))[move wanted]?.getD [] =
      ((tableOf key content records)[wanted]?.getD []).map alter := by
  rw [getElem?_tableOf_map distinct wanted records moved altered]
  exact Option.getD_map (List.map alter) [] _

/-- The same for a table of what the change leaves alone. -/
theorem getElem?_tableOf_map_of_eq {content : α → β} (distinct : Function.Injective move)
    (wanted : κ) (records : List α) (moved : ∀ record, key (change record) = move (key record))
    (kept : ∀ record, content (change record) = content record) :
    (tableOf key content (records.map change))[move wanted]? =
      (tableOf key content records)[wanted]? := by
  rw [getElem?_tableOf, getElem?_tableOf, lastWith?_map distinct moved, Option.map_map]
  exact congrArg (Option.map · _) (funext kept)

/-- An inverse table of changed entries lists the changed values. -/
theorem getD_inverseOf_map (distinct : Function.Injective move) (wanted : κ)
    (entries : List (κ × β)) :
    (inverseOf (entries.map (Prod.map move alter)))[move wanted]?.getD [] =
      ((inverseOf entries)[wanted]?.getD []).map alter := by
  have same : (fun entry : κ × β => decide (entry.1 = move wanted)) ∘ Prod.map move alter =
      fun entry => decide (entry.1 = wanted) := by
    funext entry
    simp only [Function.comp_apply, Prod.map_fst, distinct.eq_iff]
  rw [getD_inverseOf, getD_inverseOf, List.filter_map, same, List.map_map, List.map_map]
  rfl

end Tables

/-! ### Indexes that agree up to the new numbers -/

/-- What the second index answers about new numbers is what the first one
answers about the old ones. -/
structure Index.Renumbered (renumbering : Renumbering) (index renumbered : Index) : Prop where
  lastChange : renumbered.lastChange = index.lastChange
  packageNameId (name : String) :
    renumbered.packageNameId name = (index.packageNameId name).map renumbering.apply
  packageNameDefinitions (id : NameId) :
    renumbering.Covers (index.packageNameDefinitions id)
      (renumbered.packageNameDefinitions (renumbering.apply id))
  definition (id : DefinitionId) :
    renumbered.definition (renumbering.apply id) =
      (index.definition id).map renumbering.definition
  definitionCves (id : DefinitionId) :
    renumbered.definitionCves (renumbering.apply id) = index.definitionCves id
  definitionErrata (id : DefinitionId) :
    renumbered.definitionErrata (renumbering.apply id) =
      (index.definitionErrata id).map renumbering.apply
  repositoryIds (label : String) :
    renumbered.repositoryIds label = (index.repositoryIds label).map renumbering.apply
  repository (id : RepositoryId) :
    renumbered.repository (renumbering.apply id) =
      (index.repository id).map renumbering.repository
  contentSetId (label : String) :
    renumbered.contentSetId label = (index.contentSetId label).map renumbering.apply
  repositoryPlatforms (id : RepositoryId) :
    renumbered.repositoryPlatforms (renumbering.apply id) =
      (index.repositoryPlatforms id).map renumbering.apply
  contentSetPlatforms (id : ContentSetId) :
    renumbered.contentSetPlatforms (renumbering.apply id) =
      (index.contentSetPlatforms id).map renumbering.apply
  platformDefinitions (id : PlatformId) :
    renumbered.platformDefinitions (renumbering.apply id) =
      (index.platformDefinitions id).map renumbering.apply
  criteria (id : CriteriaId) :
    renumbered.criteria (renumbering.apply id) = (index.criteria id).map renumbering.criteria
  test (id : TestId) :
    renumbered.test (renumbering.apply id) = (index.test id).map renumbering.test
  state (id : StateId) :
    renumbered.state (renumbering.apply id) = (index.state id).map renumbering.state
  moduleTest (id : ModuleTestId) :
    renumbered.moduleTest (renumbering.apply id) = index.moduleTest id
  architectureId (name : String) :
    renumbered.architectureId name = (index.architectureId name).map renumbering.apply
  erratumCves (name : String) : renumbered.erratumCves name = index.erratumCves name
  erratumName (id : ErratumId) :
    renumbered.erratumName (renumbering.apply id) = index.erratumName id

/-- The second index also lists definitions in the order of the first one. -/
structure Index.RenumberedInOrder (renumbering : Renumbering) (index renumbered : Index) : Prop
    extends Index.Renumbered renumbering index renumbered where
  packageNameDefinitions_eq (id : NameId) :
    renumbered.packageNameDefinitions (renumbering.apply id) =
      (index.packageNameDefinitions id).map renumbering.apply
  keepsOrder (first second : DefinitionId) :
    (index.definition first).isSome → (index.definition second).isSome →
      compare first second = .lt →
        compare (renumbering.apply first) (renumbering.apply second) = .lt

namespace Renumbering

variable {renumbering : Renumbering} {snapshot : Snapshot} {states : List PackageState}

/-! ### The tables of a renumbered snapshot -/

theorem nameEntries_snapshot :
    (renumbering.snapshot snapshot).nameEntries =
      snapshot.nameEntries.map (Prod.map renumbering.apply renumbering.apply) := by
  simp only [Snapshot.nameEntries, Renumbering.snapshot, List.flatMap_map, List.map_flatMap,
    definitionRecord, definition, List.map_map]
  rfl

/-- The definitions that list a package name get the new numbers, and are sorted
afterwards. -/
theorem packageNameDefinitions_snapshot (id : NameId) :
    (Tables.ofSnapshot (renumbering.snapshot snapshot)
        (states.map renumbering.state)).index.packageNameDefinitions (renumbering.apply id) =
      Id.ascending (((inverseOf snapshot.nameEntries)[id]?.getD []).map renumbering.apply) := by
  rw [packageNameDefinitions_index, nameEntries_snapshot,
    getD_inverseOf_map (renumbering.injective _)]

/-- **The tables of a renumbered snapshot agree with the original ones.** A changed record
has the changed key and the changed content by definition. -/
theorem renumbered_index :
    Index.Renumbered renumbering (Tables.ofSnapshot snapshot states).index
      (Tables.ofSnapshot (renumbering.snapshot snapshot) (states.map renumbering.state)).index where
  lastChange := rfl
  packageNameId name :=
    getElem?_tableOf_map Function.injective_id name snapshot.packageNames (fun _ => rfl)
      (fun _ => rfl)
  packageNameDefinitions id := by
    rw [packageNameDefinitions_index, packageNameDefinitions_snapshot]
    exact covers_map.ascending
  definition id :=
    getElem?_tableOf_map (renumbering.injective _) id snapshot.definitions (fun _ => rfl)
      (fun _ => rfl)
  definitionCves id := by
    refine congrArg (Option.getD · []) ?_
    exact getElem?_tableOf_map_of_eq (renumbering.injective _) id snapshot.definitions
      (fun _ => rfl) (fun _ => rfl)
  definitionErrata id :=
    getD_tableOf_map (renumbering.injective _) id snapshot.definitions (fun _ => rfl)
      (fun _ => rfl)
  repositoryIds label := by
    have entries : ((renumbering.snapshot snapshot).repositories.map fun record =>
          (record.repository.label, record.repository.id)) =
        (snapshot.repositories.map fun record =>
          (record.repository.label, record.repository.id)).map (Prod.map id renumbering.apply) := by
      rw [Renumbering.snapshot, List.map_map, List.map_map]
      rfl
    simp only [Tables.index, Tables.ofSnapshot]
    rw [entries]
    exact getD_inverseOf_map Function.injective_id label _
  repository id :=
    getElem?_tableOf_map (renumbering.injective _) id snapshot.repositories (fun _ => rfl)
      (fun _ => rfl)
  contentSetId label :=
    getElem?_tableOf_map Function.injective_id label snapshot.contentSets (fun _ => rfl)
      (fun _ => rfl)
  repositoryPlatforms id :=
    getD_tableOf_map (renumbering.injective _) id snapshot.repositories (fun _ => rfl)
      (fun _ => rfl)
  contentSetPlatforms id :=
    getD_tableOf_map (renumbering.injective _) id snapshot.contentSets (fun _ => rfl)
      (fun _ => rfl)
  platformDefinitions id :=
    getD_tableOf_map (renumbering.injective _) id snapshot.platforms (fun _ => rfl)
      (fun _ => rfl)
  criteria id :=
    getElem?_tableOf_map (renumbering.injective _) id snapshot.criteria (fun _ => rfl)
      (fun _ => rfl)
  test id :=
    getElem?_tableOf_map (renumbering.injective _) id snapshot.tests (fun _ => rfl)
      (fun _ => rfl)
  state id :=
    getElem?_tableOf_map (renumbering.injective _) id states (fun _ => rfl)
      (fun _ => rfl)
  moduleTest id :=
    getElem?_tableOf_map_of_eq (renumbering.injective _) id snapshot.moduleTests (fun _ => rfl)
      (fun _ => rfl)
  architectureId name :=
    getElem?_tableOf_map Function.injective_id name snapshot.architectures (fun _ => rfl)
      (fun _ => rfl)
  erratumCves name := by
    refine congrArg (Option.getD · []) ?_
    exact getElem?_tableOf_map_of_eq Function.injective_id name snapshot.errata (fun _ => rfl)
      (fun _ => rfl)
  erratumName id :=
    getElem?_tableOf_map_of_eq (renumbering.injective _) id snapshot.errata (fun _ => rfl)
      (fun _ => rfl)

/-- **If the order of the definitions is kept, they are listed in the same order.** -/
theorem renumberedInOrder_index
    (increasing : renumbering.IncreasingOn (snapshot.definitions.map (·.definition.id))) :
    Index.RenumberedInOrder renumbering (Tables.ofSnapshot snapshot states).index
      (Tables.ofSnapshot (renumbering.snapshot snapshot) (states.map renumbering.state)).index where
  toRenumbered := renumbered_index
  packageNameDefinitions_eq id := by
    have listed : ∀ definition ∈ (inverseOf snapshot.nameEntries)[id]?.getD [],
        definition ∈ snapshot.definitions.map (·.definition.id) := by
      intro definition member
      obtain ⟨record, recorded, rfl, -⟩ :=
        Snapshot.mem_nameEntries_iff.1 (mem_inverseOf_iff.1 member)
      exact List.mem_map_of_mem recorded
    rw [packageNameDefinitions_snapshot, packageNameDefinitions_index]
    exact ascending_map fun first memberFirst second memberSecond =>
      increasing first (listed first memberFirst) second (listed second memberSecond)
  keepsOrder first second knownFirst knownSecond less := by
    have recorded : ∀ id, ((Tables.ofSnapshot snapshot states).index.definition id).isSome →
        id ∈ snapshot.definitions.map (·.definition.id) := by
      intro id known
      obtain ⟨definition, found⟩ := Option.isSome_iff_exists.1 known
      obtain ⟨record, member, rfl, rfl⟩ := exists_record_of_definition found
      exact List.mem_map_of_mem member
    exact Id.compare_eq_lt_iff.2 (increasing first (recorded first knownFirst) second
      (recorded second knownSecond) (Id.compare_eq_lt_iff.1 less))

/-! ### Building both indexes -/

/-- The error with the new number. -/
def indexError (renumbering : Renumbering) : IndexError → IndexError
  | .invalidStateEvr state cause => .invalidStateEvr (renumbering.apply state) cause

/-- A target is read as before. -/
theorem read_stateRecord (record : StateRecord) :
    (renumbering.stateRecord record).read =
      (record.read.map renumbering.state).mapError renumbering.indexError := by
  unfold StateRecord.read stateRecord
  cases Evr.parse record.evr <;> rfl

/-- The first state whose target cannot be read is the same state. -/
theorem mapM_read_snapshot :
    (renumbering.snapshot snapshot).states.mapM StateRecord.read =
      ((snapshot.states.mapM StateRecord.read).map (List.map renumbering.state)).mapError
        renumbering.indexError :=
  mapM_map_eq read_stateRecord snapshot.states

variable {index renumbered : Index}

/-- **A renumbered snapshot has an index exactly when the original one has.** -/
theorem exists_ofSnapshot_iff :
    (∃ renumbered, Index.ofSnapshot (renumbering.snapshot snapshot) = .ok renumbered) ↔
      ∃ index, Index.ofSnapshot snapshot = .ok index := by
  unfold Index.ofSnapshot
  rw [mapM_read_snapshot]
  cases snapshot.states.mapM StateRecord.read <;> simp [Except.map, Except.mapError]

/-- The two indexes come from the same states. -/
theorem exists_states_of_ofSnapshot (built : Index.ofSnapshot snapshot = .ok index)
    (rebuilt : Index.ofSnapshot (renumbering.snapshot snapshot) = .ok renumbered) :
    ∃ states, index = (Tables.ofSnapshot snapshot states).index ∧
      renumbered = (Tables.ofSnapshot (renumbering.snapshot snapshot)
        (states.map renumbering.state)).index := by
  unfold Index.ofSnapshot at built rebuilt
  rw [mapM_read_snapshot] at rebuilt
  cases read : snapshot.states.mapM StateRecord.read with
  | error cause =>
      rw [read] at built
      cases built
  | ok states =>
      rw [read] at built rebuilt
      exact ⟨states, (Except.ok.inj built).symm, (Except.ok.inj rebuilt).symm⟩

/-- **The indexes of a snapshot and of the renumbered one agree.** -/
theorem renumbered_of_ofSnapshot (built : Index.ofSnapshot snapshot = .ok index)
    (rebuilt : Index.ofSnapshot (renumbering.snapshot snapshot) = .ok renumbered) :
    Index.Renumbered renumbering index renumbered := by
  obtain ⟨states, rfl, rfl⟩ := exists_states_of_ofSnapshot built rebuilt
  exact renumbered_index

theorem renumberedInOrder_of_ofSnapshot (built : Index.ofSnapshot snapshot = .ok index)
    (rebuilt : Index.ofSnapshot (renumbering.snapshot snapshot) = .ok renumbered)
    (increasing : renumbering.IncreasingOn (snapshot.definitions.map (·.definition.id))) :
    Index.RenumberedInOrder renumbering index renumbered := by
  obtain ⟨states, rfl, rfl⟩ := exists_states_of_ofSnapshot built rebuilt
  exact renumberedInOrder_index increasing

end Renumbering

end CveTriage
