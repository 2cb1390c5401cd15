import CveTriage.Proofs.Listing

/-!
# Built indexes

What the index of a snapshot answers, and when its inverse tables agree with the others.
-/

set_option autoImplicit false

namespace CveTriage

open Std (ExtTreeMap)

/-! ## What a built index answers

An index is built exactly when the targets of all states can be read, and then
the tables answer its lookups (`ofSnapshot_eq_ok_iff`). What it says about a
definition is said by a record of the snapshot, and under the identifier of the
definition (`Index.Keyed`).
-/

section Build

variable {snapshot : Snapshot} {index : Index}

/-! ### Reading states -/

namespace StateRecord

variable {record : StateRecord}

/-- Reading a state keeps its identifier. -/
theorem id_of_read {state : PackageState} (read : record.read = .ok state) :
    state.id = record.id := by
  unfold StateRecord.read at read
  split at read
  · rw [← Except.ok.inj read]
  · cases read

/-- A state is read if its target is. -/
theorem exists_read_eq_ok_iff :
    (∃ state, record.read = .ok state) ↔ ∃ evr, Evr.parse record.evr = .ok evr := by
  unfold StateRecord.read
  cases Evr.parse record.evr <;> simp

/-- The failure names the state and the text that is no target. -/
theorem read_eq_error_iff {cause : IndexError} :
    record.read = .error cause ↔
      cause = .invalidStateEvr record.id (.invalidEvr record.evr) ∧
        ∀ evr, Evr.parse record.evr ≠ .ok evr := by
  unfold StateRecord.read Evr.parse
  cases Evr.ofChars? record.evr.toList <;> simp [eq_comm]

end StateRecord

/-! ### Answers -/

theorem ofSnapshot_eq_ok_iff :
    Index.ofSnapshot snapshot = .ok index ↔
      ∃ states, snapshot.states.map StateRecord.read = states.map .ok ∧
        index = (Tables.ofSnapshot snapshot states).index := by
  unfold Index.ofSnapshot
  constructor
  · intro built
    cases read : snapshot.states.mapM StateRecord.read with
    | error cause => simp [read, Except.map] at built
    | ok states =>
        rw [read, Except.map, Except.ok.injEq] at built
        exact ⟨states, mapM_eq_ok_iff.1 read, built.symm⟩
  · rintro ⟨states, read, rfl⟩
    rw [mapM_eq_ok_iff.2 read]
    rfl

/-- There is an index exactly if the targets of all states can be read. -/
theorem exists_ofSnapshot_iff :
    (∃ index, Index.ofSnapshot snapshot = .ok index) ↔
      ∀ record ∈ snapshot.states, ∃ evr, Evr.parse record.evr = .ok evr := by
  simp only [← StateRecord.exists_read_eq_ok_iff, ← exists_mapM_eq_ok_iff, mapM_eq_ok_iff,
    ofSnapshot_eq_ok_iff]
  constructor
  · intro ⟨_, states, read, _⟩
    exact ⟨states, read⟩
  · intro ⟨states, read⟩
    exact ⟨_, states, read, rfl⟩

/-- The definitions that list a package name are answered in ascending order. -/
theorem packageNameDefinitions_index {states : List PackageState} (id : NameId) :
    (Tables.ofSnapshot snapshot states).index.packageNameDefinitions id =
      Id.ascending ((inverseOf snapshot.nameEntries)[id]?.getD []) := by
  simp only [Tables.index, Tables.ofSnapshot, Std.ExtTreeMap.getElem?_map]
  cases (inverseOf snapshot.nameEntries)[id]? <;> rfl

/-- What an index says about a definition comes from a record of the definition. -/
theorem exists_record_of_definition {states : List PackageState} {id : DefinitionId}
    {definition : Definition}
    (found : (Tables.ofSnapshot snapshot states).index.definition id = some definition) :
    ∃ record ∈ snapshot.definitions, record.definition = definition ∧ definition.id = id := by
  have answered : (lastWith? (·.definition.id) id snapshot.definitions).map (·.definition) =
      some definition := (getElem?_tableOf _ _ _ _).symm.trans found
  obtain ⟨record, last, rfl⟩ := Option.map_eq_some_iff.1 answered
  obtain ⟨member, named⟩ := lastWith?_eq_some last
  exact ⟨record, member, rfl, named⟩

/-- A definition is found under its own identifier only. -/
def Index.Keyed (index : Index) : Prop :=
  ∀ (id : DefinitionId) (definition : Definition),
    index.definition id = some definition → definition.id = id

/-- **Built indexes find definitions under their own identifiers.** -/
theorem keyed_of_ofSnapshot (built : Index.ofSnapshot snapshot = .ok index) : index.Keyed := by
  obtain ⟨states, -, rfl⟩ := ofSnapshot_eq_ok_iff.1 built
  intro id definition found
  obtain ⟨record, -, -, named⟩ := exists_record_of_definition found
  exact named

end Build

/-! ## Inverse tables and the records in effect

Nothing keeps a snapshot from using an identifier or a name twice. What is
looked up by its identifier comes from the last record that has it, the record
in effect. The inverse tables know nothing of this: they lead from a package
name or a label to the identifiers of all records that ever listed it
(`mem_packageNameDefinitions_iff`, `mem_repositoryIds_iff`).

So the inverse tables miss nothing that is in effect, but they can keep what was
listed by a record that is not (`NothingLeftOver`). They agree with the records
in effect exactly when nothing is left over, and in particular when no
identifier and no name is used twice (`inversesAgree_iff_nothingLeftOver`).
-/

section Inverse

section Records

variable {α ι κ : Type} [DecidableEq ι] {id : α → ι} {keys : α → List κ} {records : List α}

/-- What a record lists is listed by the record in effect for its identifier. -/
def NothingLeftOver (id : α → ι) (keys : α → List κ) (records : List α) : Prop :=
  ∀ record ∈ records, ∀ key ∈ keys record,
    ∃ last, lastWith? id (id record) records = some last ∧ key ∈ keys last

/-- What all records list is what the records in effect list, unless something is left over. -/
theorem listed_iff_nothingLeftOver :
    (∀ wanted key, (∃ record ∈ records, id record = wanted ∧ key ∈ keys record) ↔
      ∃ last, lastWith? id wanted records = some last ∧ key ∈ keys last) ↔
    NothingLeftOver id keys records := by
  constructor
  · intro agree record member key listed
    exact (agree (id record) key).1 ⟨record, member, rfl, listed⟩
  · intro nothing wanted key
    constructor
    · rintro ⟨record, member, rfl, listed⟩
      exact nothing record member key listed
    · rintro ⟨last, found, listed⟩
      obtain ⟨member, named⟩ := lastWith?_eq_some found
      exact ⟨last, member, named, listed⟩

/-- Identifiers that are used once lead to their only record. -/
theorem lastWith?_of_nodup (distinct : (records.map id).Nodup) {record : α}
    (member : record ∈ records) : lastWith? id (id record) records = some record := by
  obtain ⟨last, found⟩ := exists_lastWith?_of_mem id member
  obtain ⟨memberLast, named⟩ := lastWith?_eq_some found
  rw [found, List.inj_on_of_nodup_map distinct memberLast member named]

theorem nothingLeftOver_of_nodup (distinct : (records.map id).Nodup) :
    NothingLeftOver id keys records :=
  fun _ member _ listed => ⟨_, lastWith?_of_nodup distinct member, listed⟩

end Records

variable {snapshot : Snapshot} {index : Index}

/-! ### Records in effect -/

namespace Snapshot

/-- The record that says what a definition is. -/
def definitionInEffect (snapshot : Snapshot) (id : DefinitionId) : Option DefinitionRecord :=
  lastWith? (·.definition.id) id snapshot.definitions

/-- The record that says what a repository is. -/
def repositoryInEffect (snapshot : Snapshot) (id : RepositoryId) : Option RepositoryRecord :=
  lastWith? (·.repository.id) id snapshot.repositories

/-- The name under which an erratum is known. -/
def erratumNameInEffect (snapshot : Snapshot) (id : ErratumId) : Option String :=
  (lastWith? (·.id) id snapshot.errata).map (·.name)

/-- The erratum that a name refers to. -/
def erratumIdInEffect (snapshot : Snapshot) (name : String) : Option ErratumId :=
  (lastWith? (·.name) name snapshot.errata).map (·.id)

/-- No record lists more than the record in effect for its identifier, and the
records of errata that are in effect under their identifiers are those in effect
under their names. -/
structure NothingLeftOver (snapshot : Snapshot) : Prop where
  definitions : CveTriage.NothingLeftOver (·.definition.id) (·.names) snapshot.definitions
  repositories :
    CveTriage.NothingLeftOver (·.repository.id) (fun record => [record.repository.label])
      snapshot.repositories
  errata : ∀ record ∈ snapshot.errata,
    snapshot.erratumNameInEffect record.id = some record.name ↔
      snapshot.erratumIdInEffect record.name = some record.id

/-- No identifier and no name that an inverse table is about is used twice. -/
structure NothingReused (snapshot : Snapshot) : Prop where
  definitions : (snapshot.definitions.map (·.definition.id)).Nodup
  repositories : (snapshot.repositories.map (·.repository.id)).Nodup
  erratumIds : (snapshot.errata.map (·.id)).Nodup
  erratumNames : (snapshot.errata.map (·.name)).Nodup

theorem NothingReused.nothingLeftOver (distinct : snapshot.NothingReused) :
    snapshot.NothingLeftOver where
  definitions := nothingLeftOver_of_nodup distinct.definitions
  repositories := nothingLeftOver_of_nodup distinct.repositories
  errata record member := by
    rw [erratumNameInEffect, erratumIdInEffect, lastWith?_of_nodup distinct.erratumIds member,
      lastWith?_of_nodup distinct.erratumNames member]
    simp

end Snapshot

/-! ### What a built index answers -/

section Built

variable (built : Index.ofSnapshot snapshot = .ok index)

include built

theorem definition_of_ofSnapshot (id : DefinitionId) :
    index.definition id = (snapshot.definitionInEffect id).map (·.definition) := by
  obtain ⟨states, -, rfl⟩ := ofSnapshot_eq_ok_iff.1 built
  exact getElem?_tableOf _ _ _ _

theorem repository_of_ofSnapshot (id : RepositoryId) :
    index.repository id = (snapshot.repositoryInEffect id).map (·.repository) := by
  obtain ⟨states, -, rfl⟩ := ofSnapshot_eq_ok_iff.1 built
  exact getElem?_tableOf _ _ _ _

theorem erratumName_of_ofSnapshot (id : ErratumId) :
    index.erratumName id = snapshot.erratumNameInEffect id := by
  obtain ⟨states, -, rfl⟩ := ofSnapshot_eq_ok_iff.1 built
  exact getElem?_tableOf _ _ _ _

theorem erratumId_of_ofSnapshot (name : String) :
    index.erratumId name = snapshot.erratumIdInEffect name := by
  obtain ⟨states, -, rfl⟩ := ofSnapshot_eq_ok_iff.1 built
  exact getElem?_tableOf _ _ _ _

/-- A package name leads to every definition of which some record lists it. -/
theorem mem_packageNameDefinitions_iff {id : DefinitionId} {nameId : NameId} :
    id ∈ index.packageNameDefinitions nameId ↔
      ∃ record ∈ snapshot.definitions, record.definition.id = id ∧ nameId ∈ record.names := by
  obtain ⟨states, -, rfl⟩ := ofSnapshot_eq_ok_iff.1 built
  rw [packageNameDefinitions_index, Id.mem_ascending, mem_inverseOf_iff,
    Snapshot.mem_nameEntries_iff]

/-- A label leads to every repository of which some record carries it. -/
theorem mem_repositoryIds_iff {id : RepositoryId} {label : String} :
    id ∈ index.repositoryIds label ↔
      ∃ record ∈ snapshot.repositories,
        record.repository.id = id ∧ record.repository.label = label := by
  obtain ⟨states, -, rfl⟩ := ofSnapshot_eq_ok_iff.1 built
  refine mem_inverseOf_iff.trans ?_
  simp only [List.mem_map, Prod.mk.injEq, and_comm]

end Built

/-! ### Agreement -/

/-- The inverse tables say the same as the records in effect: a package name leads
to the definitions that list it, a label to the repositories that carry it, and
identifiers and names of errata to each other. -/
structure Index.InversesAgree (index : Index) (snapshot : Snapshot) : Prop where
  names : ∀ id nameId, id ∈ index.packageNameDefinitions nameId ↔
    ∃ record, snapshot.definitionInEffect id = some record ∧ nameId ∈ record.names
  labels : ∀ id label, id ∈ index.repositoryIds label ↔
    ∃ repository, index.repository id = some repository ∧ repository.label = label
  errata : ∀ id name, index.erratumName id = some name ↔ index.erratumId name = some id

section Agreement

variable (built : Index.ofSnapshot snapshot = .ok index)

include built

theorem names_agree_iff :
    (∀ id nameId, id ∈ index.packageNameDefinitions nameId ↔
      ∃ record, snapshot.definitionInEffect id = some record ∧ nameId ∈ record.names) ↔
    NothingLeftOver (·.definition.id) (·.names) snapshot.definitions := by
  rw [← listed_iff_nothingLeftOver]
  simp only [mem_packageNameDefinitions_iff built]
  rfl

theorem labels_agree_iff :
    (∀ id label, id ∈ index.repositoryIds label ↔
      ∃ repository, index.repository id = some repository ∧ repository.label = label) ↔
    NothingLeftOver (·.repository.id) (fun record => [record.repository.label])
      snapshot.repositories := by
  rw [← listed_iff_nothingLeftOver]
  refine forall_congr' fun id => forall_congr' fun label => iff_congr ?_ ?_
  · rw [mem_repositoryIds_iff built]
    simp only [List.mem_singleton, eq_comm]
  · rw [repository_of_ofSnapshot built, Snapshot.repositoryInEffect]
    cases lastWith? (·.repository.id) id snapshot.repositories <;> simp [eq_comm]

/-- What is known of an erratum is said by one of its records. -/
theorem errata_agree_iff :
    (∀ id name, index.erratumName id = some name ↔ index.erratumId name = some id) ↔
    ∀ record ∈ snapshot.errata,
      snapshot.erratumNameInEffect record.id = some record.name ↔
        snapshot.erratumIdInEffect record.name = some record.id := by
  simp only [erratumName_of_ofSnapshot built, erratumId_of_ofSnapshot built]
  constructor
  · intro agree record _
    exact agree record.id record.name
  · intro agree id name
    constructor
    · intro named
      obtain ⟨record, found, rfl⟩ := Option.map_eq_some_iff.1 named
      obtain ⟨member, rfl⟩ := lastWith?_eq_some found
      exact (agree record member).1 named
    · intro identified
      obtain ⟨record, found, rfl⟩ := Option.map_eq_some_iff.1 identified
      obtain ⟨member, rfl⟩ := lastWith?_eq_some found
      exact (agree record member).2 identified

end Agreement

/-- **Inverse tables agree with the records in effect exactly when nothing is left
over.** What is in effect is always found through them. If no identifier and no
name is used twice, nothing else is. -/
theorem inversesAgree_iff_nothingLeftOver (built : Index.ofSnapshot snapshot = .ok index) :
    (∀ id, index.definition id = (snapshot.definitionInEffect id).map (·.definition)) ∧
    (∀ id record, snapshot.definitionInEffect id = some record → ∀ nameId ∈ record.names,
      id ∈ index.packageNameDefinitions nameId) ∧
    (∀ id repository, index.repository id = some repository →
      id ∈ index.repositoryIds repository.label) ∧
    (index.InversesAgree snapshot ↔ snapshot.NothingLeftOver) ∧
    (snapshot.NothingReused → index.InversesAgree snapshot) := by
  have agreement : index.InversesAgree snapshot ↔ snapshot.NothingLeftOver := by
    constructor
    · intro agree
      exact ⟨(names_agree_iff built).1 agree.names, (labels_agree_iff built).1 agree.labels,
        (errata_agree_iff built).1 agree.errata⟩
    · intro nothing
      exact ⟨(names_agree_iff built).2 nothing.definitions,
        (labels_agree_iff built).2 nothing.repositories,
        (errata_agree_iff built).2 nothing.errata⟩
  refine ⟨definition_of_ofSnapshot built, ?_, ?_, agreement, ?_⟩
  · intro id record found nameId listed
    obtain ⟨member, named⟩ := lastWith?_eq_some found
    exact (mem_packageNameDefinitions_iff built).2 ⟨record, member, named, listed⟩
  · intro id repository found
    rw [repository_of_ofSnapshot built] at found
    obtain ⟨record, last, rfl⟩ := Option.map_eq_some_iff.1 found
    obtain ⟨member, named⟩ := lastWith?_eq_some last
    exact (mem_repositoryIds_iff built).2 ⟨record, member, named, rfl⟩
  · intro distinct
    exact agreement.2 distinct.nothingLeftOver

/-- A feed in which every identifier that an inverse table is about is used twice:
a definition for another name, a repository with another label, and an erratum
with another name. -/
def reusingFeed : Snapshot :=
  { Snapshot.empty .epoch with
    repositories := [⟨⟨⟨1⟩, "base", none, none⟩, []⟩, ⟨⟨⟨1⟩, "extras", none, none⟩, []⟩]
    definitions :=
      [⟨⟨⟨1⟩, .patch, ⟨1⟩⟩, [], [], [⟨1⟩]⟩, ⟨⟨⟨1⟩, .patch, ⟨1⟩⟩, [], [], [⟨2⟩]⟩]
    errata := [⟨⟨1⟩, "RHSA-1", []⟩, ⟨⟨1⟩, "RHSA-2", []⟩] }

/-- The index of that feed. -/
def reusingIndex : Index :=
  (Tables.ofSnapshot reusingFeed []).index

/-- What the first records listed is left over, in all three respects. -/
theorem not_inversesAgree_reusingFeed :
    Index.ofSnapshot reusingFeed = .ok reusingIndex ∧
    (⟨1⟩ ∈ reusingIndex.packageNameDefinitions ⟨1⟩ ∧
      (reusingFeed.definitionInEffect ⟨1⟩).map (·.names) = some [⟨2⟩]) ∧
    (⟨1⟩ ∈ reusingIndex.repositoryIds "base" ∧
      (reusingIndex.repository ⟨1⟩).map (·.label) = some "extras") ∧
    (reusingIndex.erratumId "RHSA-1" = some ⟨1⟩ ∧
      reusingIndex.erratumName ⟨1⟩ = some "RHSA-2") ∧
    ¬reusingIndex.InversesAgree reusingFeed := by
  have listed : ⟨1⟩ ∈ reusingIndex.packageNameDefinitions ⟨1⟩ := by decide
  refine ⟨rfl, ⟨listed, rfl⟩, ⟨by decide, rfl⟩, ⟨rfl, rfl⟩, fun agree => ?_⟩
  obtain ⟨record, found, inEffect⟩ := (agree.names ⟨1⟩ ⟨1⟩).1 listed
  obtain rfl := Option.some.inj found
  revert inEffect
  decide

/-- The same feed with an identifier of its own for every record. -/
def tidyFeed : Snapshot :=
  { reusingFeed with
    repositories := [⟨⟨⟨1⟩, "base", none, none⟩, []⟩, ⟨⟨⟨2⟩, "extras", none, none⟩, []⟩]
    definitions :=
      [⟨⟨⟨1⟩, .patch, ⟨1⟩⟩, [], [], [⟨1⟩]⟩, ⟨⟨⟨2⟩, .patch, ⟨1⟩⟩, [], [], [⟨2⟩]⟩]
    errata := [⟨⟨1⟩, "RHSA-1", []⟩, ⟨⟨2⟩, "RHSA-2", []⟩] }

/-- Nothing is left over in the tidy feed. -/
theorem inversesAgree_tidyFeed :
    Index.ofSnapshot tidyFeed = .ok (Tables.ofSnapshot tidyFeed []).index ∧
    tidyFeed.NothingReused ∧
    (Tables.ofSnapshot tidyFeed []).index.InversesAgree tidyFeed := by
  have built : Index.ofSnapshot tidyFeed = .ok (Tables.ofSnapshot tidyFeed []).index := rfl
  have distinct : tidyFeed.NothingReused := by constructor <;> decide
  exact ⟨built, distinct, (inversesAgree_iff_nothingLeftOver built).2.2.2.2 distinct⟩

end Inverse

end CveTriage
