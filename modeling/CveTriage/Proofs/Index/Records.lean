import CveTriage.Proofs.Index.Build
import Mathlib.Data.List.Perm.Basic

/-!
# Indexes and records

Which records an index represents, and that their order in the snapshot does not show.
-/

set_option autoImplicit false

namespace CveTriage

open Std (ExtTreeMap)

/-! ## An index and the records that it represents

A snapshot is no more than lists of records, and a list may have any number of
records under one key. What an index has to answer can be said of these lists,
without a table: the last record under a key is the one that counts (`IsLast`),
and everything that is looked up by a key comes from it (`AnswersLast`,
`ListsLast`). Two answers are about all records. A label leads to every
repository that carries it, in the order of the list and with repetitions, and a
package name to every definition that lists it, in ascending order and without
repetitions.

An index that answers so represents the snapshot (`Index.Represents`). There is
at most one (`Index.Represents.unique`), and it is what the tables come to. If
some state cannot be read there is none, and the first such state in the list is
the reason, even if a later record under its identifier can be read
(`ofSnapshot_eq_ok_iff_represents`).
-/

section Records

/-! ### The last record under a key -/

section Last

variable {α β κ : Type} {key : α → κ} {content : α → β} {records : List α} {wanted : κ}

/-- The last of the records under a key, if there is any. -/
inductive IsLast (key : α → κ) (wanted : κ) (records : List α) : Option α → Prop where
  | last {before after : List α} {record : α} (split : records = before ++ record :: after)
      (found : key record = wanted) (superseded : ∀ later ∈ after, key later ≠ wanted) :
      IsLast key wanted records (some record)
  | none (unused : ∀ record ∈ records, key record ≠ wanted) : IsLast key wanted records none

/-- The answer for a key depends on the last record under the key. -/
def FromLast (key : α → κ) (conclude : Option α → β) (records : List α) (answer : κ → β) : Prop :=
  ∀ wanted, ∃ last, IsLast key wanted records last ∧ answer wanted = conclude last

/-- The answers say what the last record under a key says, or nothing. -/
def AnswersLast (key : α → κ) (content : α → β) (records : List α)
    (answer : κ → Option β) : Prop :=
  FromLast key (Option.map content) records answer

/-- The answers list what the last record under a key lists, or nothing. -/
def ListsLast (key : α → κ) (content : α → List β) (records : List α)
    (answer : κ → List β) : Prop :=
  FromLast key (fun last => (last.map content).getD []) records answer

variable [DecidableEq κ]

theorem isLast_iff {last : Option α} :
    IsLast key wanted records last ↔ lastWith? key wanted records = last := by
  constructor
  · rintro (@⟨before, after, record, rfl, found, superseded⟩ | unused)
    · rw [lastWith?, List.find?_eq_some_iff_append]
      refine ⟨decide_eq_true found, after.reverse, before.reverse, by simp, ?_⟩
      simpa using superseded
    · rw [lastWith?, List.find?_eq_none]
      simpa using unused
  · rintro rfl
    cases found : lastWith? key wanted records with
    | none =>
        rw [lastWith?, List.find?_eq_none] at found
        exact .none (by simpa using found)
    | some record =>
        rw [lastWith?, List.find?_eq_some_iff_append] at found
        obtain ⟨same, after, before, reversed, superseded⟩ := found
        have split : records = before.reverse ++ record :: after.reverse := by
          rw [← List.reverse_reverse records, reversed]
          simp
        exact .last split (of_decide_eq_true same) (by simpa using superseded)

theorem fromLast_iff {conclude : Option α → β} {answer : κ → β} :
    FromLast key conclude records answer ↔
      ∀ wanted, answer wanted = conclude (lastWith? key wanted records) := by
  simp only [FromLast, isLast_iff, exists_eq_left']

/-- The records determine the answers. -/
theorem FromLast.unique {conclude : Option α → β} {answer other : κ → β}
    (answers : FromLast key conclude records answer)
    (otherAnswers : FromLast key conclude records other) : answer = other :=
  funext fun wanted =>
    (fromLast_iff.1 answers wanted).trans (fromLast_iff.1 otherAnswers wanted).symm

/-- What is answered is said by a record under the key. -/
theorem AnswersLast.exists_record {answer : κ → Option β}
    (answers : AnswersLast key content records answer) {value : β}
    (answered : answer wanted = some value) :
    ∃ record ∈ records, key record = wanted ∧ content record = value := by
  rw [fromLast_iff.1 answers, Option.map_eq_some_iff] at answered
  obtain ⟨record, last, said⟩ := answered
  obtain ⟨member, found⟩ := lastWith?_eq_some last
  exact ⟨record, member, found, said⟩

/-- What is answered has the key that it was looked up by, if records say it under
their own keys. -/
theorem AnswersLast.key_of_answered {answer : κ → Option β}
    (answers : AnswersLast key content records answer) {keyOf : β → κ}
    (own : ∀ record, keyOf (content record) = key record) {value : β}
    (answered : answer wanted = some value) : keyOf value = wanted := by
  obtain ⟨record, -, found, rfl⟩ := answers.exists_record answered
  rw [own, found]

variable [Ord κ] [Std.TransOrd κ] [Std.LawfulEqOrd κ]

/-- **A table answers from the last records.** -/
theorem answersLast_tableOf (key : α → κ) (content : α → β) (records : List α) :
    AnswersLast key content records fun wanted => (tableOf key content records)[wanted]? :=
  fromLast_iff.2 (getElem?_tableOf key content records)

theorem listsLast_tableOf (key : α → κ) (content : α → List β) (records : List α) :
    ListsLast key content records fun wanted =>
      (tableOf key content records)[wanted]?.getD [] :=
  fromLast_iff.2 fun wanted => by rw [getElem?_tableOf]

end Last

/-! ### Representation -/

/-- What is found under an identifier carries the identifier. -/
structure Index.DetailsKeyed (index : Index) : Prop where
  definition : index.Keyed
  repository : ∀ id repository, index.repository id = some repository → repository.id = id
  criteria : ∀ id criteria, index.criteria id = some criteria → criteria.id = id
  test : ∀ id test, index.test id = some test → test.id = id
  state : ∀ id state, index.state id = some state → state.id = id

/-- The index answers from the records of the snapshot, all of whose states can be
read. -/
structure Index.Represents (index : Index) (snapshot : Snapshot) : Prop where
  lastChange : index.lastChange = snapshot.lastChange
  packageNameId : AnswersLast (·.name) (·.id) snapshot.packageNames index.packageNameId
  architectureId : AnswersLast (·.name) (·.id) snapshot.architectures index.architectureId
  definition : AnswersLast (·.definition.id) (·.definition) snapshot.definitions index.definition
  definitionCves : ListsLast (·.definition.id) (·.cves) snapshot.definitions index.definitionCves
  definitionErrata :
    ListsLast (·.definition.id) (·.errata) snapshot.definitions index.definitionErrata
  repository : AnswersLast (·.repository.id) (·.repository) snapshot.repositories index.repository
  repositoryPlatforms :
    ListsLast (·.repository.id) (·.platforms) snapshot.repositories index.repositoryPlatforms
  contentSetId : AnswersLast (·.label) (·.id) snapshot.contentSets index.contentSetId
  contentSetPlatforms :
    ListsLast (·.id) (·.platforms) snapshot.contentSets index.contentSetPlatforms
  platformDefinitions :
    ListsLast (·.id) (·.definitions) snapshot.platforms index.platformDefinitions
  criteria : AnswersLast (·.id) id snapshot.criteria index.criteria
  test : AnswersLast (·.id) id snapshot.tests index.test
  moduleTest : AnswersLast (·.id) (·.required) snapshot.moduleTests index.moduleTest
  erratumName : AnswersLast (·.id) (·.name) snapshot.errata index.erratumName
  erratumId : AnswersLast (·.name) (·.id) snapshot.errata index.erratumId
  erratumCves : ListsLast (·.name) (·.cves) snapshot.errata index.erratumCves
  /-- The state is what its last record is read as. -/
  state : AnswersLast (·.id) StateRecord.read snapshot.states fun id => (index.state id).map .ok
  readable : ∀ record ∈ snapshot.states, ∃ evr, Evr.parse record.evr = .ok evr
  repositoryIds : ∀ label, index.repositoryIds label =
    (snapshot.repositories.filter (·.repository.label = label)).map (·.repository.id)
  packageNameDefinitions : ∀ nameId,
    (index.packageNameDefinitions nameId).Pairwise (fun first second =>
      first.number < second.number) ∧
    ∀ id, id ∈ index.packageNameDefinitions nameId ↔
      ∃ record ∈ snapshot.definitions, record.definition.id = id ∧ nameId ∈ record.names

/-- The record is the first whose target cannot be read. -/
def Snapshot.FirstUnreadable (snapshot : Snapshot) (record : StateRecord) : Prop :=
  ∃ before after, snapshot.states = before ++ record :: after ∧
    (∀ earlier ∈ before, ∃ evr, Evr.parse earlier.evr = .ok evr) ∧
    ∀ evr, Evr.parse record.evr ≠ .ok evr

variable {snapshot : Snapshot} {index other : Index}

namespace Index.Represents

/-- Records say what they say under their own identifiers. -/
theorem detailsKeyed (represents : index.Represents snapshot) : index.DetailsKeyed where
  definition _ _ found := represents.definition.key_of_answered (fun _ => rfl) found
  repository _ _ found := represents.repository.key_of_answered (fun _ => rfl) found
  criteria _ _ found := represents.criteria.key_of_answered (fun _ => rfl) found
  test _ _ found := represents.test.key_of_answered (fun _ => rfl) found
  state id state found := by
    obtain ⟨record, -, named, read⟩ :=
      represents.state.exists_record (congrArg (Option.map Except.ok) found)
    rw [StateRecord.id_of_read read, named]

/-- **A snapshot is represented by one index at most.** -/
theorem unique (represents : index.Represents snapshot)
    (otherRepresents : other.Represents snapshot) : index = other := by
  have states : index.state = other.state := by
    have read := represents.state.unique otherRepresents.state
    exact funext fun id => Option.map_injective (fun _ _ => Except.ok.inj) (congrFun read id)
  have names : index.packageNameDefinitions = other.packageNameDefinitions := by
    refine funext fun nameId => ?_
    obtain ⟨ascends, listed⟩ := represents.packageNameDefinitions nameId
    obtain ⟨otherAscends, otherListed⟩ := otherRepresents.packageNameDefinitions nameId
    refine @eq_of_ascending _ _ _ _ _ id _ _ (ascends.imp Id.compare_eq_lt_iff.2)
      (otherAscends.imp Id.compare_eq_lt_iff.2) fun id => ?_
    exact (listed id).trans (otherListed id).symm
  have labels : index.repositoryIds = other.repositoryIds := funext fun label =>
    (represents.repositoryIds label).trans (otherRepresents.repositoryIds label).symm
  cases index
  cases other
  rw [Index.mk.injEq]
  exact ⟨represents.lastChange.trans otherRepresents.lastChange.symm,
    represents.packageNameId.unique otherRepresents.packageNameId, names,
    represents.definition.unique otherRepresents.definition,
    represents.definitionCves.unique otherRepresents.definitionCves,
    represents.definitionErrata.unique otherRepresents.definitionErrata, labels,
    represents.repository.unique otherRepresents.repository,
    represents.contentSetId.unique otherRepresents.contentSetId,
    represents.repositoryPlatforms.unique otherRepresents.repositoryPlatforms,
    represents.contentSetPlatforms.unique otherRepresents.contentSetPlatforms,
    represents.platformDefinitions.unique otherRepresents.platformDefinitions,
    represents.criteria.unique otherRepresents.criteria,
    represents.test.unique otherRepresents.test, states,
    represents.moduleTest.unique otherRepresents.moduleTest,
    represents.architectureId.unique otherRepresents.architectureId,
    represents.erratumCves.unique otherRepresents.erratumCves,
    represents.erratumName.unique otherRepresents.erratumName,
    represents.erratumId.unique otherRepresents.erratumId⟩

end Index.Represents

/-! ### What a snapshot becomes -/

/-- The last of the states that are read is what the last record is read as. -/
theorem lastWith?_map_read {records : List StateRecord} {states : List PackageState}
    (read : records.map StateRecord.read = states.map .ok) (wanted : StateId) :
    (lastWith? (·.id) wanted states).map .ok =
      (lastWith? (·.id) wanted records).map StateRecord.read := by
  induction records generalizing states with
  | nil =>
      rw [List.map_nil, eq_comm, List.map_eq_nil_iff] at read
      rw [read]
      rfl
  | cons record rest ih =>
      cases states with
      | nil => simp at read
      | cons state states =>
          obtain ⟨readFirst, readRest⟩ := List.cons.inj read
          rw [lastWith?_cons, lastWith?_cons, Option.map_or, Option.map_or, ih readRest,
            StateRecord.id_of_read readFirst]
          split
          · rw [Option.map_some, Option.map_some, readFirst]
          · rfl

/-- **What the tables come to represents the snapshot.** -/
theorem represents_of_ofSnapshot (built : Index.ofSnapshot snapshot = .ok index) :
    index.Represents snapshot := by
  have listed (nameId : NameId) (id : DefinitionId) : id ∈ index.packageNameDefinitions nameId ↔
      _ := mem_packageNameDefinitions_iff built
  obtain ⟨states, read, rfl⟩ := ofSnapshot_eq_ok_iff.1 built
  exact {
    lastChange := rfl
    packageNameId := answersLast_tableOf _ _ _
    architectureId := answersLast_tableOf _ _ _
    definition := answersLast_tableOf _ _ _
    definitionCves := listsLast_tableOf _ _ _
    definitionErrata := listsLast_tableOf _ _ _
    repository := answersLast_tableOf _ _ _
    repositoryPlatforms := listsLast_tableOf _ _ _
    contentSetId := answersLast_tableOf _ _ _
    contentSetPlatforms := listsLast_tableOf _ _ _
    platformDefinitions := listsLast_tableOf _ _ _
    criteria := answersLast_tableOf _ _ _
    test := answersLast_tableOf _ _ _
    moduleTest := answersLast_tableOf _ _ _
    erratumName := answersLast_tableOf _ _ _
    erratumId := answersLast_tableOf _ _ _
    erratumCves := listsLast_tableOf _ _ _
    state := fromLast_iff.2 fun id => by
      rw [← lastWith?_map_read read]
      have found : (Tables.ofSnapshot snapshot states).index.state id = _ :=
        getElem?_tableOf _ _ _ _
      rw [found, Option.map_id]
      rfl
    readable := exists_ofSnapshot_iff.1 ⟨_, built⟩
    repositoryIds := fun label => by
      have found : (Tables.ofSnapshot snapshot states).index.repositoryIds label = _ :=
        getD_inverseOf _ _
      rw [found, List.filter_map, List.map_map]
      rfl
    packageNameDefinitions := fun nameId => by
      refine ⟨?_, listed nameId⟩
      rw [packageNameDefinitions_index]
      exact Id.pairwise_ascending.imp Id.compare_eq_lt_iff.1 }

/-- The first state that cannot be read is the reason why there is no index. -/
theorem ofSnapshot_eq_error_iff {cause : IndexError} :
    Index.ofSnapshot snapshot = .error cause ↔
      ∃ record, snapshot.FirstUnreadable record ∧
        cause = .invalidStateEvr record.id (.invalidEvr record.evr) := by
  have walk : Index.ofSnapshot snapshot = .error cause ↔
      snapshot.states.mapM StateRecord.read = .error cause := by
    unfold Index.ofSnapshot
    cases snapshot.states.mapM StateRecord.read <;> simp [Except.map]
  simp only [walk, mapM_eq_error_iff, StateRecord.exists_read_eq_ok_iff,
    StateRecord.read_eq_error_iff, Snapshot.FirstUnreadable]
  constructor
  · rintro ⟨before, record, after, split, readable, named, unreadable⟩
    exact ⟨record, ⟨before, after, split, readable, unreadable⟩, named⟩
  · rintro ⟨record, ⟨before, after, split, readable, unreadable⟩, named⟩
    exact ⟨before, record, after, split, readable, named, unreadable⟩

/-- **A snapshot becomes the index that represents it.** What it finds under an
identifier carries the identifier. There is none exactly if some state cannot be read,
and the reason is the first such state in the list. -/
theorem ofSnapshot_eq_ok_iff_represents (snapshot : Snapshot) :
    (∀ index, Index.ofSnapshot snapshot = .ok index ↔ index.Represents snapshot) ∧
    (∀ index, Index.ofSnapshot snapshot = .ok index → index.DetailsKeyed) ∧
    ((∃ cause, Index.ofSnapshot snapshot = .error cause) ↔
      ∃ record ∈ snapshot.states, ∀ evr, Evr.parse record.evr ≠ .ok evr) ∧
    ∀ cause, Index.ofSnapshot snapshot = .error cause ↔
      ∃ record, snapshot.FirstUnreadable record ∧
        cause = .invalidStateEvr record.id (.invalidEvr record.evr) := by
  refine ⟨fun index => ⟨represents_of_ofSnapshot, fun represents => ?_⟩,
    fun index built => (represents_of_ofSnapshot built).detailsKeyed, ?_,
    fun _ => ofSnapshot_eq_error_iff⟩
  · obtain ⟨other, built⟩ := exists_ofSnapshot_iff.2 represents.readable
    rw [built, represents.unique (represents_of_ofSnapshot built)]
  · constructor
    · intro ⟨cause, failed⟩
      obtain ⟨record, ⟨before, after, split, -, unreadable⟩, -⟩ := ofSnapshot_eq_error_iff.1 failed
      exact ⟨record, by simp [split], unreadable⟩
    · intro ⟨record, member, unreadable⟩
      cases outcome : Index.ofSnapshot snapshot with
      | error cause => exact ⟨cause, rfl⟩
      | ok index =>
          obtain ⟨evr, read⟩ := (represents_of_ofSnapshot outcome).readable record member
          exact absurd read (unreadable evr)

/-- A state is given up at its first record, although the last one could be read. -/
example : Index.ofSnapshot
    { Snapshot.empty .epoch with
      states := [⟨⟨7⟩, "1:1-1", .equals, []⟩, ⟨⟨3⟩, "1.0", .equals, []⟩,
        ⟨⟨3⟩, "1:2-1", .equals, []⟩] } =
    .error (.invalidStateEvr ⟨3⟩ (.invalidEvr "1.0")) := rfl

end Records

/-! ## The order of the records does not show

A feed may list its records in any order. As long as no key is used twice
(`Snapshot.KeysDistinct`), the order leaves no trace in the tables, since a
table leads from a key to the only record that has it (`tableOf_perm`).

The inverse tables do follow the order of the records. The definitions of a
package name are sorted before they are handed out. The repositories of a label
are not, and they are the only answer of an index that shows the order
(`Snapshot.Reordered.sameAnswers`).
-/

section RecordOrder

/-! ### Tables of reordered records -/

section Tables

variable {α β κ : Type} [DecidableEq κ] {key : α → κ} {records others : List α}

/-- The record of a key that is used once is the only one with the key. -/
theorem lastWith?_eq_some_iff_of_nodup (distinct : (records.map key).Nodup) {wanted : κ}
    {record : α} :
    lastWith? key wanted records = some record ↔ record ∈ records ∧ key record = wanted := by
  constructor
  · intro found
    exact lastWith?_eq_some found
  · rintro ⟨member, rfl⟩
    exact lastWith?_of_nodup distinct member

/-- The order of records with distinct keys does not decide which one has a key. -/
theorem lastWith?_perm (distinct : (records.map key).Nodup) (order : records.Perm others)
    (wanted : κ) : lastWith? key wanted others = lastWith? key wanted records := by
  have distinctOthers : (others.map key).Nodup := (order.map key).nodup_iff.1 distinct
  refine Option.ext fun record => ?_
  rw [lastWith?_eq_some_iff_of_nodup distinct, lastWith?_eq_some_iff_of_nodup distinctOthers,
    order.mem_iff]

variable [Ord κ] [Std.TransOrd κ] [Std.LawfulEqOrd κ]

/-- **The order of records with distinct keys does not show in their table.** -/
theorem tableOf_perm (distinct : (records.map key).Nodup) (order : records.Perm others)
    (content : α → β) : tableOf key content others = tableOf key content records := by
  refine ExtTreeMap.ext_getElem? fun wanted => ?_
  rw [getElem?_tableOf, getElem?_tableOf, lastWith?_perm distinct order]

/-- An inverse table lists the values of a key in the order of the entries. -/
theorem getD_inverseOf_perm {entries reordered : List (κ × β)} (order : entries.Perm reordered)
    (wanted : κ) :
    ((inverseOf entries)[wanted]?.getD []).Perm ((inverseOf reordered)[wanted]?.getD []) := by
  rw [getD_inverseOf, getD_inverseOf]
  exact (order.filter _).map Prod.snd

end Tables

/-! ### Reordered snapshots -/

namespace Snapshot

/-- No key is used twice, neither one that a table leads from nor one that an
inverse table leads to. -/
structure KeysDistinct (snapshot : Snapshot) : Prop extends NothingReused snapshot where
  packageNames : (snapshot.packageNames.map (·.name)).Nodup
  architectures : (snapshot.architectures.map (·.name)).Nodup
  contentSetIds : (snapshot.contentSets.map (·.id)).Nodup
  contentSetLabels : (snapshot.contentSets.map (·.label)).Nodup
  platforms : (snapshot.platforms.map (·.id)).Nodup
  criteria : (snapshot.criteria.map (·.id)).Nodup
  tests : (snapshot.tests.map (·.id)).Nodup
  states : (snapshot.states.map (·.id)).Nodup
  moduleTests : (snapshot.moduleTests.map (·.id)).Nodup

/-- The other snapshot has the same records of every kind, each kind in any order. -/
structure Reordered (snapshot other : Snapshot) : Prop where
  lastChange : snapshot.lastChange = other.lastChange
  packageNames : snapshot.packageNames.Perm other.packageNames
  architectures : snapshot.architectures.Perm other.architectures
  repositories : snapshot.repositories.Perm other.repositories
  contentSets : snapshot.contentSets.Perm other.contentSets
  platforms : snapshot.platforms.Perm other.platforms
  definitions : snapshot.definitions.Perm other.definitions
  criteria : snapshot.criteria.Perm other.criteria
  tests : snapshot.tests.Perm other.tests
  states : snapshot.states.Perm other.states
  moduleTests : snapshot.moduleTests.Perm other.moduleTests
  errata : snapshot.errata.Perm other.errata

end Snapshot

/-- The indexes give the same answers, except that they may list the
repositories of a label in another order. -/
structure Index.SameAnswers (index other : Index) : Prop where
  elsewhere : other = { index with repositoryIds := other.repositoryIds }
  repositoryIds : ∀ label, (index.repositoryIds label).Perm (other.repositoryIds label)

variable {snapshot other : Snapshot} {states otherStates : List PackageState}

/-! ### States -/

/-- Reading a state keeps its identifier. -/
theorem map_id_of_map_read {records : List StateRecord}
    (read : records.map StateRecord.read = states.map .ok) :
    states.map (·.id) = records.map (·.id) := by
  induction records generalizing states with
  | nil =>
      rw [List.map_nil, eq_comm, List.map_eq_nil_iff] at read
      rw [read, List.map_nil, List.map_nil]
  | cons record rest ih =>
      cases states with
      | nil => simp at read
      | cons state states =>
          obtain ⟨readFirst, readRest⟩ := List.cons.inj read
          rw [List.map_cons, List.map_cons, StateRecord.id_of_read readFirst, ih readRest]

/-- Reordered states are read to the same states, reordered alike. -/
theorem states_perm (order : snapshot.states.Perm other.states)
    (read : snapshot.states.map StateRecord.read = states.map .ok)
    (otherRead : other.states.map StateRecord.read = otherStates.map .ok) :
    states.Perm otherStates := by
  have mapped : (states.map (Except.ok (ε := IndexError))).Perm (otherStates.map .ok) := by
    rw [← read, ← otherRead]
    exact order.map StateRecord.read
  exact (List.map_perm_map_iff fun _ _ => Except.ok.inj).1 mapped

/-- **Reordered snapshots have an index both or neither.** -/
theorem exists_ofSnapshot_iff_of_perm (order : snapshot.states.Perm other.states) :
    (∃ index, Index.ofSnapshot snapshot = .ok index) ↔
      ∃ index, Index.ofSnapshot other = .ok index := by
  rw [exists_ofSnapshot_iff, exists_ofSnapshot_iff]
  simp only [order.mem_iff]

/-! ### The same answers -/

namespace Snapshot.Reordered

variable (reordered : snapshot.Reordered other)

include reordered

/-- The definitions that list a package name are sorted, whatever the order of the records. -/
theorem packageNameDefinitions (nameId : NameId) :
    (Tables.ofSnapshot other otherStates).index.packageNameDefinitions nameId =
      (Tables.ofSnapshot snapshot states).index.packageNameDefinitions nameId := by
  have entries : snapshot.nameEntries.Perm other.nameEntries :=
    reordered.definitions.flatMap_right _
  rw [packageNameDefinitions_index, packageNameDefinitions_index]
  refine Id.ascending_congr fun id => ?_
  exact (getD_inverseOf_perm entries nameId).symm.mem_iff

/-- **With distinct keys, reordered records give the same answers.** -/
theorem sameAnswers (distinct : snapshot.KeysDistinct)
    (read : snapshot.states.map StateRecord.read = states.map .ok)
    (otherRead : other.states.map StateRecord.read = otherStates.map .ok) :
    (Tables.ofSnapshot snapshot states).index.SameAnswers
      (Tables.ofSnapshot other otherStates).index where
  elsewhere := by
    have distinctStates : (states.map (·.id)).Nodup := by
      rw [map_id_of_map_read read]
      exact distinct.states
    have names : (Tables.ofSnapshot other otherStates).index.packageNameDefinitions =
        (Tables.ofSnapshot snapshot states).index.packageNameDefinitions :=
      funext reordered.packageNameDefinitions
    simp only [Tables.index, Tables.ofSnapshot] at names ⊢
    rw [names, ← reordered.lastChange,
      tableOf_perm distinct.packageNames reordered.packageNames,
      tableOf_perm distinct.definitions reordered.definitions,
      tableOf_perm distinct.definitions reordered.definitions,
      tableOf_perm distinct.definitions reordered.definitions,
      tableOf_perm distinct.repositories reordered.repositories,
      tableOf_perm distinct.repositories reordered.repositories,
      tableOf_perm distinct.contentSetLabels reordered.contentSets,
      tableOf_perm distinct.contentSetIds reordered.contentSets,
      tableOf_perm distinct.platforms reordered.platforms,
      tableOf_perm distinct.criteria reordered.criteria,
      tableOf_perm distinct.tests reordered.tests,
      tableOf_perm distinctStates (states_perm reordered.states read otherRead),
      tableOf_perm distinct.moduleTests reordered.moduleTests,
      tableOf_perm distinct.architectures reordered.architectures,
      tableOf_perm distinct.erratumNames reordered.errata,
      tableOf_perm distinct.erratumIds reordered.errata,
      tableOf_perm distinct.erratumNames reordered.errata]
  repositoryIds label := getD_inverseOf_perm (reordered.repositories.map _) label

end Snapshot.Reordered

end RecordOrder

end CveTriage
