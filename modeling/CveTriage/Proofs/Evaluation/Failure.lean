import CveTriage.Proofs.Evaluation.Classification

/-!
# When an evaluation fails

An evaluation fails on account of a candidate definition that lists the name of
a package of the host and has no detail, or a type without a meaning
(`CandidateFails`). If there are several, the first one counts: packages come in
the order of their strings, and the definitions of one package in the order in
which the index lists them (`FirstFailure`).

The walk that finds the first failure goes through the packages, and for each of
them through the candidates among its definitions
(`detailedMentions_eq_error_iff_firstFailure`). It asks nothing about criteria,
updates, streams or settings, so none of these decides whether an evaluation fails
or for which reason (`firstFailure_withCriteria_iff`). Over a built index the detail
of a definition that is listed is never missing (`exists_definition_of_listed`):
what is listed has a record, and every identifier that has a record leads to one.
-/

set_option autoImplicit false

namespace CveTriage

open Std (ExtTreeMap)

variable {index : Index} {settings : EvaluationSettings} {updates : UpdateSource}
  {request : Request} {candidates : Candidates} {cause : GroupingError}

/-! ## The first failure -/

section FirstFailure

variable (index : Index) (request : Request)

/-- The host has the package, and the index knows its name. -/
def HasNamed (package : String) (nameId : NameId) : Prop :=
  package ∈ request.packages ∧
    ∃ nevra, Nevra.parse package = .ok nevra ∧ index.packageNameId nevra.name = some nameId

/-- The definition is a candidate of the host and has no detail, or a type
without a meaning. -/
def CandidateFails (id : DefinitionId) (cause : GroupingError) : Prop :=
  (request.candidates index).contains id = true ∧ index.FailsFor id cause

/-- None of the definitions is a candidate that fails. -/
def NoneFails (ids : List DefinitionId) : Prop :=
  ∀ id ∈ ids, ∀ cause, ¬CandidateFails index request id cause

/-- The definition, listed for the package, is the first candidate that fails. -/
@[mk_iff]
structure FirstFailure (package : String) (id : DefinitionId) (cause : GroupingError) : Prop where
  fails : CandidateFails index request id cause
  listed : ∃ nameId before after, HasNamed index request package nameId ∧
    index.packageNameDefinitions nameId = before ++ id :: after ∧
    NoneFails index request before
  earlier : ∀ other nameId, HasNamed index request other nameId →
    utf8Bytes other < utf8Bytes package →
    NoneFails index request (index.packageNameDefinitions nameId)

end FirstFailure

/-! ## The walk -/

theorem exists_mentionedDefinition_iff {id : DefinitionId} :
    (∃ definition, mentionedDefinition index id = .ok definition) ↔
      ∀ cause, ¬index.FailsFor id cause := by
  simp only [← mentionedDefinition_eq_error_iff]
  cases mentionedDefinition index id with
  | ok definition => simp
  | error cause => simp

/-- The candidates that list the name of a package, with the package. -/
def mentionsOf (index : Index) (candidates : Candidates) (package : TestedPackage) :
    List (TestedPackage × DefinitionId) :=
  ((index.packageNameDefinitions package.nameId).filter candidates.contains).map (package, ·)

/-- Of one package, the first candidate that fails is found. The candidates in front of
it are those of the definitions in front of it. -/
theorem detailedMentions_mentionsOf_eq_error_iff {package : TestedPackage} :
    detailedMentions index (mentionsOf index candidates package) = .error cause ↔
      ∃ before id after, index.packageNameDefinitions package.nameId = before ++ id :: after ∧
        (∀ other ∈ before, candidates.contains other = true →
          ∀ cause, ¬index.FailsFor other cause) ∧
        candidates.contains id = true ∧ index.FailsFor id cause := by
  have asked (id : DefinitionId) :
      (mentionedDefinition index id).map (package, ·) = .error cause ↔ index.FailsFor id cause := by
    rw [← mentionedDefinition_eq_error_iff]
    cases mentionedDefinition index id <;> simp [Except.map]
  have answered (id : DefinitionId) :
      (∃ detail, (mentionedDefinition index id).map (package, ·) = .ok detail) ↔
        ∀ cause, ¬index.FailsFor id cause := by
    rw [← exists_mentionedDefinition_iff]
    cases mentionedDefinition index id <;> simp [Except.map]
  rw [detailedMentions, mentionsOf, List.mapM_map, mapM_eq_error_iff]
  constructor
  · intro ⟨found, id, others, split, succeed, fails⟩
    obtain ⟨first, second, listed, rfl, rest⟩ := List.filter_eq_append_iff.1 split
    obtain ⟨skipped, after, rfl, noCandidates, candidate, -⟩ := List.filter_eq_cons_iff.1 rest
    refine ⟨first ++ skipped, id, after, by simp [listed], ?_, candidate, (asked id).1 fails⟩
    intro other member contained
    rcases List.mem_append.1 member with inFirst | inSkipped
    · exact (answered other).1 (succeed other (List.mem_filter.2 ⟨inFirst, contained⟩))
    · exact absurd contained (noCandidates other inSkipped)
  · intro ⟨before, id, after, split, succeed, candidate, fails⟩
    refine ⟨before.filter candidates.contains, id, after.filter candidates.contains, ?_, ?_,
      (asked id).2 fails⟩
    · rw [split, List.filter_append, List.filter_cons_of_pos candidate]
    · intro other member
      obtain ⟨member, contained⟩ := List.mem_filter.1 member
      exact (answered other).2 (succeed other member contained)

/-- Of one package, all candidates have a detail with a type that has a meaning. -/
theorem exists_detailedMentions_mentionsOf_iff {package : TestedPackage} :
    (∃ details, detailedMentions index (mentionsOf index candidates package) = .ok details) ↔
      ∀ id ∈ index.packageNameDefinitions package.nameId, candidates.contains id = true →
        ∀ cause, ¬index.FailsFor id cause := by
  rw [exists_detailedMentions_eq_ok_iff]
  simp only [mentionsOf, List.forall_mem_map, List.mem_filter, exists_mentionedDefinition_iff,
    and_imp]

theorem hasNamed_iff {package : String} {nameId : NameId} :
    HasNamed index request package nameId ↔
      ∃ tested ∈ testedPackages index request.inventory.packages,
        tested.package = package ∧ tested.nameId = nameId := by
  constructor
  · intro ⟨listed, nevra, read, named⟩
    refine ⟨⟨package, nameId, nevra⟩, mem_testedPackages_iff.2 ⟨?_, named⟩, rfl, rfl⟩
    exact getElem?_packages_inventory_iff.2 ⟨listed, read⟩
  · intro ⟨tested, member, samePackage, sameName⟩
    obtain ⟨present, named⟩ := mem_testedPackages_iff.1 member
    obtain ⟨listed, read⟩ := getElem?_packages_inventory_iff.1 present
    subst samePackage sameName
    exact ⟨listed, tested.nevra, read, named⟩

/-- **The walk through the mentions of a host stops at the first failure.** -/
theorem detailedMentions_eq_error_iff_firstFailure :
    detailedMentions index
        (mentions index request.inventory.packages (request.candidates index)) = .error cause ↔
      ∃ package id, FirstFailure index request package id cause := by
  have ascends := pairwise_testedPackages index request.inventory.packages
  refine Iff.trans mapM_flatMap_eq_error_iff ?_
  constructor
  · intro ⟨before, package, after, split, succeed, fails⟩
    obtain ⟨skipped, id, others, listed, noneSkipped, candidate, fails⟩ :=
      detailedMentions_mentionsOf_eq_error_iff.1 fails
    have present : HasNamed index request package.package package.nameId :=
      hasNamed_iff.2 ⟨package, by rw [split]; simp, rfl, rfl⟩
    refine ⟨package.package, id, ⟨candidate, fails⟩, ⟨package.nameId, skipped, others, present,
      listed, ?_⟩, ?_⟩
    · intro other member cause failure
      exact noneSkipped other member failure.1 cause failure.2
    · intro other nameId named smaller
      obtain ⟨tested, member, rfl, rfl⟩ := hasNamed_iff.1 named
      rw [split] at ascends member
      have inBefore := (mem_before_iff_of_ascending ascends).2
        ⟨member, compare_eq_lt_iff_utf8Bytes_lt.2 smaller⟩
      have none := exists_detailedMentions_mentionsOf_iff.1 (succeed tested inBefore)
      intro id memberId cause failure
      exact none id memberId failure.1 cause failure.2
  · intro ⟨package, id, failure⟩
    obtain ⟨nameId, skipped, others, named, listed, noneSkipped⟩ := failure.listed
    obtain ⟨tested, member, rfl, rfl⟩ := hasNamed_iff.1 named
    obtain ⟨before, after, split⟩ := List.append_of_mem member
    rw [split] at ascends
    refine ⟨before, tested, after, split, ?_, ?_⟩
    · intro earlier inBefore
      obtain ⟨memberEarlier, smaller⟩ := (mem_before_iff_of_ascending ascends).1 inBefore
      have namedEarlier : HasNamed index request earlier.package earlier.nameId :=
        hasNamed_iff.2 ⟨earlier, split ▸ memberEarlier, rfl, rfl⟩
      have none := failure.earlier _ _ namedEarlier (compare_eq_lt_iff_utf8Bytes_lt.1 smaller)
      exact exists_detailedMentions_mentionsOf_iff.2 fun id memberId candidate cause fails =>
        none id memberId cause ⟨candidate, fails⟩
    · refine detailedMentions_mentionsOf_eq_error_iff.2 ⟨skipped, id, others, listed, ?_,
        failure.fails.1, failure.fails.2⟩
      exact fun other memberOther candidate cause fails =>
        noneSkipped other memberOther cause ⟨candidate, fails⟩

/-! ## Criteria -/

/-- The index with other criteria: every definition has another root, and what is
below the roots comes from another index. -/
def Index.withCriteria (index rules : Index) (root : DefinitionId → CriteriaId) : Index :=
  { index with
    definition := fun id =>
      (index.definition id).map fun definition => { definition with criteriaId := root id }
    criteria := rules.criteria
    test := rules.test
    state := rules.state
    moduleTest := rules.moduleTest
    architectureId := rules.architectureId }

section WithCriteria

variable {rules : Index} {root : DefinitionId → CriteriaId} {modules : List ModuleStream}

/-- Whether the detail of a definition is found, and of which type it is, has
nothing to do with criteria. -/
theorem failsFor_withCriteria_iff {id : DefinitionId} :
    (index.withCriteria rules root).FailsFor id cause ↔ index.FailsFor id cause := by
  simp only [Index.FailsFor, Index.withCriteria, Option.map_eq_none_iff, Option.map_eq_some_iff]
  refine or_congr_right ?_
  constructor
  · intro ⟨_, code, ⟨definition, found, same⟩, unsupported, failure⟩
    subst same
    exact ⟨definition, code, found, unsupported, failure⟩
  · intro ⟨definition, code, found, unsupported, failure⟩
    exact ⟨_, code, ⟨definition, found, rfl⟩, unsupported, failure⟩

theorem candidateFails_withCriteria_iff {id : DefinitionId} :
    CandidateFails (index.withCriteria rules root) { request with modules := modules } id cause ↔
      CandidateFails index request id cause :=
  and_congr_right' failsFor_withCriteria_iff

/-- Neither criteria nor module streams decide which failure is the first. -/
theorem firstFailure_withCriteria_iff {package : String} {id : DefinitionId} :
    FirstFailure (index.withCriteria rules root) { request with modules := modules }
        package id cause ↔
      FirstFailure index request package id cause := by
  simp only [firstFailure_iff, NoneFails, candidateFails_withCriteria_iff]
  rfl

end WithCriteria

/-! ## Built indexes -/

section Built

variable {snapshot : Snapshot} (built : Index.ofSnapshot snapshot = .ok index)

include built

/-- A definition that a package name leads to has a detail. -/
theorem exists_definition_of_listed {id : DefinitionId} {nameId : NameId}
    (listed : id ∈ index.packageNameDefinitions nameId) :
    ∃ definition, index.definition id = some definition := by
  obtain ⟨record, member, named, -⟩ := (mem_packageNameDefinitions_iff built).1 listed
  subst named
  obtain ⟨last, found⟩ := exists_lastWith?_of_mem (·.definition.id) member
  exact ⟨last.definition, by rw [definition_of_ofSnapshot built, Snapshot.definitionInEffect, found,
    Option.map_some]⟩

/-- So no failure over a built index is that of a missing definition. -/
theorem not_firstFailure_missingDefinition {package : String} {id missing : DefinitionId} :
    ¬FirstFailure index request package id (.missingDefinition missing) := by
  intro failure
  obtain ⟨nameId, before, after, -, split, -⟩ := failure.listed
  have listed : id ∈ index.packageNameDefinitions nameId := by simp [split]
  obtain ⟨definition, found⟩ := exists_definition_of_listed built listed
  obtain ⟨absent, -⟩ | ⟨_, _, -, -, unsupported⟩ := failure.fails.2
  · rw [found] at absent
    cases absent
  · cases unsupported

end Built

/-! ## Evaluations -/

/-- An evaluation fails with the first failure. -/
theorem evaluate_eq_error_iff_firstFailure :
    evaluate index settings updates request = .error (.grouping cause) ↔
      ∃ package id, FirstFailure index request package id cause :=
  evaluate_eq_error_iff.trans detailedMentions_eq_error_iff_firstFailure

/-- An evaluation fails when some candidate does: a success has a detail for every
mention. -/
theorem exists_evaluate_eq_error_iff :
    (∃ error, evaluate index settings updates request = .error error) ↔
      ∃ package nameId id cause, HasNamed index request package nameId ∧
        id ∈ index.packageNameDefinitions nameId ∧ CandidateFails index request id cause := by
  constructor
  · intro ⟨⟨cause⟩, failed⟩
    obtain ⟨package, id, failure⟩ := evaluate_eq_error_iff_firstFailure.1 failed
    obtain ⟨nameId, before, after, named, split, -⟩ := failure.listed
    exact ⟨package, nameId, id, cause, named, by simp [split], failure.fails⟩
  · intro ⟨package, nameId, id, cause, named, listed, candidate, fails⟩
    cases evaluated : evaluate index settings updates request with
    | error error => exact ⟨error, rfl⟩
    | ok buckets =>
        obtain ⟨details, detailed, -⟩ := evaluate_eq_ok_iff.1 evaluated
        obtain ⟨tested, member, -, sameName⟩ := hasNamed_iff.1 named
        have mentioned := mem_mentions_iff.2 ⟨member, sameName ▸ listed, candidate⟩
        have found := exists_detailedMentions_eq_ok_iff.1 ⟨details, detailed⟩ _ mentioned
        exact absurd fails (exists_mentionedDefinition_iff.1 found cause)

/-- **Evaluations fail exactly when a candidate does, and with the first failure.**
Settings, updates, criteria and module streams change nothing about it, and over a
built index no definition is missing. -/
theorem evaluate_fails_first :
    (∀ (index : Index) (settings : EvaluationSettings) (updates : UpdateSource)
        (request : Request),
      (∃ error, evaluate index settings updates request = .error error) ↔
        ∃ package nameId id cause, HasNamed index request package nameId ∧
          id ∈ index.packageNameDefinitions nameId ∧ CandidateFails index request id cause) ∧
    (∀ (index : Index) (settings : EvaluationSettings) (updates : UpdateSource)
        (request : Request) (cause : GroupingError),
      evaluate index settings updates request = .error (.grouping cause) ↔
        ∃ package id, FirstFailure index request package id cause) ∧
    (∀ (index rules : Index) (root : DefinitionId → CriteriaId)
        (settings otherSettings : EvaluationSettings) (updates otherUpdates : UpdateSource)
        (request : Request) (modules : List ModuleStream) (error : EvaluationError),
      evaluate (index.withCriteria rules root) otherSettings otherUpdates
          { request with modules := modules } = .error error ↔
        evaluate index settings updates request = .error error) ∧
    (∀ (snapshot : Snapshot) (index : Index), Index.ofSnapshot snapshot = .ok index →
      ∀ (settings : EvaluationSettings) (updates : UpdateSource) (request : Request)
        (missing : DefinitionId),
      evaluate index settings updates request ≠
        .error (.grouping (.missingDefinition missing))) := by
  refine ⟨fun _ _ _ _ => exists_evaluate_eq_error_iff,
    fun _ _ _ _ _ => evaluate_eq_error_iff_firstFailure, ?_, ?_⟩
  · intro index rules root settings otherSettings updates otherUpdates request modules error
    obtain ⟨cause⟩ := error
    rw [evaluate_eq_error_iff_firstFailure, evaluate_eq_error_iff_firstFailure]
    simp only [firstFailure_withCriteria_iff]
  · intro snapshot index built settings updates request missing failed
    obtain ⟨package, id, failure⟩ := evaluate_eq_error_iff_firstFailure.1 failed
    exact not_firstFailure_missingDefinition built failure

/-- The overlapping feed with two more definitions for the same name, both of
types without a meaning. Only the second one is a candidate. -/
def unsupportedFeed : Snapshot :=
  { overlappingFeed with
    platforms := [⟨⟨1⟩, "linux", [⟨1⟩, ⟨2⟩, ⟨4⟩]⟩]
    definitions := overlappingFeed.definitions ++
      [⟨⟨⟨3⟩, .unsupported 8, ⟨1⟩⟩, [], [], [⟨1⟩]⟩, ⟨⟨⟨4⟩, .unsupported 9, ⟨1⟩⟩, [], [], [⟨1⟩]⟩] }

/-- The index of the feed with two definitions of unsupported type. -/
def unsupportedIndex : Index :=
  (Tables.ofSnapshot unsupportedFeed [⟨⟨1⟩, ⟨0, "5.1", "1"⟩, .equals, []⟩]).index

/-- The candidate is the first failure, whatever the settings are. -/
theorem evaluate_fails_first_unsupportedIndex :
    Index.ofSnapshot unsupportedFeed = .ok unsupportedIndex ∧
    evaluate unsupportedIndex .default overlappingUpdates overlappingHost =
      .error (.grouping (.unsupportedType ⟨4⟩ 9)) ∧
    (∃ package id,
      FirstFailure unsupportedIndex overlappingHost package id (.unsupportedType ⟨4⟩ 9)) ∧
    evaluate (unsupportedIndex.withCriteria (.empty .epoch) fun _ => ⟨0⟩) ⟨false, 0⟩ ⟨fun _ => ∅⟩
        { overlappingHost with modules := [⟨"nodejs", "18"⟩] } =
      .error (.grouping (.unsupportedType ⟨4⟩ 9)) ∧
    evaluate unsupportedIndex .default overlappingUpdates overlappingHost ≠
      .error (.grouping (.missingDefinition ⟨4⟩)) := by
  have built : Index.ofSnapshot unsupportedFeed = .ok unsupportedIndex := rfl
  have failed : evaluate unsupportedIndex .default overlappingUpdates overlappingHost =
      .error (.grouping (.unsupportedType ⟨4⟩ 9)) := rfl
  obtain ⟨-, first, independent, neverMissing⟩ := evaluate_fails_first
  exact ⟨built, failed, (first _ _ _ _ _).1 failed, (independent _ _ _ _ _ _ _ _ _ _).2 failed,
    neverMissing _ _ built _ _ _ _⟩

end CveTriage
