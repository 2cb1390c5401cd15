import CveTriage.Proofs.Evaluation.Classification
import CveTriage.Proofs.Renumbering.Stages

/-!
# Identifiers are opaque

What an evaluation finds does not depend on the numbers in the feed. Under new
numbers the same definitions hit the same packages, hence every vulnerability
has the same reasons for its place, and the buckets hold the same names. This
is so although numbers decide in which order the definitions are evaluated, and
thereby which of them are skipped and which of several failures is reported.

Order shows in the evidence and in the failure, and nowhere else. If the new
numbers keep the order of the definitions, then all evidence comes in the same
order, and a failure names the same definition by its new number
(`evaluate_renumbered`).
-/

set_option autoImplicit false

namespace CveTriage

open Std (ExtTreeMap)

variable {renumbering : Renumbering} {index renumbered : Index} {settings : EvaluationSettings}
  {updates : UpdateSource} {request : Request} {cve : String}

/-- The groups of the mentions; those of vulnerabilities only if they are wanted. -/
def EvaluationSettings.grouping (settings : EvaluationSettings)
    (details : List (TestedPackage × Definition)) : Grouping :=
  ⟨.ofMentions .patch details,
    if settings.unfixed then .ofMentions .vulnerability details else ∅⟩

/-! ## The same reasons -/

section Reasons

variable (same : Index.Renumbered renumbering index renumbered)

include same

/-- The definitions that hit a package have the new numbers of those that did
before, whatever criteria are asked for. -/
theorem exists_of_hits_renumbered {id : DefinitionId} {criteriaId : CriteriaId} {package : String}
    (hit : Hits renumbered settings request id criteriaId package) :
    ∃ before, renumbering.apply before = id := by
  obtain ⟨nevra, nameId, -, named, listed, -⟩ := hit
  rw [same.packageNameId, Option.map_eq_some_iff] at named
  obtain ⟨nameId, -, rfl⟩ := named
  obtain ⟨before, -, moved⟩ := List.mem_map.1 ((same.packageNameDefinitions nameId id).1 listed)
  exact ⟨before, moved⟩

theorem hits_renumbered_iff {id : DefinitionId} {criteriaId : CriteriaId} {package : String} :
    Hits renumbered settings request (renumbering.apply id) (renumbering.apply criteriaId)
        package ↔
      Hits index settings request id criteriaId package := by
  have judged := renumbered_criteriaHold same settings request.inventory
  unfold Hits
  simp only [same.packageNameId, Option.map_eq_some_iff,
    Request.contains_candidates_renumbered same]
  constructor
  · rintro ⟨nevra, _, present, ⟨nameId, named, rfl⟩, listed, candidate, holds⟩
    rw [(same.packageNameDefinitions nameId).apply_mem_iff] at listed
    rw [judged] at holds
    exact ⟨nevra, nameId, present, named, listed, candidate, holds⟩
  · rintro ⟨nevra, nameId, present, named, listed, candidate, holds⟩
    rw [← (same.packageNameDefinitions nameId).apply_mem_iff] at listed
    rw [← judged] at holds
    exact ⟨nevra, _, present, ⟨nameId, named, rfl⟩, listed, candidate, holds⟩

/-- **The same vulnerabilities are revealed.** -/
theorem revealed_renumbered_iff {type : DefinitionType} :
    Revealed renumbered settings request type cve ↔ Revealed index settings request type cve := by
  constructor
  · rintro ⟨id, _, found, rfl, ⟨package, hit⟩, linked⟩
    obtain ⟨id, rfl⟩ := exists_of_hits_renumbered same hit
    rw [same.definition, Option.map_eq_some_iff] at found
    obtain ⟨definition, found, rfl⟩ := found
    rw [same.definitionCves] at linked
    exact ⟨id, definition, found, rfl, ⟨package, (hits_renumbered_iff same).1 hit⟩, linked⟩
  · rintro ⟨id, definition, found, rfl, ⟨package, hit⟩, linked⟩
    refine ⟨renumbering.apply id, renumbering.definition definition, ?_, rfl, ⟨package, ?_⟩, ?_⟩
    · rw [same.definition, found]
      rfl
    · exact (hits_renumbered_iff same).2 hit
    · rw [same.definitionCves]
      exact linked

theorem fixes_renumbered_iff {available : UpdateList} :
    available.Fixes renumbered cve ↔ available.Fixes index cve := by
  unfold UpdateList.Fixes
  simp only [same.erratumCves]

/-! ## The same names -/

omit same in
/-- Buckets with the same vulnerabilities have the same report of names. -/
theorem Buckets.compact_eq {buckets other : Buckets}
    (unpatched : ∀ cve, cve ∈ buckets.unpatched ↔ cve ∈ other.unpatched)
    (fixable : ∀ cve, cve ∈ buckets.fixable ↔ cve ∈ other.fixable)
    (manuallyFixable : ∀ cve, cve ∈ buckets.manuallyFixable ↔ cve ∈ other.manuallyFixable)
    (lastChange : buckets.lastChange = other.lastChange) : buckets.compact = other.compact := by
  unfold Buckets.compact
  rw [keys_eq_of_mem_iff unpatched, keys_eq_of_mem_iff fixable, keys_eq_of_mem_iff manuallyFixable,
    lastChange]

/-- Groups that reveal the same vulnerabilities put the same names into the
buckets, in whatever order they are evaluated. -/
theorem compact_classify_renumbered {inventory : Inventory} {grouping regrouping : Grouping}
    (vulnerabilities : ∀ cve,
      (∃ group ∈ regrouping.vulnerabilities.values,
        group.Reveals renumbered (settings.matcher renumbered inventory).criteriaHold cve) ↔
      ∃ group ∈ grouping.vulnerabilities.values,
        group.Reveals index (settings.matcher index inventory).criteriaHold cve)
    (patches : ∀ cve,
      (∃ group ∈ regrouping.patches.values,
        group.Reveals renumbered (settings.matcher renumbered inventory).criteriaHold cve) ↔
      ∃ group ∈ grouping.patches.values,
        group.Reveals index (settings.matcher index inventory).criteriaHold cve) :
    (classify renumbered settings updates inventory regrouping).compact =
      (classify index settings updates inventory grouping).compact := by
  have unpatched : ∀ cve,
      cve ∈ (classify renumbered settings updates inventory regrouping).unpatched ↔
        cve ∈ (classify index settings updates inventory grouping).unpatched := by
    intro cve
    rw [mem_unpatched_classify_iff, mem_unpatched_classify_iff]
    exact vulnerabilities cve
  have fixable : ∀ cve,
      cve ∈ (classify renumbered settings updates inventory regrouping).fixable ↔
        cve ∈ (classify index settings updates inventory grouping).fixable := by
    intro cve
    rw [mem_fixable_classify_iff, mem_fixable_classify_iff, fixes_renumbered_iff same, unpatched]
  refine Buckets.compact_eq unpatched fixable ?_ ?_
  · intro cve
    rw [mem_manuallyFixable_classify_iff, mem_manuallyFixable_classify_iff, patches, unpatched,
      fixable]
  · rw [lastChange_classify, lastChange_classify, same.lastChange]

/-- The definitions are found under new numbers exactly when they were before. -/
theorem exists_hostMentions_renumbered_iff :
    (∃ details, HostMentions renumbered request details) ↔
      ∃ details, HostMentions index request details :=
  exists_detailedMentions_renumbered_iff same (Request.contains_candidates_renumbered same request)

omit same in
theorem compactReport_eq_ok_iff {report : CompactReport} :
    compactReport index settings updates request = .ok report ↔
      ∃ details, HostMentions index request details ∧
        report = (classify index settings updates request.inventory
          (settings.grouping details)).compact := by
  unfold compactReport
  constructor
  · intro reported
    cases evaluated : evaluate index settings updates request with
    | error cause =>
        rw [evaluated] at reported
        cases reported
    | ok buckets =>
        obtain ⟨details, detailed, rfl⟩ := evaluate_eq_ok_iff.1 evaluated
        rw [evaluated] at reported
        exact ⟨details, detailed, (Except.ok.inj reported).symm⟩
  · rintro ⟨details, detailed, rfl⟩
    rw [evaluate_eq_ok_iff.2 ⟨details, detailed, rfl⟩]
    rfl

omit same in
/-- There is a report of names when the evaluation succeeds. -/
theorem exists_compactReport_eq_ok_iff :
    (∃ report, compactReport index settings updates request = .ok report) ↔
      ∃ buckets, evaluate index settings updates request = .ok buckets := by
  unfold compactReport
  cases evaluate index settings updates request <;> simp [Except.map]

section Keyed

variable (keyed : index.Keyed) (rekeyed : renumbered.Keyed)

include keyed rekeyed

/-- The mentions of a host lead to the same names. -/
theorem compact_eq_of_hostMentions {details redetails : List (TestedPackage × Definition)}
    (detailed : HostMentions index request details)
    (redetailed : HostMentions renumbered request redetails) :
    (classify renumbered settings updates request.inventory
        (settings.grouping redetails)).compact =
      (classify index settings updates request.inventory (settings.grouping details)).compact := by
  refine compact_classify_renumbered same ?_ ?_
  · intro cve
    have unpatched : Unpatched renumbered settings request cve ↔
        Unpatched index settings request cve :=
      and_congr_right fun _ => revealed_renumbered_iff same
    exact (exists_mem_vulnerabilities_reveals_iff rekeyed redetailed).trans
      (unpatched.trans (exists_mem_vulnerabilities_reveals_iff keyed detailed).symm)
  · intro cve
    exact (exists_mem_group_reveals_iff rekeyed redetailed (.inl rfl)).trans
      ((revealed_renumbered_iff same).trans
        (exists_mem_group_reveals_iff keyed detailed (.inl rfl)).symm)

/-- **An evaluation finds the same names under new numbers.** -/
theorem compactReport_renumbered (report : CompactReport) :
    compactReport renumbered settings updates request = .ok report ↔
      compactReport index settings updates request = .ok report := by
  rw [compactReport_eq_ok_iff, compactReport_eq_ok_iff]
  constructor
  · rintro ⟨redetails, redetailed, rfl⟩
    obtain ⟨details, detailed⟩ :=
      (exists_hostMentions_renumbered_iff same).1 ⟨redetails, redetailed⟩
    exact ⟨details, detailed, compact_eq_of_hostMentions same keyed rekeyed detailed redetailed⟩
  · rintro ⟨details, detailed, rfl⟩
    obtain ⟨redetails, redetailed⟩ :=
      (exists_hostMentions_renumbered_iff same).2 ⟨details, detailed⟩
    exact ⟨redetails, redetailed,
      (compact_eq_of_hostMentions same keyed rekeyed detailed redetailed).symm⟩

/-- **An evaluation succeeds under new numbers exactly when it did before.** -/
theorem exists_evaluate_renumbered_iff :
    (∃ buckets, evaluate renumbered settings updates request = .ok buckets) ↔
      ∃ buckets, evaluate index settings updates request = .ok buckets := by
  rw [← exists_compactReport_eq_ok_iff, ← exists_compactReport_eq_ok_iff]
  exact exists_congr (compactReport_renumbered same keyed rekeyed)

end Keyed

end Reasons

/-! ## The same evidence -/

namespace Renumbering

/-- The error with the new number of the definition. -/
def evaluationError (renumbering : Renumbering) : EvaluationError → EvaluationError
  | .grouping cause => .grouping (renumbering.groupingError cause)

end Renumbering

section InOrder

variable (same : Index.RenumberedInOrder renumbering index renumbered)

include same

/-- Definitions with details come in an order that is kept. -/
theorem keepsOrder_of_hostMentions (keyed : index.Keyed)
    {details : List (TestedPackage × Definition)} (detailed : HostMentions index request details)
    (first : TestedPackage × Definition) (memberFirst : first ∈ details)
    (second : TestedPackage × Definition) (memberSecond : second ∈ details)
    (less : compare first.2.id second.2.id = .lt) :
    compare (renumbering.apply first.2.id) (renumbering.apply second.2.id) = .lt := by
  have known : ∀ mention ∈ details, (index.definition mention.2.id).isSome := by
    intro mention member
    have found := ((mem_detailedMentions_iff_of_keyed keyed detailed).1 member).2
    rw [(mentionedDefinition_eq_ok_iff.1 found).1]
    rfl
  exact same.keepsOrder _ _ (known first memberFirst) (known second memberSecond) less

/-- **The same groups in the same order leave the same buckets.** -/
theorem classify_renumberedInOrder (keyed : index.Keyed)
    {details : List (TestedPackage × Definition)}
    (detailed : HostMentions index request details) :
    classify renumbered settings updates request.inventory
        (settings.grouping
          (details.map (Prod.map renumbering.package renumbering.definition))) =
      classify index settings updates request.inventory (settings.grouping details) := by
  have keepsOrder := keepsOrder_of_hostMentions same keyed detailed
  refine classify_renumbered same.toRenumbered ?_ (values_ofMentions_map .patch keepsOrder)
  unfold EvaluationSettings.grouping
  cases settings.unfixed with
  | false => rfl
  | true => exact values_ofMentions_map .vulnerability keepsOrder

/-- **In an order that is kept, all evidence is the same.** -/
theorem evaluate_renumberedInOrder (keyed : index.Keyed) :
    evaluate renumbered settings updates request =
      (evaluate index settings updates request).mapError renumbering.evaluationError := by
  unfold evaluate Grouping.ofPackages
  rw [mentions_renumbered same
      (Request.contains_candidates_renumbered same.toRenumbered request),
    detailedMentions_renumbered same.toRenumbered]
  cases detailed : detailedMentions index
      (mentions index request.inventory.packages (request.candidates index)) with
  | error cause => rfl
  | ok details => exact congrArg Except.ok (classify_renumberedInOrder same keyed detailed)

end InOrder

/-- Every number grows by six; the largest numbers start again from zero. -/
def growing : Renumbering where
  apply id := ⟨id.number + 6⟩
  injective kind := by
    rintro ⟨left⟩ ⟨right⟩ same
    exact congrArg Id.mk ((UInt32.add_left_inj 6).1 (Id.mk.inj same))

/-- The numbers one and two are exchanged, among others. -/
def exchanging : Renumbering where
  apply id := ⟨3 - id.number⟩
  injective kind := by
    rintro ⟨left⟩ ⟨right⟩ same
    exact congrArg Id.mk ((UInt32.sub_right_inj 3).1 (Id.mk.inj same))

/-- The index of the overlapping feed after its numbers have grown. -/
def grownIndex : Index :=
  (Tables.ofSnapshot (growing.snapshot overlappingFeed)
    [⟨⟨7⟩, ⟨0, "5.1", "1"⟩, .equals, []⟩]).index

/-- The index of the overlapping feed after its numbers are exchanged. -/
def exchangedIndex : Index :=
  (Tables.ofSnapshot (exchanging.snapshot overlappingFeed)
    [⟨⟨2⟩, ⟨0, "5.1", "1"⟩, .equals, []⟩]).index

end CveTriage
