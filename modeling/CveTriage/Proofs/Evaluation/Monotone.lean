import CveTriage.Proofs.Criteria.Derivation
import CveTriage.Proofs.Evaluation.Classification

/-!
# More evidence never takes a vulnerability back

Two runs over one index are compared, for hosts that reach the same definitions.
The larger run has the packages, the active streams and the updates of the
smaller one and perhaps more, it looks at least as deep into criteria, and it
evaluates vulnerability definitions if the smaller one does (`Run.Within`).

No part of the evaluation asks for the absence of evidence, except that a pass
leaves out what a higher bucket holds. So what is revealed or fixed in the
smaller run is revealed or fixed in the larger one, and a vulnerability that is
missing from its bucket there has been promoted (`Buckets.Dominates`). The
failures go the other way: the larger run mentions every definition that the
smaller one mentions, hence if it finds them all, the smaller one does too.
-/

set_option autoImplicit false

namespace CveTriage

open Std (ExtTreeMap)

/-- What an evaluation with prepared updates is given, apart from the index. -/
structure Run where
  settings : EvaluationSettings
  updates : UpdateList
  request : Request

namespace Run

/-- The outcome of the run over an index. -/
def evaluate (run : Run) (index : Index) : Except EvaluationError Buckets :=
  CveTriage.evaluate index run.settings (.prepared run.updates) run.request

/-- An update for the package ships the erratum. -/
def Offers (run : Run) (package erratum : String) : Prop :=
  ∃ available, run.updates[package]? = some available ∧
    ∃ update ∈ available, update.erratum = erratum

/-- An available update of the run fixes the vulnerability. -/
def Fixes (run : Run) (index : Index) (cve : String) : Prop :=
  ((UpdateSource.prepared run.updates).available run.request.inventory).Fixes index cve

/-- The larger run has all the evidence of the smaller one, for a host with the
same repositories, architecture and release. -/
structure Within (run larger : Run) : Prop where
  repositories : run.request.repositories = larger.request.repositories
  basearch : run.request.basearch = larger.request.basearch
  releasever : run.request.releasever = larger.request.releasever
  packages : ∀ package ∈ run.request.packages, (∃ nevra, Nevra.parse package = .ok nevra) →
    package ∈ larger.request.packages
  modules : ∀ module stream : String,
    run.request.inventory.modules[module]? = some stream →
      larger.request.inventory.modules[module]? = some stream
  unfixed : run.settings.unfixed = true → larger.settings.unfixed = true
  maxDepth : run.settings.maxDepth ≤ larger.settings.maxDepth
  updates : ∀ package erratum : String, run.Offers package erratum → larger.Offers package erratum

end Run

/-- Every vulnerability of the smaller buckets is in the same of the larger
buckets or in a higher one. -/
structure Buckets.Dominates (larger buckets : Buckets) : Prop where
  unpatched : ∀ cve ∈ buckets.unpatched, cve ∈ larger.unpatched
  fixable : ∀ cve ∈ buckets.fixable, cve ∈ larger.fixable ∨ cve ∈ larger.unpatched
  manuallyFixable : ∀ cve ∈ buckets.manuallyFixable,
    cve ∈ larger.manuallyFixable ∨ cve ∈ larger.fixable ∨ cve ∈ larger.unpatched

/-- The candidates depend on nothing but the repositories, the architecture and
the release of the host. -/
theorem Request.candidates_congr {index : Index} {request other : Request}
    (repositories : request.repositories = other.repositories)
    (basearch : request.basearch = other.basearch)
    (releasever : request.releasever = other.releasever) :
    request.candidates index = other.candidates index := by
  cases request
  cases other
  simp only at repositories basearch releasever
  subst repositories basearch releasever
  rfl

/-- What fixes a vulnerability is offered for a package that the host has. -/
theorem Run.fixes_iff {index : Index} {run : Run} {cve : String} :
    run.Fixes index cve ↔
      ∃ package erratum, package ∈ run.request.inventory.packages ∧
        run.Offers package erratum ∧ cve ∈ index.erratumCves erratum := by
  simp only [Run.Fixes, UpdateList.Fixes, getElem?_available_prepared_iff, Run.Offers]
  constructor
  · rintro ⟨package, available, ⟨found, present⟩, update, member, linked⟩
    exact ⟨package, update.erratum, present, ⟨available, found, update, member, rfl⟩, linked⟩
  · rintro ⟨package, _, present, ⟨available, found, update, member, rfl⟩, linked⟩
    exact ⟨package, available, ⟨found, present⟩, update, member, linked⟩

namespace Run.Within

variable {index : Index} {run larger : Run} {id : DefinitionId} {cve : String}

theorem candidates (within : run.Within larger) :
    run.request.candidates index = larger.request.candidates index :=
  Request.candidates_congr within.repositories within.basearch within.releasever

theorem matcher (within : run.Within larger) :
    (run.settings.matcher index run.request.inventory).Extends
      (larger.settings.matcher index larger.request.inventory) :=
  ⟨rfl, within.modules, within.maxDepth⟩

theorem getElem?_packages (within : run.Within larger) {package : String} {nevra : Nevra}
    (present : run.request.inventory.packages[package]? = some nevra) :
    larger.request.inventory.packages[package]? = some nevra := by
  obtain ⟨listed, parsed⟩ := getElem?_packages_inventory_iff.1 present
  exact getElem?_packages_inventory_iff.2 ⟨within.packages package listed ⟨nevra, parsed⟩, parsed⟩

/-! ## What is revealed and fixed -/

theorem hits (within : run.Within larger) {criteriaId : CriteriaId} {package : String}
    (hit : Hits index run.settings run.request id criteriaId package) :
    Hits index larger.settings larger.request id criteriaId package := by
  obtain ⟨nevra, nameId, present, named, listed, candidate, holds⟩ := hit
  exact ⟨nevra, nameId, within.getElem?_packages present, named, listed,
    within.candidates ▸ candidate, within.matcher.criteriaHold holds⟩

theorem revealed (within : run.Within larger) {type : DefinitionType}
    (revealed : Revealed index run.settings run.request type cve) :
    Revealed index larger.settings larger.request type cve := by
  obtain ⟨id, definition, found, ofType, ⟨package, hit⟩, linked⟩ := revealed
  exact ⟨id, definition, found, ofType, ⟨package, within.hits hit⟩, linked⟩

theorem unpatched (within : run.Within larger)
    (unpatched : Unpatched index run.settings run.request cve) :
    Unpatched index larger.settings larger.request cve :=
  ⟨within.unfixed unpatched.1, within.revealed unpatched.2⟩

theorem fixes (within : run.Within larger) (fixes : run.Fixes index cve) :
    larger.Fixes index cve := by
  obtain ⟨package, erratum, present, offered, linked⟩ := fixes_iff.1 fixes
  have kept : package ∈ larger.request.inventory.packages := by
    rw [ExtTreeMap.mem_iff_isSome_getElem?, Option.isSome_iff_exists] at present ⊢
    obtain ⟨nevra, found⟩ := present
    exact ⟨nevra, within.getElem?_packages found⟩
  exact fixes_iff.2 ⟨package, erratum, kept, within.updates package erratum offered, linked⟩

/-! ## What can fail -/

/-- The larger run mentions all that the smaller one mentions. -/
theorem mem_mentions (within : run.Within larger) {mention : TestedPackage × DefinitionId}
    (mentioned : mention ∈
      mentions index run.request.inventory.packages (run.request.candidates index)) :
    mention ∈
      mentions index larger.request.inventory.packages (larger.request.candidates index) := by
  obtain ⟨tested, listed, candidate⟩ := mem_mentions_iff.1 mentioned
  obtain ⟨present, named⟩ := mem_testedPackages_iff.1 tested
  exact mem_mentions_iff.2 ⟨mem_testedPackages_iff.2 ⟨within.getElem?_packages present, named⟩,
    listed, within.candidates ▸ candidate⟩

/-- When the larger run finds all definitions, the smaller one does. -/
theorem exists_hostMentions (within : run.Within larger)
    (found : ∃ details, HostMentions index larger.request details) :
    ∃ details, HostMentions index run.request details := by
  unfold HostMentions at found ⊢
  rw [exists_detailedMentions_eq_ok_iff] at found ⊢
  exact fun mention mentioned => found mention (within.mem_mentions mentioned)

end Run.Within

/-- The host of the overlapping feed without updates and without vulnerability
definitions. -/
def cautiousRun : Run :=
  ⟨⟨false, 0⟩, ∅, { overlappingHost with packages := ["bash-0:5.1-1.x86_64", "bash"] }⟩

/-- The same host with an update and with vulnerability definitions. -/
def thoroughRun : Run :=
  ⟨.default,
    ExtTreeMap.insert ∅ "bash-0:5.1-1.x86_64" [⟨"bash-0:5.2-1.x86_64", "RHSA-1", none⟩],
    overlappingHost⟩

theorem cautiousRun_within_thoroughRun : cautiousRun.Within thoroughRun where
  repositories := rfl
  basearch := rfl
  releasever := rfl
  packages := by
    intro package member parsed
    rcases List.mem_pair.1 member with rfl | rfl
    · exact List.mem_singleton_self _
    · obtain ⟨nevra, parsed⟩ := parsed
      cases parsed
  modules := by
    intro module stream active
    cases active
  unfixed := nofun
  maxDepth := Nat.zero_le _
  updates := by
    rintro package erratum ⟨available, found, -⟩
    cases found

/-- The host has the only package with an update. -/
theorem available_thoroughRun :
    (UpdateSource.prepared thoroughRun.updates).available thoroughRun.request.inventory =
      thoroughRun.updates := by
  refine ExtTreeMap.ext_getElem? fun package => Option.ext fun available => ?_
  rw [getElem?_available_prepared_iff, and_iff_left_iff_imp]
  intro found
  have listed : package ∈ thoroughRun.updates := by simp [ExtTreeMap.mem_iff_isSome_getElem?, found]
  obtain rfl : "bash-0:5.1-1.x86_64" = package := by
    simpa [thoroughRun] using listed
  rfl

end CveTriage
