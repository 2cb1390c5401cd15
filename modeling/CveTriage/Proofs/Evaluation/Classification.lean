import CveTriage.Proofs.Evaluation.Grouping
import CveTriage.Proofs.Passes.Growth

/-!
# The outcome of an evaluation

Which vulnerabilities end up in which bucket, what becomes of the buckets when vulnerability
definitions are not evaluated, and what the two reports have in common.
-/

set_option autoImplicit false

namespace CveTriage

open Std (ExtTreeMap)

/-! ## What an evaluation finds

Which vulnerabilities belong into the three buckets of a host can be said
without groups and passes, by the definitions that hit one of its packages and
by the updates within its reach (`Unpatched`, `Fixable`, `ManuallyFixable`). A
successful evaluation over a built index fills its buckets with exactly these
(`classifies_of_evaluate`).

Two facts carry the proof. The groups of one type reveal what the definitions
of that type reveal (`exists_mem_group_reveals_iff`), because a built index
finds every definition under its own identifier, so that all mentions of an
identifier agree. And each pass places exactly what there is a reason for and
no higher bucket holds, whatever it passes over on the way.
-/

section Classification

/-! ### What belongs into the buckets -/

section Reasons

variable (index : Index) (settings : EvaluationSettings) (updates : UpdateSource)
  (request : Request)

/-- The definition is a candidate that lists the name of the package, and the
criteria with the given root hold for the package. -/
def Hits (id : DefinitionId) (criteriaId : CriteriaId) (package : String) : Prop :=
  ∃ nevra nameId,
    request.inventory.packages[package]? = some nevra ∧
    index.packageNameId nevra.name = some nameId ∧
    id ∈ index.packageNameDefinitions nameId ∧
    (request.candidates index).contains id = true ∧
    (settings.matcher index request.inventory).criteriaHold criteriaId nameId nevra = true

/-- The vulnerability is linked to a definition of the type that hits a package
of the host. -/
def Revealed (type : DefinitionType) (cve : String) : Prop :=
  ∃ id definition, index.definition id = some definition ∧ definition.type = type ∧
    (∃ package, Hits index settings request id definition.criteriaId package) ∧
    cve ∈ index.definitionCves id

/-- The vulnerability affects the host, and nothing fixes it. -/
def Unpatched (cve : String) : Prop :=
  settings.unfixed = true ∧ Revealed index settings request .vulnerability cve

/-- An update within reach fixes the vulnerability, and it is not unpatched. -/
def Fixable (cve : String) : Prop :=
  (updates.available request.inventory).Fixes index cve ∧ ¬Unpatched index settings request cve

/-- The vulnerability affects the host and has a fix, but it has no place in a
higher bucket. -/
def ManuallyFixable (cve : String) : Prop :=
  Revealed index settings request .patch cve ∧ ¬Unpatched index settings request cve ∧
    ¬Fixable index settings updates request cve

/-- The buckets hold the vulnerabilities that belong into them, and no others. -/
structure Classifies (buckets : Buckets) : Prop where
  mem_unpatched_iff (cve : String) :
    cve ∈ buckets.unpatched ↔ Unpatched index settings request cve
  mem_fixable_iff (cve : String) :
    cve ∈ buckets.fixable ↔ Fixable index settings updates request cve
  mem_manuallyFixable_iff (cve : String) :
    cve ∈ buckets.manuallyFixable ↔ ManuallyFixable index settings updates request cve

end Reasons

variable {index : Index} {settings : EvaluationSettings} {updates : UpdateSource}
  {request : Request} {buckets : Buckets}

/-! ### Groups reveal what definitions reveal -/

/-- The mentions of the host, with the details of the definitions. -/
def HostMentions (index : Index) (request : Request)
    (details : List (TestedPackage × Definition)) : Prop :=
  detailedMentions index (mentions index request.inventory.packages (request.candidates index)) =
    .ok details

/-- Identifiers are looked up, so two mentions of one identifier have the same detail. -/
theorem HostMentions.eq_of_id_eq (keyed : index.Keyed)
    {details : List (TestedPackage × Definition)} (detailed : HostMentions index request details) :
    ∀ first ∈ details, ∀ second ∈ details, first.2.id = second.2.id → first.2 = second.2 := by
  rintro ⟨_, first⟩ memberFirst ⟨_, second⟩ memberSecond same
  have foundFirst := ((mem_detailedMentions_iff_of_keyed keyed detailed).1 memberFirst).2
  have foundSecond := ((mem_detailedMentions_iff_of_keyed keyed detailed).1 memberSecond).2
  rw [same, foundSecond] at foundFirst
  exact (Except.ok.inj foundFirst).symm

/-- **The groups of one type reveal what the definitions of that type reveal.** -/
theorem exists_mem_group_reveals_iff (keyed : index.Keyed)
    {details : List (TestedPackage × Definition)} (detailed : HostMentions index request details)
    {type : DefinitionType} (meaningful : type = .patch ∨ type = .vulnerability) {cve : String} :
    (∃ group ∈ (Groups.ofMentions type details).values,
      group.Reveals index (settings.matcher index request.inventory).criteriaHold cve) ↔
    Revealed index settings request type cve := by
  have grouped := @exists_mem_group_iff type details (detailed.eq_of_id_eq keyed)
    fun id criteriaId package =>
      (settings.matcher index request.inventory).criteriaHold criteriaId package.nameId
        package.nevra = true ∧ cve ∈ index.definitionCves id
  constructor
  · rintro ⟨group, member, ⟨package, memberPackage, holds⟩, linked⟩
    obtain ⟨package, definition, mention, ofType, holds, linked⟩ :=
      grouped.1 ⟨group, member, package, memberPackage, holds, linked⟩
    obtain ⟨mentioned, found⟩ := (mem_detailedMentions_iff_of_keyed keyed detailed).1 mention
    obtain ⟨tested, listed, candidate⟩ := mem_mentions_iff.1 mentioned
    obtain ⟨present, named⟩ := mem_testedPackages_iff.1 tested
    exact ⟨definition.id, definition, (mentionedDefinition_eq_ok_iff.1 found).1, ofType,
      ⟨package.package, package.nevra, package.nameId, present, named, listed, candidate, holds⟩,
      linked⟩
  · rintro ⟨id, definition, found, ofType,
      ⟨package, nevra, nameId, present, named, listed, candidate, holds⟩, linked⟩
    obtain rfl := keyed id definition found
    have tested : ⟨package, nameId, nevra⟩ ∈ testedPackages index request.inventory.packages :=
      mem_testedPackages_iff.2 ⟨present, named⟩
    have mention : (⟨package, nameId, nevra⟩, definition) ∈ details :=
      (mem_detailedMentions_iff_of_keyed keyed detailed).2
        ⟨mem_mentions_iff.2 ⟨tested, listed, candidate⟩,
          mentionedDefinition_eq_ok_iff.2 ⟨found, ofType ▸ meaningful⟩⟩
    obtain ⟨group, member, package, memberPackage, holds, linked⟩ :=
      grouped.2 ⟨_, definition, mention, ofType, holds, linked⟩
    exact ⟨group, member, ⟨package, memberPackage, holds⟩, linked⟩

theorem exists_mem_vulnerabilities_reveals_iff (keyed : index.Keyed)
    {details : List (TestedPackage × Definition)} (detailed : HostMentions index request details)
    {cve : String} :
    (∃ group ∈ (if settings.unfixed then Groups.ofMentions .vulnerability details else ∅).values,
      group.Reveals index (settings.matcher index request.inventory).criteriaHold cve) ↔
    Unpatched index settings request cve := by
  rw [Unpatched, ← exists_mem_group_reveals_iff keyed detailed (Or.inr rfl)]
  cases settings.unfixed with
  | false => simp [mem_values_iff]
  | true => simp

/-! ### The buckets of an evaluation -/

section Classify

variable {inventory : Inventory} {grouping : Grouping} {cve : String}

theorem mem_unpatched_classify_iff :
    cve ∈ (classify index settings updates inventory grouping).unpatched ↔
      ∃ group ∈ grouping.vulnerabilities.values,
        group.Reveals index (settings.matcher index inventory).criteriaHold cve := by
  simp only [classify, unpatched_manuallyFixablePass, unpatched_fixablePass,
    mem_unpatched_unpatchedPass_iff, Buckets.empty]
  exact or_iff_right ExtTreeMap.not_mem_empty

theorem mem_fixable_classify_iff :
    cve ∈ (classify index settings updates inventory grouping).fixable ↔
      (updates.available inventory).Fixes index cve ∧
        cve ∉ (classify index settings updates inventory grouping).unpatched := by
  simp only [classify, fixable_manuallyFixablePass, unpatched_manuallyFixablePass,
    unpatched_fixablePass, mem_fixable_fixablePass_iff, fixable_unpatchedPass, Buckets.empty]
  rw [or_iff_right ExtTreeMap.not_mem_empty, and_comm]

theorem mem_manuallyFixable_classify_iff :
    cve ∈ (classify index settings updates inventory grouping).manuallyFixable ↔
      (∃ group ∈ grouping.patches.values,
        group.Reveals index (settings.matcher index inventory).criteriaHold cve) ∧
      cve ∉ (classify index settings updates inventory grouping).unpatched ∧
      cve ∉ (classify index settings updates inventory grouping).fixable := by
  simp only [classify, fixable_manuallyFixablePass, unpatched_manuallyFixablePass,
    mem_manuallyFixable_manuallyFixablePass_iff, manuallyFixable_fixablePass,
    manuallyFixable_unpatchedPass, Buckets.empty]
  rw [or_iff_right ExtTreeMap.not_mem_empty, ← and_assoc, and_comm]

theorem lastChange_classify :
    (classify index settings updates inventory grouping).lastChange = index.lastChange :=
  lastChange_manuallyFixablePass

end Classify

theorem evaluate_eq_ok_iff :
    evaluate index settings updates request = .ok buckets ↔
      ∃ details, HostMentions index request details ∧
        buckets = classify index settings updates request.inventory
          ⟨.ofMentions .patch details,
            if settings.unfixed then .ofMentions .vulnerability details else ∅⟩ := by
  unfold evaluate Grouping.ofPackages HostMentions
  cases detailedMentions index
      (mentions index request.inventory.packages (request.candidates index)) with
  | error cause => simp [Except.map]
  | ok details =>
      simp only [Except.map, Except.ok.injEq]
      constructor
      · rintro rfl
        exact ⟨details, rfl, rfl⟩
      · rintro ⟨_, rfl, rfl⟩
        rfl

/-- An evaluation fails when the details of the mentions cannot be had. -/
theorem evaluate_eq_error_iff {cause : GroupingError} :
    evaluate index settings updates request = .error (.grouping cause) ↔
      detailedMentions index
        (mentions index request.inventory.packages (request.candidates index)) =
          .error cause := by
  unfold evaluate Grouping.ofPackages
  cases detailedMentions index
      (mentions index request.inventory.packages (request.candidates index)) with
  | error other => simp [Except.map]
  | ok details => simp [Except.map]

/-- **A successful evaluation finds exactly what belongs into the buckets.** -/
theorem classifies_of_evaluate {snapshot : Snapshot}
    (built : Index.ofSnapshot snapshot = .ok index)
    (succeeded : evaluate index settings updates request = .ok buckets) :
    Classifies index settings updates request buckets := by
  obtain ⟨details, detailed, same⟩ := evaluate_eq_ok_iff.1 succeeded
  have keyed := keyed_of_ofSnapshot built
  have unpatched : ∀ cve, cve ∈ buckets.unpatched ↔ Unpatched index settings request cve := by
    intro cve
    rw [same, mem_unpatched_classify_iff]
    exact exists_mem_vulnerabilities_reveals_iff keyed detailed
  have fixable : ∀ cve, cve ∈ buckets.fixable ↔ Fixable index settings updates request cve := by
    intro cve
    rw [Fixable, ← unpatched, same]
    exact mem_fixable_classify_iff
  have manuallyFixable : ∀ cve, cve ∈ buckets.manuallyFixable ↔
      ManuallyFixable index settings updates request cve := by
    intro cve
    rw [ManuallyFixable, ← unpatched, ← fixable, same, mem_manuallyFixable_classify_iff]
    exact and_congr_left' (exists_mem_group_reveals_iff keyed detailed (Or.inl rfl))
  exact ⟨unpatched, fixable, manuallyFixable⟩

/-- A feed that links the first vulnerability to a vulnerability definition, to
an erratum and to a patch definition, the second one to the last two and the
third one to the patch definition. -/
def overlappingFeed : Snapshot :=
  { Snapshot.empty .epoch with
    packageNames := [⟨⟨1⟩, "bash"⟩]
    contentSets := [⟨⟨1⟩, "base", [⟨1⟩]⟩]
    platforms := [⟨⟨1⟩, "linux", [⟨1⟩, ⟨2⟩]⟩]
    definitions :=
      [⟨⟨⟨1⟩, .vulnerability, ⟨1⟩⟩, ["CVE-1"], [], [⟨1⟩]⟩,
        ⟨⟨⟨2⟩, .patch, ⟨1⟩⟩, ["CVE-1", "CVE-2", "CVE-3"], [⟨1⟩], [⟨1⟩]⟩]
    criteria := [⟨⟨1⟩, .all, [], [⟨1⟩], []⟩]
    tests := [⟨⟨1⟩, ⟨1⟩, .atLeastOne, [⟨1⟩]⟩]
    states := [⟨⟨1⟩, "0:5.1-1", .equals, []⟩]
    errata := [⟨⟨1⟩, "RHSA-1", ["CVE-1", "CVE-2"]⟩] }

/-- The index of the overlapping feed. -/
def overlappingIndex : Index :=
  (Tables.ofSnapshot overlappingFeed [⟨⟨1⟩, ⟨0, "5.1", "1"⟩, .equals, []⟩]).index

/-- A host with the package that both definitions ask for. -/
def overlappingHost : Request :=
  ⟨["bash-0:5.1-1.x86_64"], some ["base"], none, none, []⟩

/-- An update of the package, which ships the erratum. -/
def overlappingUpdates : UpdateSource :=
  ⟨fun _ => ExtTreeMap.insert ∅ "bash-0:5.1-1.x86_64" [⟨"bash-0:5.2-1.x86_64", "RHSA-1", none⟩]⟩

/-- One vulnerability in each of the buckets. -/
def overlappingBuckets : Buckets where
  unpatched := CveMap.merge ∅ ⟨"CVE-1", "bash-0:5.1-1.x86_64", []⟩
  fixable := CveMap.merge ∅ ⟨"CVE-2", "bash-0:5.1-1.x86_64", ["RHSA-1"]⟩
  manuallyFixable := CveMap.merge ∅ ⟨"CVE-3", "bash-0:5.1-1.x86_64", ["RHSA-1"]⟩
  lastChange := .epoch

/-- Each of the three vulnerabilities belongs into a bucket of its own. -/
theorem classifies_overlappingHost :
    Index.ofSnapshot overlappingFeed = .ok overlappingIndex ∧
    evaluate overlappingIndex .default overlappingUpdates overlappingHost =
      .ok overlappingBuckets ∧
    Classifies overlappingIndex .default overlappingUpdates overlappingHost overlappingBuckets := by
  have built : Index.ofSnapshot overlappingFeed = .ok overlappingIndex := rfl
  have succeeded : evaluate overlappingIndex .default overlappingUpdates overlappingHost =
      .ok overlappingBuckets := rfl
  exact ⟨built, succeeded, classifies_of_evaluate built succeeded⟩

end Classification

/-! ## What the evaluation of vulnerability definitions changes

Whether vulnerability definitions are evaluated is a setting. Two evaluations
that differ in nothing else are compared.

They fail alike, since every definition that is mentioned is looked up and its
type is checked before the setting is asked for. If they succeed, the evaluation
of vulnerability definitions takes what it finds unpatched out of the two lower
buckets, and does nothing else to them (`Buckets.Promoted`). In the fixable
bucket this is so with all details, because errata are counted once before
anything is left out. In the manually fixable bucket it is so of the names only:
a definition that is skipped on account of unpatched vulnerabilities gives no
evidence for others that have a place already.
-/

section Unfixed

variable {index : Index} {settings : EvaluationSettings} {updates : UpdateSource}
  {request : Request} {inventory : Inventory} {grouping : Grouping}

/-- The lower buckets are those of an evaluation without vulnerability definitions,
less the vulnerabilities that are unpatched. -/
structure Buckets.Promoted (buckets plain : Buckets) : Prop where
  unpatched : plain.unpatched = ∅
  fixable : buckets.fixable = plain.fixable.filter fun cve _ => !buckets.unpatched.contains cve
  manuallyFixable : ∀ cve, cve ∈ buckets.manuallyFixable ↔
    cve ∈ plain.manuallyFixable ∧ cve ∉ buckets.unpatched

/-- **The fixable bucket has all evidence of the updates, less what is unpatched.** -/
theorem fixable_classify :
    (classify index settings updates inventory grouping).fixable =
      (CveMap.mergeAll ∅ ((updates.available inventory).evidence index)).filter fun cve _ =>
        !(classify index settings updates inventory grouping).unpatched.contains cve := by
  simp only [classify, fixable_manuallyFixablePass, unpatched_manuallyFixablePass,
    unpatched_fixablePass, fixable_fixablePass, fixable_unpatchedPass, Buckets.empty]
  exact CveMap.filter_mergeAll (fun cve => !ExtTreeMap.contains _ cve) _

/-- Without groups of vulnerability definitions nothing is unpatched. -/
theorem unpatched_classify_empty (patches : Groups) :
    (classify index settings updates inventory ⟨patches, ∅⟩).unpatched = ∅ := by
  simp only [classify, unpatched_manuallyFixablePass, unpatched_fixablePass]
  rfl

/-- **Groups of vulnerability definitions promote vulnerabilities and change nothing else.** -/
theorem promoted_classify (maxDepth : Nat) (patches vulnerabilities : Groups) :
    (classify index ⟨true, maxDepth⟩ updates inventory ⟨patches, vulnerabilities⟩).Promoted
      (classify index ⟨false, maxDepth⟩ updates inventory ⟨patches, ∅⟩) := by
  have none := @unpatched_classify_empty index ⟨false, maxDepth⟩ updates inventory patches
  refine ⟨none, ?_, fun cve => ?_⟩
  · rw [fixable_classify, fixable_classify, none]
    refine ExtTreeMap.ext_getElem? fun cve => ?_
    simp
  · rw [mem_manuallyFixable_classify_iff, mem_manuallyFixable_classify_iff,
      mem_fixable_classify_iff, mem_fixable_classify_iff, none]
    constructor
    · rintro ⟨revealed, notUnpatched, notFixable⟩
      exact ⟨⟨revealed, ExtTreeMap.not_mem_empty, fun fixable => notFixable
        ⟨fixable.1, notUnpatched⟩⟩, notUnpatched⟩
    · rintro ⟨⟨revealed, -, notFixable⟩, notUnpatched⟩
      exact ⟨revealed, notUnpatched, fun fixable => notFixable
        ⟨fixable.1, ExtTreeMap.not_mem_empty⟩⟩

/-- Without vulnerability definitions the first vulnerability of the overlapping
feed is fixable. -/
example :
    (evaluate overlappingIndex ⟨false, 64⟩ overlappingUpdates overlappingHost).map
        (fun plain => (plain.unpatched.keys, plain.fixable.keys, plain.manuallyFixable.keys)) =
      .ok ([], ["CVE-1", "CVE-2"], ["CVE-3"]) :=
  rfl

end Unfixed

/-! ## The two reports agree

One report lists the names under which details are stored, the other one the
details, which name a vulnerability themselves. That both speak of the same
vulnerabilities rests on how buckets are filled: every detail is stored under the
vulnerability that it is about (`CveMap.Filed`). The buckets of an evaluation come
from empty ones by three passes, so they are filed (`filed_of_evaluate`).

Names stand in the order of their bytes, since a table lists its keys in their
order, and each of them once.
-/

section Report

variable {index : Index} {settings : EvaluationSettings} {updates : UpdateSource}
  {request : Request} {buckets : Buckets} {cves : CveMap}

/-! ### Lists of one bucket -/

/-- The names of vulnerabilities and the details about the same vulnerabilities,
both in the order of the bytes of the names. Every detail names a package. -/
structure ListsAlike (names : List String) (details : List Detail) : Prop where
  same : names = details.map (·.cve)
  ascending : names.Pairwise fun first second => utf8Bytes first < utf8Bytes second
  distinct : names.Nodup
  affected : ∀ detail ∈ details, detail.affectedPackages ≠ #[]

namespace CveMap

/-- The keys of a bucket ascend by their bytes. -/
theorem pairwise_keys (cves : CveMap) :
    cves.keys.Pairwise fun first second => utf8Bytes first < utf8Bytes second :=
  ExtTreeMap.ordered_keys.imp compare_eq_lt_iff_utf8Bytes_lt.1

/-- **A filed bucket lists the vulnerabilities that its details are about.** -/
theorem Filed.keys_eq_map_values (filed : cves.Filed) : cves.keys = cves.values.map (·.cve) := by
  rw [← ExtTreeMap.map_fst_toList_eq_keys, values_eq_map_toList, List.map_map]
  refine List.map_congr_left fun entry member => ?_
  have found : cves[entry.1]? = some entry.2 := ExtTreeMap.mem_toList_iff_getElem?_eq_some.1 member
  exact (filed entry.1 entry.2 found).1.symm

theorem Filed.listsAlike (filed : cves.Filed) : ListsAlike cves.keys cves.values where
  same := filed.keys_eq_map_values
  ascending := cves.pairwise_keys
  distinct := by
    refine cves.pairwise_keys.imp fun less equal => ?_
    rw [equal] at less
    exact List.lt_irrefl _ less
  affected := by
    intro detail member
    obtain ⟨cve, found⟩ := mem_values_iff.1 member
    exact (filed cve detail found).2

end CveMap

/-! ### Reports -/

/-- The list of a report for a bucket. -/
def Report.list {α : Type} (report : Report α) : Bucket → List α
  | .unpatched => report.unpatched
  | .fixable => report.fixable
  | .manuallyFixable => report.manuallyFixable

theorem Buckets.list_compact (bucket : Bucket) :
    buckets.compact.list bucket = (buckets.get bucket).keys := by
  cases bucket <;> rfl

theorem Buckets.list_extended (bucket : Bucket) :
    buckets.extended.list bucket = (buckets.get bucket).values := by
  cases bucket <;> rfl

/-- The reports are about the same vulnerabilities, bucket by bucket. -/
structure CompactReport.Agrees (compact : CompactReport) (extended : ExtendedReport) : Prop where
  lastChange : compact.lastChange = extended.lastChange
  lists : ∀ bucket, ListsAlike (compact.list bucket) (extended.list bucket)

theorem Buckets.Filed.agrees (filed : buckets.Filed) : buckets.compact.Agrees buckets.extended where
  lastChange := rfl
  lists bucket := by
    rw [Buckets.list_compact, Buckets.list_extended]
    exact (filed bucket).listsAlike

/-- Three passes over empty buckets leave them filed. -/
theorem filed_classify {inventory : Inventory} {grouping : Grouping} :
    (classify index settings updates inventory grouping).Filed := by
  let judgement := (settings.matcher index inventory).criteriaHold
  let passes : List PassCall :=
    [.unpatched index judgement grouping.vulnerabilities,
      .fixable index (updates.available inventory),
      .manuallyFixable index judgement grouping.patches]
  exact (Buckets.filed_empty index.lastChange).runAll (passes.map .pass)

theorem filed_of_evaluate (succeeded : evaluate index settings updates request = .ok buckets) :
    buckets.Filed := by
  obtain ⟨details, -, same⟩ := evaluate_eq_ok_iff.1 succeeded
  rw [same]
  exact filed_classify

/-- **The two reports agree.** Either the evaluation fails and both reports fail
with it, or both list its buckets, and then each list of the compact report has the
names of the details in the same list of the extended report, in their order. -/
theorem reports_agree (index : Index) (settings : EvaluationSettings) (updates : UpdateSource)
    (request : Request) :
    (∃ error, evaluate index settings updates request = .error error ∧
      compactReport index settings updates request = .error error ∧
      extendedReport index settings updates request = .error error) ∨
    ∃ buckets compact extended, evaluate index settings updates request = .ok buckets ∧
      compactReport index settings updates request = .ok compact ∧
      extendedReport index settings updates request = .ok extended ∧
      (∀ bucket, compact.list bucket = (buckets.get bucket).keys) ∧
      compact.Agrees extended := by
  simp only [compactReport, extendedReport]
  cases evaluated : evaluate index settings updates request with
  | error error => exact .inl ⟨error, rfl, rfl, rfl⟩
  | ok buckets =>
      exact .inr ⟨buckets, _, _, rfl, rfl, rfl, fun _ => Buckets.list_compact _,
        (filed_of_evaluate evaluated).agrees⟩

example : compactReport overlappingIndex .default overlappingUpdates overlappingHost =
    .ok ⟨["CVE-2"], ["CVE-3"], ["CVE-1"], .epoch⟩ := by
  rfl

end Report

end CveTriage
