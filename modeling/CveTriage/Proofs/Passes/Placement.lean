import CveTriage.Evaluation.Evaluate

/-!
# Places of vulnerabilities

Which vulnerabilities a pass places, and why passes in order place none of them twice.
-/

set_option autoImplicit false

namespace CveTriage

open Std (ExtTreeMap ExtTreeSet)

/-! ## What a pass places

Each pass puts vulnerabilities into one bucket and leaves the other two alone.
For every pass the vulnerabilities in its bucket afterwards are described
without the evidence that is collected on the way: those that were there
before, and those for which there is a reason and that no higher bucket holds.

For the two passes over definitions the reason is a definition of which some
package matches (`DefinitionGroup.Reveals`), for the pass over updates it is an
update that fixes the vulnerability (`UpdateList.Fixes`). An erratum that was
seen before and a definition all of whose vulnerabilities are placed are passed
over; neither costs a vulnerability its place (`exists_mem_firstOffers_iff`,
`mem_manuallyFixableStep_iff`).
-/

section Placement

variable {index : Index} {judgement : Judgement} {groups : Groups} {buckets : Buckets}
  {cve : String}

/-! ### Merging evidence -/

namespace CveMap

theorem not_contains_iff {cves : CveMap} : (!cves.contains cve) = true ↔ cve ∉ cves := by
  rw [Bool.not_eq_true', ← Bool.not_eq_true, ExtTreeMap.contains_iff_mem]

theorem mem_merge_iff {cves : CveMap} {piece : Evidence} :
    cve ∈ cves.merge piece ↔ cve ∈ cves ∨ piece.cve = cve := by
  rw [merge, ExtTreeMap.mem_alter]
  by_cases same : piece.cve = cve <;> simp [same]

/-- Evidence adds the vulnerabilities that it is about, and takes none away. -/
theorem mem_mergeAll_iff {cves : CveMap} {evidence : List Evidence} :
    cve ∈ cves.mergeAll evidence ↔ cve ∈ cves ∨ ∃ piece ∈ evidence, piece.cve = cve := by
  unfold mergeAll
  induction evidence generalizing cves with
  | nil => simp
  | cons piece rest ih => simp [ih, mem_merge_iff, or_assoc]

/-- Evidence that is left out for its vulnerability adds nothing. -/
theorem mem_mergeAll_filter_iff (keep : String → Bool) {cves : CveMap}
    {evidence : List Evidence} :
    cve ∈ cves.mergeAll (evidence.filter fun piece => keep piece.cve) ↔
      cve ∈ cves ∨ (keep cve = true ∧ ∃ piece ∈ evidence, piece.cve = cve) := by
  rw [mem_mergeAll_iff]
  refine or_congr_right ?_
  constructor
  · rintro ⟨piece, member, rfl⟩
    obtain ⟨member, kept⟩ := List.mem_filter.1 member
    exact ⟨kept, piece, member, rfl⟩
  · rintro ⟨kept, piece, member, rfl⟩
    exact ⟨piece, List.mem_filter.2 ⟨member, kept⟩, rfl⟩

end CveMap

/-! ### Reasons for a place -/

/-- The criteria of the definition hold for a package of its group, and the
vulnerability is linked to the definition. -/
def DefinitionGroup.Reveals (index : Index) (judgement : Judgement) (group : DefinitionGroup)
    (cve : String) : Prop :=
  (∃ package ∈ group.packages,
    judgement group.criteriaId package.nameId package.nevra = true) ∧
  cve ∈ index.definitionCves group.definitionId

/-- The erratum of one of the updates fixes the vulnerability. -/
def UpdateList.Fixes (index : Index) (updates : UpdateList) (cve : String) : Prop :=
  ∃ (package : String) (available : List AvailableUpdate),
    updates[package]? = some available ∧
      ∃ update ∈ available, cve ∈ index.erratumCves update.erratum

/-- A group gives evidence for exactly the vulnerabilities that it reveals. -/
theorem exists_mem_evidence_iff {group : DefinitionGroup} :
    (∃ piece ∈ group.evidence index judgement, piece.cve = cve) ↔
      group.Reveals index judgement cve := by
  simp only [DefinitionGroup.evidence, DefinitionGroup.hits, DefinitionGroup.Reveals,
    List.mem_flatMap, List.mem_filter, List.mem_map]
  constructor
  · rintro ⟨_, ⟨package, ⟨member, holds⟩, linked, memberCves, rfl⟩, rfl⟩
    exact ⟨⟨package, member, holds⟩, memberCves⟩
  · rintro ⟨⟨package, member, holds⟩, memberCves⟩
    exact ⟨_, ⟨package, ⟨member, holds⟩, cve, memberCves, rfl⟩, rfl⟩

/-! ### The pass over vulnerability definitions -/

@[simp]
theorem fixable_unpatchedPass :
    (unpatchedPass index judgement groups buckets).fixable = buckets.fixable := rfl

@[simp]
theorem manuallyFixable_unpatchedPass :
    (unpatchedPass index judgement groups buckets).manuallyFixable = buckets.manuallyFixable := rfl

theorem mem_unpatched_unpatchedPass_iff :
    cve ∈ (unpatchedPass index judgement groups buckets).unpatched ↔
      cve ∈ buckets.unpatched ∨
        ∃ group ∈ groups.values, group.Reveals index judgement cve := by
  simp only [unpatchedPass]
  generalize buckets.unpatched = start
  induction groups.values generalizing start with
  | nil => simp
  | cons group rest ih =>
      rw [List.foldl_cons, ih, CveMap.mem_mergeAll_iff, exists_mem_evidence_iff]
      simp [or_assoc]

/-! ### The pass over updates -/

@[simp]
theorem unpatched_fixablePass {updates : UpdateList} :
    (fixablePass index updates buckets).unpatched = buckets.unpatched := rfl

@[simp]
theorem manuallyFixable_fixablePass {updates : UpdateList} :
    (fixablePass index updates buckets).manuallyFixable = buckets.manuallyFixable := rfl

/-- Passing over later offers of an erratum leaves out no erratum. -/
theorem exists_mem_firstOffers_iff {seen : ExtTreeSet String} {offered : List (String × String)}
    {erratum : String} :
    (∃ package, (package, erratum) ∈ firstOffers seen offered) ↔
      erratum ∉ seen ∧ ∃ package, (package, erratum) ∈ offered := by
  induction offered generalizing seen with
  | nil => simp [firstOffers]
  | cons offer rest ih =>
      obtain ⟨package, first⟩ := offer
      by_cases known : first ∈ seen
      · rw [firstOffers, if_pos known, ih]
        refine and_congr_right fun fresh => ?_
        have differs : erratum ≠ first := fun same => fresh (same ▸ known)
        simp [differs]
      · rw [firstOffers, if_neg known]
        simp only [List.mem_cons, Prod.mk.injEq, exists_or, ih, ExtTreeSet.mem_insert, not_or]
        by_cases same : erratum = first
        · subst same
          simp [known]
        · simp [same, Ne.symm same]

/-- Every update offers its erratum. -/
theorem exists_mem_offers_iff {updates : UpdateList} {erratum : String} :
    (∃ package, (package, erratum) ∈ offers updates) ↔
      ∃ (package : String) (available : List AvailableUpdate),
        updates[package]? = some available ∧ ∃ update ∈ available, update.erratum = erratum := by
  simp only [offers, List.mem_flatMap, List.mem_map, Prod.mk.injEq]
  constructor
  · rintro ⟨_, ⟨package, available⟩, member, update, memberUpdate, rfl, rfl⟩
    exact ⟨package, available, ExtTreeMap.mem_toList_iff_getElem?_eq_some.1 member, update,
      memberUpdate, rfl⟩
  · rintro ⟨package, available, found, update, memberUpdate, rfl⟩
    exact ⟨package, (package, available), ExtTreeMap.mem_toList_iff_getElem?_eq_some.2 found,
      update, memberUpdate, rfl, rfl⟩

/-- What the updates reveal: the vulnerabilities that each erratum fixes, with the
package that is the first to be offered the erratum. -/
def UpdateList.evidence (index : Index) (updates : UpdateList) : List Evidence :=
  (firstOffers ∅ (offers updates)).flatMap fun offer =>
    (index.erratumCves offer.2).map fun cve => ⟨cve, offer.1, [offer.2]⟩

/-- Updates give evidence for exactly the vulnerabilities that they fix. -/
theorem UpdateList.exists_mem_evidence_iff {updates : UpdateList} :
    (∃ piece ∈ updates.evidence index, piece.cve = cve) ↔ updates.Fixes index cve := by
  simp only [UpdateList.evidence, List.mem_flatMap, List.mem_map]
  constructor
  · rintro ⟨_, ⟨⟨package, erratum⟩, member, fixed, memberCves, rfl⟩, rfl⟩
    obtain ⟨-, package, offered⟩ := exists_mem_firstOffers_iff.1 ⟨package, member⟩
    obtain ⟨package, available, found, update, memberUpdate, rfl⟩ :=
      exists_mem_offers_iff.1 ⟨package, offered⟩
    exact ⟨package, available, found, update, memberUpdate, memberCves⟩
  · rintro ⟨package, available, found, update, memberUpdate, memberCves⟩
    obtain ⟨package, offered⟩ :=
      exists_mem_offers_iff.2 ⟨package, available, found, update, memberUpdate, rfl⟩
    obtain ⟨package, member⟩ := exists_mem_firstOffers_iff.2
      ⟨ExtTreeSet.not_mem_empty, package, offered⟩
    exact ⟨_, ⟨(package, update.erratum), member, cve, memberCves, rfl⟩, rfl⟩

/-- The evidence of the updates is merged, less what is unpatched. -/
theorem fixable_fixablePass {updates : UpdateList} :
    (fixablePass index updates buckets).fixable =
      buckets.fixable.mergeAll
        ((updates.evidence index).filter fun piece => !buckets.unpatched.contains piece.cve) :=
  rfl

theorem mem_fixable_fixablePass_iff {updates : UpdateList} :
    cve ∈ (fixablePass index updates buckets).fixable ↔
      cve ∈ buckets.fixable ∨ (cve ∉ buckets.unpatched ∧ updates.Fixes index cve) := by
  rw [fixable_fixablePass, ← UpdateList.exists_mem_evidence_iff, ← CveMap.not_contains_iff]
  exact CveMap.mem_mergeAll_filter_iff fun cve => !buckets.unpatched.contains cve

/-! ### The pass over patch definitions -/

@[simp]
theorem unpatched_manuallyFixableStep {group : DefinitionGroup} :
    (manuallyFixableStep index judgement buckets group).unpatched = buckets.unpatched := by
  unfold manuallyFixableStep
  split <;> rfl

@[simp]
theorem fixable_manuallyFixableStep {group : DefinitionGroup} :
    (manuallyFixableStep index judgement buckets group).fixable = buckets.fixable := by
  unfold manuallyFixableStep
  split <;> rfl

@[simp]
theorem lastChange_manuallyFixableStep {group : DefinitionGroup} :
    (manuallyFixableStep index judgement buckets group).lastChange = buckets.lastChange := by
  unfold manuallyFixableStep
  split <;> rfl

/-- What no step changes is the same after the pass. -/
theorem kept_manuallyFixablePass {α : Type} (part : Buckets → α)
    (kept : ∀ buckets group,
      part (manuallyFixableStep index judgement buckets group) = part buckets) :
    part (manuallyFixablePass index judgement groups buckets) = part buckets := by
  unfold manuallyFixablePass
  induction groups.values generalizing buckets with
  | nil => rfl
  | cons group rest ih => rw [List.foldl_cons, ih, kept]

@[simp]
theorem unpatched_manuallyFixablePass :
    (manuallyFixablePass index judgement groups buckets).unpatched = buckets.unpatched :=
  kept_manuallyFixablePass Buckets.unpatched fun _ _ => unpatched_manuallyFixableStep

@[simp]
theorem fixable_manuallyFixablePass :
    (manuallyFixablePass index judgement groups buckets).fixable = buckets.fixable :=
  kept_manuallyFixablePass Buckets.fixable fun _ _ => fixable_manuallyFixableStep

@[simp]
theorem lastChange_manuallyFixablePass :
    (manuallyFixablePass index judgement groups buckets).lastChange = buckets.lastChange :=
  kept_manuallyFixablePass Buckets.lastChange fun _ _ => lastChange_manuallyFixableStep

/-- One definition places what it reveals and no higher bucket holds. When the
definition is skipped, everything linked to it has a place already. -/
theorem mem_manuallyFixableStep_iff {group : DefinitionGroup} :
    cve ∈ (manuallyFixableStep index judgement buckets group).manuallyFixable ↔
      cve ∈ buckets.manuallyFixable ∨
        (cve ∉ buckets.unpatched ∧ cve ∉ buckets.fixable ∧
          group.Reveals index judgement cve) := by
  unfold manuallyFixableStep
  split
  next placed =>
    refine (or_iff_left_of_imp ?_).symm
    rintro ⟨notUnpatched, notFixable, -, linked⟩
    have classified := List.all_eq_true.1 placed cve linked
    simpa [Buckets.isClassified, notUnpatched, notFixable] using classified
  next =>
    rw [← exists_mem_evidence_iff, ← and_assoc, ← CveMap.not_contains_iff,
      ← CveMap.not_contains_iff, ← Bool.and_eq_true]
    exact CveMap.mem_mergeAll_filter_iff fun cve =>
      !buckets.unpatched.contains cve && !buckets.fixable.contains cve

theorem mem_manuallyFixable_manuallyFixablePass_iff :
    cve ∈ (manuallyFixablePass index judgement groups buckets).manuallyFixable ↔
      cve ∈ buckets.manuallyFixable ∨
        (cve ∉ buckets.unpatched ∧ cve ∉ buckets.fixable ∧
          ∃ group ∈ groups.values, group.Reveals index judgement cve) := by
  unfold manuallyFixablePass
  induction groups.values generalizing buckets with
  | nil => simp
  | cons group rest ih =>
      rw [List.foldl_cons, ih, mem_manuallyFixableStep_iff, unpatched_manuallyFixableStep,
        fixable_manuallyFixableStep, or_assoc, ← and_or_left, ← and_or_left]
      simp

end Placement

/-! ## No vulnerability is in two buckets

Nothing repairs buckets that overlap. That they do not is due to the question
that a pass asks before it places a vulnerability, and to the order of the
passes: a pass looks into the higher buckets only, so it must not run after a
pass that fills a lower one.

A sequence of passes is in order when none of a higher bucket follows one of a
lower bucket (`PassCall.InOrder`). The calls may have nothing to do with each
other: each has an index, a judgement, groups or updates of its own. What such
a sequence preserves depends on how far it has come (`Buckets.Reached`): the
buckets that it has not come to are still empty. One call preserves it
(`Buckets.Reached.run`), hence a sequence in order does, and the buckets are
disjoint whenever it is interrupted.
-/

section Precedence

/-! ### Disjoint buckets -/

/-- No vulnerability is in two buckets. -/
structure Buckets.PairwiseDisjoint (buckets : Buckets) : Prop where
  unpatched_fixable : ∀ cve ∈ buckets.unpatched, cve ∉ buckets.fixable
  unpatched_manuallyFixable : ∀ cve ∈ buckets.unpatched, cve ∉ buckets.manuallyFixable
  fixable_manuallyFixable : ∀ cve ∈ buckets.fixable, cve ∉ buckets.manuallyFixable

/-- The check of precedence finds every overlap, and only overlaps. -/
theorem Buckets.precedenceHolds_iff_pairwiseDisjoint {buckets : Buckets} :
    buckets.precedenceHolds = true ↔ buckets.PairwiseDisjoint := by
  simp only [Buckets.precedenceHolds, Bool.and_eq_true, List.all_eq_true, ExtTreeMap.mem_keys,
    CveMap.not_contains_iff]
  constructor
  · rintro ⟨highest, middle⟩
    exact ⟨fun cve member => (highest cve member).1, fun cve member => (highest cve member).2,
      middle⟩
  · rintro ⟨first, second, third⟩
    exact ⟨fun cve member => ⟨first cve member, second cve member⟩, third⟩

theorem Buckets.pairwiseDisjoint_empty (lastChange : Instant) :
    (Buckets.empty lastChange).PairwiseDisjoint := by
  constructor <;> exact fun cve member => (ExtTreeMap.not_mem_empty member).elim

variable {index : Index} {judgement : Judgement} {groups : Groups} {updates : UpdateList}
  {buckets : Buckets}

/-- The pass over updates looks into the unpatched bucket only. -/
theorem Buckets.PairwiseDisjoint.fixablePass (disjoint : buckets.PairwiseDisjoint)
    (vacant : buckets.manuallyFixable = ∅) :
    (fixablePass index updates buckets).PairwiseDisjoint where
  unpatched_fixable cve unpatched placed := by
    rcases mem_fixable_fixablePass_iff.1 placed with before | ⟨notUnpatched, -⟩
    · exact disjoint.unpatched_fixable cve unpatched before
    · exact notUnpatched unpatched
  unpatched_manuallyFixable := disjoint.unpatched_manuallyFixable
  fixable_manuallyFixable cve _ := by
    rw [manuallyFixable_fixablePass, vacant]
    exact ExtTreeMap.not_mem_empty

/-- The pass over patch definitions looks into both other buckets. -/
theorem Buckets.PairwiseDisjoint.manuallyFixablePass (disjoint : buckets.PairwiseDisjoint) :
    (manuallyFixablePass index judgement groups buckets).PairwiseDisjoint where
  unpatched_fixable cve := by
    rw [unpatched_manuallyFixablePass, fixable_manuallyFixablePass]
    exact disjoint.unpatched_fixable cve
  unpatched_manuallyFixable cve unpatched placed := by
    rw [unpatched_manuallyFixablePass] at unpatched
    rcases mem_manuallyFixable_manuallyFixablePass_iff.1 placed with before | ⟨notUnpatched, -, -⟩
    · exact disjoint.unpatched_manuallyFixable cve unpatched before
    · exact notUnpatched unpatched
  fixable_manuallyFixable cve fixable placed := by
    rw [fixable_manuallyFixablePass] at fixable
    rcases mem_manuallyFixable_manuallyFixablePass_iff.1 placed with before | ⟨-, notFixable, -⟩
    · exact disjoint.fixable_manuallyFixable cve fixable before
    · exact notFixable fixable

/-! ### Sequences of passes -/

/-- A call of one of the passes with everything that the pass is given. -/
inductive PassCall where
  | unpatched (index : Index) (judgement : Judgement) (groups : Groups)
  | fixable (index : Index) (updates : UpdateList)
  | manuallyFixable (index : Index) (judgement : Judgement) (groups : Groups)

namespace PassCall

/-- The buckets after a call. -/
def run : PassCall → Buckets → Buckets
  | .unpatched index judgement groups => unpatchedPass index judgement groups
  | .fixable index updates => fixablePass index updates
  | .manuallyFixable index judgement groups => CveTriage.manuallyFixablePass index judgement groups

/-- The buckets after calls, one after the other. -/
def runAll (calls : List PassCall) (buckets : Buckets) : Buckets :=
  calls.foldl (fun buckets call => call.run buckets) buckets

/-- The place of a call in the order of precedence. -/
def stage : PassCall → Nat
  | .unpatched .. => 0
  | .fixable .. => 1
  | .manuallyFixable .. => 2

/-- First come calls that fill the unpatched bucket, then those that fill the
fixable bucket, then those that fill the manually fixable bucket. -/
def InOrder (calls : List PassCall) : Prop :=
  calls.Pairwise fun earlier later => earlier.stage ≤ later.stage

/-- The stages of calls can be compared. -/
instance (calls : List PassCall) : Decidable (InOrder calls) :=
  inferInstanceAs (Decidable (calls.Pairwise _))

end PassCall

/-- What holds of buckets that have come to a stage: they are disjoint, and those
of later stages are empty. -/
structure Buckets.Reached (stage : Nat) (buckets : Buckets) : Prop where
  disjoint : buckets.PairwiseDisjoint
  noFixable : stage = 0 → buckets.fixable = ∅
  noManuallyFixable : stage ≤ 1 → buckets.manuallyFixable = ∅

namespace Buckets.Reached

variable {stage : Nat}

theorem mono {later : Nat} (reached : buckets.Reached stage) (le : stage ≤ later) :
    buckets.Reached later where
  disjoint := reached.disjoint
  noFixable start := reached.noFixable (by omega)
  noManuallyFixable early := reached.noManuallyFixable (by omega)

/-- A call does not leave its own stage. -/
theorem run {call : PassCall} (reached : buckets.Reached call.stage) :
    (call.run buckets).Reached call.stage := by
  cases call with
  | unpatched index judgement groups =>
      have noFixable := reached.noFixable rfl
      have noManuallyFixable := reached.noManuallyFixable (Nat.zero_le _)
      refine ⟨⟨fun cve _ => ?_, fun cve _ => ?_, fun cve member => ?_⟩, fun _ => noFixable,
        fun _ => noManuallyFixable⟩
      · rw [PassCall.run, fixable_unpatchedPass, noFixable]
        exact ExtTreeMap.not_mem_empty
      · rw [PassCall.run, manuallyFixable_unpatchedPass, noManuallyFixable]
        exact ExtTreeMap.not_mem_empty
      · exact reached.disjoint.fixable_manuallyFixable cve member
  | fixable index updates =>
      have vacant := reached.noManuallyFixable (Nat.le_refl _)
      exact ⟨reached.disjoint.fixablePass vacant, nofun, fun _ => vacant⟩
  | manuallyFixable index judgement groups =>
      exact ⟨reached.disjoint.manuallyFixablePass, nofun,
        fun late => absurd late (Nat.not_succ_le_self 1)⟩

/-- Calls in order keep buckets disjoint. -/
theorem runAll {calls : List PassCall} (reached : buckets.Reached stage)
    (ordered : PassCall.InOrder calls) (later : ∀ call ∈ calls, stage ≤ call.stage) :
    (PassCall.runAll calls buckets).PairwiseDisjoint := by
  induction calls generalizing buckets stage with
  | nil => exact reached.disjoint
  | cons call rest ih =>
      obtain ⟨first, ordered⟩ := List.pairwise_cons.1 ordered
      exact ih (reached.mono (later call (by simp))).run ordered first

end Buckets.Reached

theorem Buckets.reached_empty (lastChange : Instant) : (Buckets.empty lastChange).Reached 0 :=
  ⟨Buckets.pairwiseDisjoint_empty lastChange, fun _ => rfl, fun _ => rfl⟩

/-- **Passes in order never put a vulnerability into two buckets.** From empty
buckets, however many calls have been made, the buckets are disjoint. The check
of precedence decides disjointness. A pass over patch definitions keeps
disjoint buckets disjoint, and so does a pass over updates as long as nothing
is manually fixable yet. -/
theorem pairwiseDisjoint_of_inOrder :
    (∀ (lastChange : Instant) (calls : List PassCall), PassCall.InOrder calls →
      ∀ made, made <+: calls →
        (PassCall.runAll made (Buckets.empty lastChange)).PairwiseDisjoint) ∧
    (∀ buckets : Buckets, buckets.precedenceHolds = true ↔ buckets.PairwiseDisjoint) ∧
    (∀ (index : Index) (judgement : Judgement) (groups : Groups) (buckets : Buckets),
      buckets.precedenceHolds = true →
        (manuallyFixablePass index judgement groups buckets).precedenceHolds = true) ∧
    (∀ (index : Index) (updates : UpdateList) (buckets : Buckets),
      buckets.precedenceHolds = true → buckets.manuallyFixable = ∅ →
        (fixablePass index updates buckets).precedenceHolds = true) := by
  refine ⟨?_, fun _ => Buckets.precedenceHolds_iff_pairwiseDisjoint, ?_, ?_⟩
  · intro lastChange calls ordered made interrupted
    have orderedMade : PassCall.InOrder made := List.Pairwise.sublist interrupted.sublist ordered
    exact (Buckets.reached_empty lastChange).runAll orderedMade fun _ _ => Nat.zero_le _
  · intro index judgement groups buckets holds
    rw [Buckets.precedenceHolds_iff_pairwiseDisjoint] at holds ⊢
    exact holds.manuallyFixablePass
  · intro index updates buckets holds vacant
    rw [Buckets.precedenceHolds_iff_pairwiseDisjoint] at holds ⊢
    exact holds.fixablePass vacant

/-- Passes that all have reason to place the first vulnerability: it is linked to
a vulnerability definition, to an erratum and to a patch definition. -/
def overlappingCalls : List PassCall :=
  let index : Index :=
    { Index.empty .epoch with
      definitionCves := fun id => if id.number = 1 then ["CVE-1"] else ["CVE-1", "CVE-2", "CVE-3"]
      erratumCves := fun _ => ["CVE-1", "CVE-2"] }
  let package : TestedPackage := ⟨"bash-5-1", ⟨1⟩, ⟨"bash", 0, "5", "1", ""⟩⟩
  let group (number : UInt32) : Groups := Groups.add ∅ ⟨⟨number⟩, .patch, ⟨1⟩⟩ package
  [.unpatched index (fun _ _ _ => true) (group 1),
    .fixable index (Std.ExtTreeMap.insert ∅ "bash-5-1" [⟨"bash-5-2", "RHSA-1", none⟩]),
    .manuallyFixable index (fun _ _ _ => true) (group 2)]

/-- The first pass takes the first vulnerability, the second pass the second
one, and the third is left for the third pass. -/
theorem pairwiseDisjoint_overlappingCalls :
    let buckets := PassCall.runAll overlappingCalls (Buckets.empty .epoch)
    buckets.PairwiseDisjoint ∧
      (buckets.unpatched.keys, buckets.fixable.keys, buckets.manuallyFixable.keys) =
        (["CVE-1"], ["CVE-2"], ["CVE-3"]) ∧
      (fixablePass (Index.empty .epoch) ∅ (Buckets.empty .epoch)).precedenceHolds = true ∧
      (manuallyFixablePass (Index.empty .epoch) (fun _ _ _ => true) ∅ buckets).precedenceHolds =
        true :=
  ⟨pairwiseDisjoint_of_inOrder.1 .epoch overlappingCalls (by decide) _ (List.prefix_refl _),
    by rfl,
    pairwiseDisjoint_of_inOrder.2.2.2 _ _ _ (by rfl) rfl,
    pairwiseDisjoint_of_inOrder.2.2.1 _ _ _ _ (by rfl)⟩

end Precedence

end CveTriage
