import CveTriage.Proofs.Passes.Contribution
import Mathlib.Data.List.Flatten

/-!
# What skipping definitions costs

A patch definition all of whose vulnerabilities have a place is skipped before its
criteria are evaluated. Here the pass is compared with one that skips nothing
(`exhaustivePass`).

Places and time are the same, and every detail is part of the one that would have been
collected (`Buckets.FallsShortOf`). It may be a proper part: a vulnerability that an
earlier definition of the same pass has placed counts as placed, so a later definition
with no other vulnerability is skipped although it would add its own packages and errata.
Nothing is lost exactly when every definition that hits a package contributes, unless
higher buckets hold all that it is linked to (`eq_exhaustivePass_iff_nothingWithheld`).
-/

set_option autoImplicit false

namespace CveTriage

open Std (ExtTreeMap)

variable {index : Index} {judgement : Judgement} {groups : Groups} {cve : String}

/-- Nothing is lost by leaving out elements exactly when these have nothing to give. -/
theorem flatMap_filter_eq_iff {α β : Type} {keep : α → Bool} {walk : α → List β}
    {elements : List α} :
    (elements.filter keep).flatMap walk = elements.flatMap walk ↔
      ∀ element ∈ elements, keep element = false → walk element = [] := by
  induction elements with
  | nil => simp
  | cons first rest ih =>
      rw [List.forall_mem_cons, ← ih, List.flatMap_cons]
      cases kept : keep first with
      | true =>
          rw [List.filter_cons_of_pos kept, List.flatMap_cons, List.append_cancel_left_eq]
          simp
      | false =>
          rw [List.filter_cons_of_neg (by simp [kept])]
          constructor
          · intro same
            have shorter := ((rest.filter_sublist (p := keep)).flatMap walk).length_le
            rw [same, List.length_append] at shorter
            have nothing : walk first = [] := List.eq_nil_of_length_eq_zero (by omega)
            rw [nothing, List.nil_append] at same
            exact ⟨fun _ => nothing, same⟩
          · rintro ⟨nothing, same⟩
            rw [nothing rfl, List.nil_append, same]

/-! ## The pass that skips nothing -/

/-- What one patch definition reveals, whether or not all its vulnerabilities have places. -/
def exhaustiveStep (index : Index) (judgement : Judgement) (buckets : Buckets)
    (group : DefinitionGroup) : Buckets :=
  { buckets with
    manuallyFixable :=
      buckets.manuallyFixable.mergeAll (group.openEvidence index judgement buckets) }

/-- The pass over patch definitions that skips none of them. -/
def exhaustivePass (index : Index) (judgement : Judgement) (groups : Groups) (buckets : Buckets) :
    Buckets :=
  groups.values.foldl (exhaustiveStep index judgement) buckets

theorem foldl_exhaustiveStep_eq (groups : List DefinitionGroup) (start : Buckets) :
    groups.foldl (exhaustiveStep index judgement) start =
      { start with
        manuallyFixable := start.manuallyFixable.mergeAll
          (groups.flatMap (·.openEvidence index judgement start)) } := by
  induction groups generalizing start with
  | nil => rfl
  | cons group rest ih =>
      rw [List.foldl_cons, ih, List.flatMap_cons]
      simp only [exhaustiveStep, CveMap.mergeAll, List.foldl_append]
      rfl

theorem getElem?_exhaustivePass (start : Buckets) (cve : String) :
    (exhaustivePass index judgement groups start).manuallyFixable[cve]? =
      Detail.continued cve start.manuallyFixable[cve]?
        (groups.values.flatMap fun group =>
          Evidence.found cve (group.openEvidence index judgement start)) := by
  rw [exhaustivePass, foldl_exhaustiveStep_eq, CveMap.getElem?_mergeAll_eq_continued,
    Evidence.found_flatMap]

theorem mem_manuallyFixable_exhaustivePass_iff {start : Buckets} :
    cve ∈ (exhaustivePass index judgement groups start).manuallyFixable ↔
      cve ∈ start.manuallyFixable ∨
        (cve ∉ start.unpatched ∧ cve ∉ start.fixable ∧
          ∃ group ∈ groups.values, group.Reveals index judgement cve) := by
  have spread : groups.values.flatMap (·.openEvidence index judgement start) =
      (groups.values.flatMap (·.evidence index judgement)).filter fun piece =>
        !start.unpatched.contains piece.cve && !start.fixable.contains piece.cve :=
    List.filter_flatMap.symm
  rw [exhaustivePass, foldl_exhaustiveStep_eq, spread, ← and_assoc]
  simp only [← CveMap.not_contains_iff, ← Bool.and_eq_true]
  refine (CveMap.mem_mergeAll_filter_iff fun cve =>
    !start.unpatched.contains cve && !start.fixable.contains cve).trans ?_
  refine or_congr_right (and_congr_right fun _ => ?_)
  simp only [← exists_mem_evidence_iff, List.mem_flatMap]
  constructor
  · rintro ⟨piece, ⟨group, listed, member⟩, about⟩
    exact ⟨group, listed, piece, member, about⟩
  · rintro ⟨group, listed, piece, member, about⟩
    exact ⟨piece, ⟨group, listed, member⟩, about⟩

/-! ## Evidence that may be missing -/

namespace Detail

/-- Packages and errata of the detail are among those of the other one, in the same order. -/
structure PartOf (detail complete : Detail) : Prop where
  cve : detail.cve = complete.cve
  affectedPackages : detail.affectedPackages.toList.Sublist complete.affectedPackages.toList
  errata : detail.errata.toList.Sublist complete.errata.toList

variable {start : Option Detail} {found others : List (String × List String)}

/-- A detail is part of what it would be if more had been found. -/
theorem exists_continued_partOf {detail : Detail} (fewer : found.Sublist others)
    (known : continued cve start found = some detail) :
    ∃ complete, continued cve start others = some complete ∧ detail.PartOf complete := by
  unfold continued at known ⊢
  by_cases nothing : others = []
  · subst nothing
    rw [List.sublist_nil.1 fewer] at known
    exact ⟨detail, known, rfl, List.Sublist.refl _, List.Sublist.refl _⟩
  · rw [if_neg nothing]
    refine ⟨_, rfl, ?_⟩
    split at known
    next =>
      subst known
      exact ⟨rfl, by simp, by simp⟩
    next =>
      obtain rfl := Option.some.inj known
      refine ⟨rfl, ?_, ?_⟩
      · simpa using fewer.map Prod.fst
      · simpa using fewer.flatMap Prod.snd

/-- Details are equal only if equally much was found. -/
theorem length_eq_of_continued_eq (same : continued cve start found = continued cve start others) :
    found.length = others.length := by
  have sizes := congrArg (fun detail => (detail.map (·.affectedPackages.size)).getD 0) same
  simp only [size_continued] at sizes
  omega

end Detail

/-- The same vulnerabilities have the same places, and the data are equally old. In the
lowest bucket evidence may be missing. -/
structure Buckets.FallsShortOf (buckets complete : Buckets) : Prop where
  unpatched : buckets.unpatched = complete.unpatched
  fixable : buckets.fixable = complete.fixable
  lastChange : buckets.lastChange = complete.lastChange
  mem_manuallyFixable_iff (cve : String) :
    cve ∈ buckets.manuallyFixable ↔ cve ∈ complete.manuallyFixable
  details (cve : String) (detail : Detail) : buckets.manuallyFixable[cve]? = some detail →
    ∃ more, complete.manuallyFixable[cve]? = some more ∧ detail.PartOf more

theorem Buckets.FallsShortOf.eq {buckets complete : Buckets} (short : buckets.FallsShortOf complete)
    (details : buckets.manuallyFixable = complete.manuallyFixable) : buckets = complete := by
  obtain ⟨unpatched, fixable, lastChange, -, -⟩ := short
  cases buckets
  cases complete
  simp_all

theorem fallsShortOf_exhaustivePass (keyed : groups.Keyed) (start : Buckets) :
    (manuallyFixablePass index judgement groups start).FallsShortOf
      (exhaustivePass index judgement groups start) where
  unpatched := by
    rw [unpatched_manuallyFixablePass, exhaustivePass, foldl_exhaustiveStep_eq]
  fixable := by
    rw [fixable_manuallyFixablePass, exhaustivePass, foldl_exhaustiveStep_eq]
  lastChange := by
    rw [lastChange_manuallyFixablePass, exhaustivePass, foldl_exhaustiveStep_eq]
  mem_manuallyFixable_iff cve := by
    rw [mem_manuallyFixable_manuallyFixablePass_iff, mem_manuallyFixable_exhaustivePass_iff]
  details cve detail known := by
    rw [getElem?_manuallyFixablePass keyed] at known
    rw [getElem?_exhaustivePass]
    exact Detail.exists_continued_partOf (List.filter_sublist.flatMap _) known

/-! ## When nothing is missing -/

/-- A definition that hits a package contributes, unless higher buckets hold all that it
is linked to. -/
def NothingWithheld (index : Index) (judgement : Judgement) (groups : Groups) (start : Buckets) :
    Prop :=
  ∀ group ∈ groups.values, group.hits judgement ≠ [] →
    ∀ cve ∈ index.definitionCves group.definitionId, cve ∉ start.unpatched →
      cve ∉ start.fixable → group.Contributes index judgement groups.values start

/-- Groups and their vulnerabilities can be searched. -/
instance (start : Buckets) : Decidable (NothingWithheld index judgement groups start) :=
  inferInstanceAs (Decidable (∀ _ ∈ _, _ → ∀ _ ∈ _, _))

/-- A definition finds something about exactly what it reveals. -/
theorem DefinitionGroup.findings_eq_nil_iff {group : DefinitionGroup} :
    group.findings index judgement cve = [] ↔ ¬group.Reveals index judgement cve := by
  rw [reveals_iff, findings, List.flatMap_eq_nil_iff]
  simp only [List.replicate_eq_nil_iff, List.count_eq_zero, not_and]
  constructor
  · intro nothing hits
    obtain ⟨package, member⟩ := List.exists_mem_of_ne_nil _ hits
    exact nothing package member
  · intro unlinked package member
    exact unlinked (List.ne_nil_of_mem member)

/-- Evidence about a vulnerability is complete exactly when no definition that is skipped
finds something about it. -/
theorem getElem?_manuallyFixablePass_eq_iff (keyed : groups.Keyed) {start : Buckets} :
    (manuallyFixablePass index judgement groups start).manuallyFixable[cve]? =
        (exhaustivePass index judgement groups start).manuallyFixable[cve]? ↔
      ∀ group ∈ groups.values, ¬group.Contributes index judgement groups.values start →
        Evidence.found cve (group.openEvidence index judgement start) = [] := by
  rw [getElem?_manuallyFixablePass keyed, getElem?_exhaustivePass]
  have fewer : (contributors index judgement groups start).Sublist groups.values :=
    List.filter_sublist
  constructor
  · intro same
    have equal := (fewer.flatMap _).length_eq.1 (Detail.length_eq_of_continued_eq same)
    intro group member skipped
    exact flatMap_filter_eq_iff.1 equal group member (decide_eq_false skipped)
  · intro nothing
    have equal := flatMap_filter_eq_iff.2 fun group member skipped =>
      nothing group member (of_decide_eq_false skipped)
    exact congrArg (Detail.continued cve _) equal

/-- **Skipping definitions costs nothing but evidence.** It costs none exactly when every
definition that hits a package contributes, unless higher buckets hold all that it is
linked to. -/
theorem eq_exhaustivePass_iff_nothingWithheld (keyed : groups.Keyed) (start : Buckets) :
    (manuallyFixablePass index judgement groups start).FallsShortOf
        (exhaustivePass index judgement groups start) ∧
      (manuallyFixablePass index judgement groups start =
          exhaustivePass index judgement groups start ↔
        NothingWithheld index judgement groups start) := by
  have short := @fallsShortOf_exhaustivePass index judgement groups keyed start
  refine ⟨short, ?_⟩
  constructor
  · intro same group member hits cve linked notUnpatched notFixable
    by_contra skipped
    have nothing := (getElem?_manuallyFixablePass_eq_iff keyed).1
      (congrArg (·.manuallyFixable[cve]?) same) group member skipped
    rw [DefinitionGroup.found_openEvidence, if_neg (by simp [notUnpatched, notFixable]),
      DefinitionGroup.findings_eq_nil_iff, DefinitionGroup.reveals_iff] at nothing
    exact nothing ⟨hits, linked⟩
  · intro contributes
    refine short.eq (ExtTreeMap.ext_getElem? fun cve => ?_)
    refine (getElem?_manuallyFixablePass_eq_iff keyed).2 fun group member skipped => ?_
    rw [DefinitionGroup.found_openEvidence]
    split
    next => rfl
    next lower =>
      rw [not_or] at lower
      refine DefinitionGroup.findings_eq_nil_iff.2 fun reveals => ?_
      obtain ⟨hits, linked⟩ := DefinitionGroup.reveals_iff.1 reveals
      exact skipped (contributes group member hits cve linked lower.1 lower.2)

/-- Buckets in which the first vulnerability is fixable. -/
def fixableBuckets : Buckets :=
  { Buckets.empty .epoch with fixable := CveMap.merge ∅ ⟨"CVE-1", "bash-5.1-1.x86_64", []⟩ }

/-- The third definition is the only one with a vulnerability that has no place yet. -/
theorem eq_exhaustivePass_fixableBuckets :
    repeatedGroups.Keyed ∧
      NothingWithheld repeatedIndex repeatedJudgement repeatedGroups fixableBuckets ∧
      manuallyFixablePass repeatedIndex repeatedJudgement repeatedGroups fixableBuckets =
        exhaustivePass repeatedIndex repeatedJudgement repeatedGroups fixableBuckets := by
  have keyed : repeatedGroups.Keyed := Groups.keyed_ofMentions _ _
  have contributes :
      NothingWithheld repeatedIndex repeatedJudgement repeatedGroups fixableBuckets := by
    decide
  exact ⟨keyed, contributes,
    (eq_exhaustivePass_iff_nothingWithheld keyed fixableBuckets).2.2 contributes⟩

/-- The second of three definitions that hit a package is skipped, because the first one
has placed the vulnerability, and its package and its erratum are missing. -/
theorem ne_exhaustivePass_repeatedGroups :
    Index.ofSnapshot repeatedFeed = .ok repeatedIndex ∧
    Grouping.ofPackages repeatedIndex repeatedHost.inventory.packages
      (repeatedHost.candidates repeatedIndex) true = .ok ⟨repeatedGroups, ∅⟩ ∧
    (manuallyFixablePass repeatedIndex repeatedJudgement repeatedGroups
      (Buckets.empty .epoch)).manuallyFixable["CVE-1"]? =
        some ⟨"CVE-1", #["bash-5.1-1.x86_64", "bash-5.1-1.x86_64"], #["RHSA-1", "RHSA-3"]⟩ ∧
    (exhaustivePass repeatedIndex repeatedJudgement repeatedGroups
      (Buckets.empty .epoch)).manuallyFixable["CVE-1"]? =
        some ⟨"CVE-1", #["bash-5.1-1.x86_64", "bash-5.1-1.x86_64", "bash-5.1-1.x86_64"],
          #["RHSA-1", "RHSA-2", "RHSA-3"]⟩ ∧
    manuallyFixablePass repeatedIndex repeatedJudgement repeatedGroups (Buckets.empty .epoch) ≠
      exhaustivePass repeatedIndex repeatedJudgement repeatedGroups (Buckets.empty .epoch) := by
  refine ⟨rfl, rfl, rfl, rfl, fun same => ?_⟩
  have details := congrArg (fun buckets => buckets.manuallyFixable["CVE-1"]?) same
  have sizes := congrArg (Option.map fun detail => detail.affectedPackages.size) details
  exact absurd sizes (by decide)

end CveTriage
