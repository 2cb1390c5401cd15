import CveTriage.Proofs.Listing
import CveTriage.Proofs.Passes.Evidence

/-!
# What the pass over updates leaves behind

Updates offer errata to packages. The pass walks through the offers package by
package, in the order of the bytes of the package strings, and for one package in
the order of its list (`UpdateList.Walks`). Of every erratum only the first offer
counts. It counts even if nothing comes of it, because the erratum is unknown or
because everything that it fixes is unpatched; no later offer takes its place.

The pass remembers which errata it has seen. Which offers count can be said without
a memory, by what stands in front of each of them in the walk (`leadingOffers`), and
the two agree (`firstOffers_eq_leadingOffers`). So every detail that the pass leaves
behind can be written down (`continued_fixablePass`). An offer adds one package and
one erratum at a time, hence details that the pass has opened list as many packages
as errata.
-/

set_option autoImplicit false

namespace CveTriage

open Std (ExtTreeMap ExtTreeSet)

variable {index : Index} {updates : UpdateList} {buckets : Buckets} {package cve : String}

/-! ## The walk through the offers -/

namespace UpdateList

/-- The errata of the updates for a package, in order; none without an entry. -/
def errata (updates : UpdateList) (package : String) : List String :=
  (updates[package]?.getD []).map (·.erratum)

/-- What a list offers to a package. -/
def offersTo (updates : UpdateList) (package : String) : List (String × String) :=
  (updates.errata package).map (package, ·)

/-- Every package of the list is visited once, packages with smaller bytes come
first, and a package is offered its errata in the order of its updates. -/
structure Walks (updates : UpdateList) (walk : List (String × String)) : Prop where
  ascending : walk.Pairwise fun first second => utf8Bytes first.1 ≤ utf8Bytes second.1
  offered : ∀ package, (walk.filter fun offer => offer.1 = package) = updates.offersTo package

end UpdateList

/-- A list offers what it offers to the packages that have an entry. -/
theorem offers_eq_flatMap_keys : offers updates = updates.keys.flatMap updates.offersTo := by
  rw [offers, ← ExtTreeMap.map_fst_toList_eq_keys, List.flatMap_map]
  refine List.flatMap_congr fun entry member => ?_
  have found := ExtTreeMap.mem_toList_iff_getElem?_eq_some.1 member
  simp only [UpdateList.offersTo, UpdateList.errata, found, Option.getD_some, List.map_map]
  rfl

theorem eq_of_mem_offersTo {offer : String × String} (member : offer ∈ updates.offersTo package) :
    offer.1 = package := by
  obtain ⟨_, -, rfl⟩ := List.mem_map.1 member
  rfl

/-- A package to which something is offered has an entry. -/
theorem mem_of_offersTo_ne_nil (offered : updates.offersTo package ≠ []) : package ∈ updates := by
  by_contra missing
  simp [UpdateList.offersTo, UpdateList.errata, ExtTreeMap.getElem?_eq_none missing] at offered

/-- Of what is offered to one package, all or nothing is offered to another. -/
theorem filter_offersTo (other : String) :
    ((updates.offersTo other).filter fun offer => offer.1 = package) =
      if other = package then updates.offersTo package else [] := by
  split
  next same =>
    subst same
    exact List.filter_eq_self.2 fun offer member => by simp [eq_of_mem_offersTo member]
  next differs =>
    exact List.filter_eq_nil_iff.2 fun offer member => by simp [eq_of_mem_offersTo member, differs]

/-- **The offers are in the order of the walk.** -/
theorem walks_offers (updates : UpdateList) : updates.Walks (offers updates) where
  ascending := by
    rw [offers_eq_flatMap_keys, List.pairwise_flatMap]
    constructor
    · intro package _
      refine List.pairwise_of_forall_mem_list fun first memberFirst second memberSecond => ?_
      rw [eq_of_mem_offersTo memberFirst, eq_of_mem_offersTo memberSecond]
      exact List.le_refl _
    · refine ExtTreeMap.ordered_keys.imp fun less first memberFirst second memberSecond => ?_
      rw [eq_of_mem_offersTo memberFirst, eq_of_mem_offersTo memberSecond]
      exact List.le_of_lt (compare_eq_lt_iff_utf8Bytes_lt.1 less)
  offered := by
    intro package
    have alone : [package].Pairwise fun first second => compare first second = .lt :=
      List.pairwise_singleton _ _
    rw [offers_eq_flatMap_keys, List.filter_flatMap,
      flatMap_eq_of_ascending ExtTreeMap.ordered_keys alone fun other contributes => ?_]
    · simp [filter_offersTo]
    · rw [filter_offersTo] at contributes
      split at contributes
      next same =>
        subst same
        simp [mem_of_offersTo_ne_nil contributes]
      next => exact absurd rfl contributes

/-! ## Offers that count -/

/-- The offers of an erratum that is not offered in front of them. -/
def leadingOffers (offered : List (String × String)) : List (String × String) :=
  (offered.zipIdx.filter fun entry =>
    entry.1.2 ∉ (offered.take entry.2).map Prod.snd).map Prod.fst

/-- The offers that the pass takes lead the walk, apart from errata seen before it.
Behind the first offer its erratum counts as one that was seen before. -/
theorem firstOffers_eq_filter (seen : ExtTreeSet String) (offered : List (String × String)) :
    firstOffers seen offered =
      (offered.zipIdx.filter fun entry =>
        entry.1.2 ∉ seen ∧ entry.1.2 ∉ (offered.take entry.2).map Prod.snd).map Prod.fst := by
  induction offered generalizing seen with
  | nil => rfl
  | cons offer rest ih =>
      obtain ⟨package, first⟩ := offer
      have behind : ∀ larger : ExtTreeSet String,
          (∀ erratum, erratum ∈ larger ↔ first = erratum ∨ erratum ∈ seen) →
          ((rest.zipIdx.map (Prod.map id (· + 1))).filter fun entry =>
            entry.1.2 ∉ seen ∧
              entry.1.2 ∉ (((package, first) :: rest).take entry.2).map Prod.snd).map Prod.fst =
            firstOffers larger rest := by
        intro larger contents
        rw [ih, List.filter_map, List.map_map]
        refine congrArg (List.map Prod.fst) (List.filter_congr fun entry _ => ?_)
        simp only [Function.comp_apply, Prod.map_fst, Prod.map_snd, id_eq, List.take_succ_cons,
          List.map_cons, List.mem_cons, contents, not_or, decide_eq_decide, eq_comm]
        tauto
      rw [List.zipIdx_cons', List.filter_cons]
      by_cases known : first ∈ seen
      · rw [if_neg (by simp [known]), behind seen fun erratum =>
          (or_iff_right_of_imp fun same => same ▸ known).symm, firstOffers, if_pos known]
      · rw [if_pos (by simp [known]), List.map_cons, behind (seen.insert first) fun erratum => by
          simp, firstOffers, if_neg known]

/-- **The offers that the pass takes are those that lead the walk.** -/
theorem firstOffers_eq_leadingOffers (offered : List (String × String)) :
    firstOffers ∅ offered = leadingOffers offered := by
  rw [firstOffers_eq_filter, leadingOffers]
  simp

/-! ## What is left behind -/

/-- The offers that lead the walk and fix the vulnerability, each as often as its
erratum names the vulnerability. -/
def UpdateList.credited (index : Index) (updates : UpdateList) (cve : String) :
    List (String × String) :=
  (leadingOffers (offers updates)).flatMap fun offer =>
    List.replicate ((index.erratumCves offer.2).count cve) offer

/-- What the updates say about one vulnerability: packages, each with one erratum. -/
theorem UpdateList.found_evidence (updates : UpdateList) :
    Evidence.found cve (updates.evidence index) =
      (updates.credited index cve).map fun offer => (offer.1, [offer.2]) := by
  rw [evidence, Evidence.found_flatMap, credited, List.map_flatMap, firstOffers_eq_leadingOffers]
  exact List.flatMap_congr fun offer _ => by rw [Evidence.found_map, List.map_replicate]

theorem getElem?_fixable_fixablePass :
    (fixablePass index updates buckets).fixable[cve]? =
      if cve ∈ buckets.unpatched then buckets.fixable[cve]?
      else Detail.continued cve buckets.fixable[cve]?
        ((updates.credited index cve).map fun offer => (offer.1, [offer.2])) := by
  rw [fixable_fixablePass, CveMap.getElem?_mergeAll_eq_continued,
    Evidence.found_filter (fun cve => !buckets.unpatched.contains cve), UpdateList.found_evidence]
  by_cases higher : cve ∈ buckets.unpatched
  · rw [if_neg (by simpa using higher), if_pos higher]
    rfl
  · rw [if_pos (CveMap.not_contains_iff.2 higher), if_neg higher]

/-- Without a detail to start from, as many packages are listed as errata. -/
theorem size_eq_size_of_continued {credited : List (String × String)} {detail : Detail}
    (opened : Detail.continued cve none (credited.map fun offer => (offer.1, [offer.2])) =
      some detail) :
    detail.affectedPackages.size = detail.errata.size := by
  have packages := @Detail.size_continued cve none (credited.map fun offer => (offer.1, [offer.2]))
  have errata :=
    @Detail.size_errata_continued cve none (credited.map fun offer => (offer.1, [offer.2]))
  have one : ((credited.map fun offer => (offer.1, [offer.2])).flatMap Prod.snd).length =
      credited.length := by simp [List.flatMap_map]
  rw [opened, List.length_map] at packages
  rw [opened, one] at errata
  exact packages.trans errata.symm

/-- **What the pass over updates leaves behind.** The walk visits the packages in the
order of their bytes. A fixable detail is continued by the offers that lead the
walk and fix the vulnerability, each with its package and its erratum, unless the
vulnerability is unpatched. Nothing else changes. If there was nothing at the
start, every fixable detail lists as many packages as errata. -/
theorem continued_fixablePass (index : Index) (updates : UpdateList) (start : Buckets) :
    updates.Walks (offers updates) ∧
    (∀ cve, (fixablePass index updates start).fixable[cve]? =
      if cve ∈ start.unpatched then start.fixable[cve]?
      else Detail.continued cve start.fixable[cve]?
        ((updates.credited index cve).map fun offer => (offer.1, [offer.2]))) ∧
    (fixablePass index updates start).unpatched = start.unpatched ∧
    (fixablePass index updates start).manuallyFixable = start.manuallyFixable ∧
    (fixablePass index updates start).lastChange = start.lastChange ∧
    ∀ (lastChange : Instant) (cve : String) (detail : Detail),
      (fixablePass index updates (Buckets.empty lastChange)).fixable[cve]? = some detail →
      detail.affectedPackages.size = detail.errata.size := by
  refine ⟨walks_offers updates, fun _ => getElem?_fixable_fixablePass, rfl, rfl, rfl, ?_⟩
  intro lastChange cve detail found
  have noneUnpatched : cve ∉ (Buckets.empty lastChange).unpatched := ExtTreeMap.not_mem_empty
  rw [getElem?_fixable_fixablePass, if_neg noneUnpatched] at found
  exact size_eq_size_of_continued found

/-- An index in which one erratum names a vulnerability twice. -/
def repeatingErrata : Index :=
  { Index.empty .epoch with
    erratumCves := fun erratum =>
      if erratum = "RHSA-1" then ["CVE-1", "CVE-2", "CVE-1"]
      else if erratum = "RHSA-2" then ["CVE-1"] else [] }

/-- The first erratum is offered to both packages, and one erratum is unknown. -/
def sharedUpdates : UpdateList :=
  (ExtTreeMap.insert ∅ "bash-5.1-1"
    [⟨"bash-5.1-2", "RHSA-1", none⟩, ⟨"bash-5.1-2", "RHSA-2", none⟩]).insert "acl-2.3-1"
      [⟨"acl-2.3-2", "RHSA-9", none⟩, ⟨"acl-2.3-2", "RHSA-1", none⟩]

/-- The shared erratum is credited to the package that comes first, twice. -/
theorem continued_fixablePass_sharedUpdates :
    (fixablePass repeatingErrata sharedUpdates (Buckets.empty .epoch)).fixable["CVE-1"]? =
      some ⟨"CVE-1", #["acl-2.3-1", "acl-2.3-1", "bash-5.1-1"], #["RHSA-1", "RHSA-1", "RHSA-2"]⟩ ∧
    (#["acl-2.3-1", "acl-2.3-1", "bash-5.1-1"] : Array String).size =
      (#["RHSA-1", "RHSA-1", "RHSA-2"] : Array String).size := by
  have continued := continued_fixablePass repeatingErrata sharedUpdates (Buckets.empty .epoch)
  have listed :
      (fixablePass repeatingErrata sharedUpdates (Buckets.empty .epoch)).fixable["CVE-1"]? =
        some ⟨"CVE-1", #["acl-2.3-1", "acl-2.3-1", "bash-5.1-1"],
          #["RHSA-1", "RHSA-1", "RHSA-2"]⟩ :=
    (continued.2.1 "CVE-1").trans (by rfl)
  exact ⟨listed, continued.2.2.2.2.2 _ _ _ listed⟩

end CveTriage
