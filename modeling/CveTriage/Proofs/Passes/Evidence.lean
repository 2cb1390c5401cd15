import CveTriage.Proofs.Passes.Placement

/-!
# Evidence

What evidence says about one vulnerability, and the map that evidence is merged into.
-/

set_option autoImplicit false

namespace CveTriage

open Std (ExtTreeMap)

/-! ## Evidence for one vulnerability

Evidence is merged piece by piece, and a piece concerns one vulnerability. So
what a bucket holds about a vulnerability afterwards is made of what it held
before and of the pieces about this vulnerability, in their order
(`getElem?_mergeAll`). Pieces about others do not show.

Hence it does not matter whether vulnerabilities are left out before their
evidence is merged or afterwards (`filter_mergeAll`).

All pieces about one vulnerability together come to a list of packages, each with
its errata (`Evidence.found`), that stands behind what the detail lists already
(`Detail.continued`, `CveMap.getElem?_mergeAll_eq_continued`).
-/

section Evidence

/-- The detail after more pieces of evidence. -/
def Detail.extendAll (detail : Option Detail) (evidence : List Evidence) : Option Detail :=
  evidence.foldl (fun detail piece => some (Detail.extend detail piece)) detail

/-- The pieces about the vulnerability, in their order. -/
def Evidence.about (cve : String) (evidence : List Evidence) : List Evidence :=
  evidence.filter fun piece => piece.cve = cve

variable {cve : String}

/-- Leaving out vulnerabilities leaves all pieces about the others. -/
theorem Evidence.about_filter (keep : String → Bool) (evidence : List Evidence) :
    about cve (evidence.filter fun piece => keep piece.cve) =
      if keep cve then about cve evidence else [] := by
  induction evidence with
  | nil => simp [about]
  | cons piece rest ih =>
      unfold about at ih ⊢
      by_cases same : piece.cve = cve
      · subst same
        cases kept : keep piece.cve <;> simpa [kept] using ih
      · cases kept : keep piece.cve <;> simp [kept, same, ih]

namespace CveMap

variable {cves : CveMap} {evidence : List Evidence}

theorem getElem?_merge {piece : Evidence} :
    (cves.merge piece)[cve]? =
      if piece.cve = cve then some (Detail.extend cves[cve]? piece) else cves[cve]? := by
  rw [merge, ExtTreeMap.getElem?_alter]
  by_cases same : piece.cve = cve <;> simp [same]

/-- **A bucket holds about a vulnerability what the pieces about it say.** -/
theorem getElem?_mergeAll :
    (cves.mergeAll evidence)[cve]? =
      Detail.extendAll cves[cve]? (Evidence.about cve evidence) := by
  unfold mergeAll Evidence.about
  induction evidence generalizing cves with
  | nil => rfl
  | cons piece rest ih =>
      rw [List.foldl_cons, ih, getElem?_merge]
      by_cases same : piece.cve = cve
      · rw [if_pos same, List.filter_cons_of_pos (by simpa using same)]
        rfl
      · rw [if_neg same, List.filter_cons_of_neg (by simpa using same)]

/-- Vulnerabilities can be left out before their evidence is merged or afterwards. -/
theorem filter_mergeAll (keep : String → Bool) (evidence : List Evidence) :
    mergeAll ∅ (evidence.filter fun piece => keep piece.cve) =
      (mergeAll ∅ evidence).filter fun cve _ => keep cve := by
  refine ExtTreeMap.ext_getElem? fun cve => ?_
  rw [ExtTreeMap.getElem?_filter', getElem?_mergeAll, getElem?_mergeAll, Evidence.about_filter,
    ExtTreeMap.getElem?_empty]
  cases keep cve with
  | true =>
      rw [if_pos rfl]
      cases Detail.extendAll none (Evidence.about cve evidence) <;> rfl
  | false => cases Detail.extendAll none (Evidence.about cve evidence) <;> rfl

end CveMap

/-! ### Everything found about one vulnerability -/

namespace Detail

/-- The detail with what was found behind what it lists: packages, each with its
errata. If there is no detail, the first package found opens one. -/
def continued (cve : String) (detail : Option Detail) (found : List (String × List String)) :
    Option Detail :=
  if found = [] then detail
  else
    let start := detail.getD ⟨cve, #[], #[]⟩
    some
      { start with
        affectedPackages := start.affectedPackages ++ (found.map Prod.fst).toArray
        errata := start.errata ++ (found.flatMap Prod.snd).toArray }

variable {detail : Option Detail} {found : List (String × List String)}

/-- The first piece found extends the detail or opens one. -/
theorem continued_cons (piece : Evidence) (about : piece.cve = cve) :
    continued cve detail ((piece.package, piece.errata) :: found) =
      continued cve (some (extend detail piece)) found := by
  subst about
  cases detail with
  | none => cases found <;> simp [continued, extend]
  | some known => cases found <;> simp [continued, extend, ← Array.toList_inj]

/-- **Pieces of evidence about one vulnerability continue its detail.** -/
theorem extendAll_eq_continued {evidence : List Evidence}
    (about : ∀ piece ∈ evidence, piece.cve = cve) :
    extendAll detail evidence =
      continued cve detail (evidence.map fun piece => (piece.package, piece.errata)) := by
  induction evidence generalizing detail with
  | nil => rfl
  | cons piece rest ih =>
      rw [List.forall_mem_cons] at about
      rw [List.map_cons, continued_cons piece about.1, ← ih about.2]
      rfl

/-- What was found in two rounds continues a detail like all of it at once. -/
theorem continued_append (more : List (String × List String)) :
    continued cve (continued cve detail found) more = continued cve detail (found ++ more) := by
  by_cases nothing : found = []
  · rw [nothing, List.nil_append]
    rfl
  by_cases nothingMore : more = []
  · rw [nothingMore, List.append_nil]
    rfl
  simp [continued, nothing, nothingMore]

/-- A detail grows by as many packages as were found. -/
theorem size_continued :
    ((continued cve detail found).map (·.affectedPackages.size)).getD 0 =
      (detail.map (·.affectedPackages.size)).getD 0 + found.length := by
  unfold continued
  split
  next nothing => simp [nothing]
  next => cases detail <;> simp

/-- A detail grows by the errata of all that was found. -/
theorem size_errata_continued :
    ((continued cve detail found).map (·.errata.size)).getD 0 =
      (detail.map (·.errata.size)).getD 0 + (found.flatMap Prod.snd).length := by
  unfold continued
  split
  next nothing => simp [nothing]
  next => cases detail <;> simp

end Detail

namespace Evidence

/-- What the pieces say about the vulnerability: packages, each with its errata. -/
def found (cve : String) (evidence : List Evidence) : List (String × List String) :=
  (about cve evidence).map fun piece => (piece.package, piece.errata)

theorem found_flatMap {α : Type} (sources : List α) (pieces : α → List Evidence) :
    found cve (sources.flatMap pieces) =
      sources.flatMap fun source => found cve (pieces source) := by
  simp only [found, about, List.filter_flatMap, List.map_flatMap]

theorem found_filter (keep : String → Bool) (evidence : List Evidence) :
    found cve (evidence.filter fun piece => keep piece.cve) =
      if keep cve then found cve evidence else [] := by
  rw [found, about_filter]
  split <;> rfl

/-- A list of vulnerabilities says as often what it says about one of them as it
names this one. -/
theorem found_map (cves : List String) (package : String) (errata : List String) :
    found cve (cves.map (⟨·, package, errata⟩)) =
      List.replicate (cves.count cve) (package, errata) := by
  have same : about cve (cves.map (⟨·, package, errata⟩)) =
      (cves.filter (· = cve)).map (⟨·, package, errata⟩) := List.filter_map
  rw [found, same, List.filter_eq, List.map_replicate, List.map_replicate]

end Evidence

/-- **A bucket holds about a vulnerability what it held, continued by what was found.** -/
theorem CveMap.getElem?_mergeAll_eq_continued {cves : CveMap} {evidence : List Evidence} :
    (cves.mergeAll evidence)[cve]? =
      Detail.continued cve cves[cve]? (Evidence.found cve evidence) := by
  rw [getElem?_mergeAll]
  refine Detail.extendAll_eq_continued fun piece member => ?_
  exact of_decide_eq_true (List.mem_filter.1 member).2

end Evidence

/-! ## Merging evidence

Pieces of evidence are merged into a bucket one after the other. For every
vulnerability only its own pieces count, and of them only their order: a detail is
continued by their packages and by their errata, and where there is no detail the first
piece opens one. `CveMap.Collects` says this without any merging, and there is exactly one
bucket of which it is true (`CveMap.collects_iff`).

So the order of pieces about different vulnerabilities does not matter
(`CveMap.mergeAll_congr`), and it does not matter either whether the pieces come in one
batch or in several (`CveMap.mergeAll_append`).
-/

section Merging

variable {start collected : CveMap} {pieces : List Evidence} {cve : String}

namespace Evidence

/-- The packages that the pieces name for the vulnerability, in their order. -/
def packagesAbout (cve : String) (pieces : List Evidence) : List String :=
  (about cve pieces).map (·.package)

/-- The errata of all pieces about the vulnerability, one list behind the other. -/
def errataAbout (cve : String) (pieces : List Evidence) : List String :=
  (about cve pieces).flatMap (·.errata)

theorem about_eq_nil_iff : about cve pieces = [] ↔ ¬∃ piece ∈ pieces, piece.cve = cve := by
  simp [about]

theorem map_fst_found : (found cve pieces).map Prod.fst = packagesAbout cve pieces := by
  simp [found, packagesAbout]

theorem flatMap_snd_found : (found cve pieces).flatMap Prod.snd = errataAbout cve pieces := by
  simp [found, errataAbout, List.flatMap_map]

end Evidence

namespace Detail

variable {found : List (String × List String)}

/-- A detail is continued even if nothing was found: then nothing stands behind it. -/
theorem continued_some (detail : Detail) :
    continued cve (some detail) found =
      some
        { detail with
          affectedPackages := detail.affectedPackages ++ (found.map Prod.fst).toArray
          errata := detail.errata ++ (found.flatMap Prod.snd).toArray } := by
  cases found <;> simp [continued]

theorem continued_none (nonempty : found ≠ []) :
    continued cve none found =
      some ⟨cve, (found.map Prod.fst).toArray, (found.flatMap Prod.snd).toArray⟩ := by
  simp [continued, nonempty]

end Detail

namespace CveMap

/-- The bucket holds what the start holds and what the pieces say. -/
structure Collects (start : CveMap) (pieces : List Evidence) (collected : CveMap) : Prop where
  /-- Known details are continued. -/
  continued : ∀ (cve : String) (detail : Detail), start[cve]? = some detail →
    collected[cve]? =
      some
        { detail with
          affectedPackages := detail.affectedPackages ++ (Evidence.packagesAbout cve pieces).toArray
          errata := detail.errata ++ (Evidence.errataAbout cve pieces).toArray }
  /-- The first piece about a vulnerability opens a detail of it. -/
  opened : ∀ cve : String, cve ∉ start → (∃ piece ∈ pieces, piece.cve = cve) →
    collected[cve]? =
      some ⟨cve, (Evidence.packagesAbout cve pieces).toArray,
        (Evidence.errataAbout cve pieces).toArray⟩
  /-- What no piece is about is as it was. -/
  untouched : ∀ cve : String, (¬∃ piece ∈ pieces, piece.cve = cve) → collected[cve]? = start[cve]?

/-- **Merging collects.** -/
theorem collects_mergeAll (start : CveMap) (pieces : List Evidence) :
    start.Collects pieces (start.mergeAll pieces) where
  continued cve detail known := by
    rw [getElem?_mergeAll_eq_continued, known, Detail.continued_some, Evidence.map_fst_found,
      Evidence.flatMap_snd_found]
  opened cve new touched := by
    have nonempty : Evidence.found cve pieces ≠ [] := fun nothing =>
      Evidence.about_eq_nil_iff.1 (List.map_eq_nil_iff.1 nothing) touched
    rw [getElem?_mergeAll_eq_continued, ExtTreeMap.getElem?_eq_none new,
      Detail.continued_none nonempty, Evidence.map_fst_found, Evidence.flatMap_snd_found]
  untouched cve untouched := by
    rw [getElem?_mergeAll, Evidence.about_eq_nil_iff.2 untouched]
    rfl

/-- **One bucket collects.** -/
theorem collects_iff : start.Collects pieces collected ↔ collected = start.mergeAll pieces := by
  constructor
  · intro collects
    have merged := collects_mergeAll start pieces
    refine ExtTreeMap.ext_getElem? fun cve => ?_
    by_cases touched : ∃ piece ∈ pieces, piece.cve = cve
    · by_cases known : cve ∈ start
      · have found := ExtTreeMap.getElem?_eq_some_getElem known
        rw [collects.continued cve _ found, merged.continued cve _ found]
      · rw [collects.opened cve known touched, merged.opened cve known touched]
    · rw [collects.untouched cve touched, merged.untouched cve touched]
  · rintro rfl
    exact collects_mergeAll start pieces

/-- Pieces are merged alike when they are the same for every vulnerability. -/
theorem mergeAll_congr {others : List Evidence}
    (same : ∀ cve, Evidence.about cve pieces = Evidence.about cve others) :
    start.mergeAll pieces = start.mergeAll others := by
  refine ExtTreeMap.ext_getElem? fun cve => ?_
  rw [getElem?_mergeAll, getElem?_mergeAll, same]

theorem mergeAll_append (more : List Evidence) :
    start.mergeAll (pieces ++ more) = (start.mergeAll pieces).mergeAll more :=
  List.foldl_append

/-- Pieces about different vulnerabilities may change places. -/
theorem merge_comm {piece other : Evidence} (different : piece.cve ≠ other.cve) :
    (start.merge piece).merge other = (start.merge other).merge piece := by
  have same : start.mergeAll [piece, other] = start.mergeAll [other, piece] := by
    refine mergeAll_congr fun cve => ?_
    by_cases about : piece.cve = cve
    · have otherwise : other.cve ≠ cve := about ▸ different.symm
      simp [Evidence.about, about, otherwise]
    · by_cases otherwise : other.cve = cve <;> simp [Evidence.about, about, otherwise]
  exact same

/-- **Merging evidence, seen from one vulnerability at a time.** Merging collects, and
nothing else does: details are continued by the packages and the errata of their pieces
in order, a vulnerability is new exactly when some piece is about it, and then has a
detail of its own name, and the others stay as they are. Pieces that are the same for
every vulnerability are merged to the same bucket, so pieces about different ones may
change places. Two batches one after the other are merged like one batch. -/
theorem mergeAll_collects (start : CveMap) (pieces : List Evidence) :
    (∀ collected, start.Collects pieces collected ↔ collected = start.mergeAll pieces) ∧
    (∀ cve, cve ∉ start →
      (cve ∈ start.mergeAll pieces ↔ ∃ piece ∈ pieces, piece.cve = cve)) ∧
    (∀ others, (∀ cve, Evidence.about cve pieces = Evidence.about cve others) →
      start.mergeAll pieces = start.mergeAll others) ∧
    (∀ piece other : Evidence, piece.cve ≠ other.cve →
      (start.merge piece).merge other = (start.merge other).merge piece) ∧
    ∀ more, start.mergeAll (pieces ++ more) = (start.mergeAll pieces).mergeAll more := by
  refine ⟨fun _ => collects_iff, fun cve new => ?_, fun _ => mergeAll_congr,
    fun _ _ => merge_comm, mergeAll_append⟩
  rw [mem_mergeAll_iff, or_iff_right new]

end CveMap

/-- A bucket with a detail whose first lists are not empty. -/
def openBucket : CveMap :=
  CveMap.merge ∅ ⟨"CVE-1", "ash-1-1", ["RHSA-0"]⟩

/-- Pieces about a known vulnerability and about a new one take turns. One has no errata,
one comes twice. -/
def alternatingPieces : List Evidence :=
  [⟨"CVE-2", "bash-5.1-1", ["RHSA-2", "RHSA-1"]⟩, ⟨"CVE-1", "bash-5.1-1", []⟩,
    ⟨"CVE-2", "acl-2.3-1", ["RHSA-1"]⟩, ⟨"CVE-1", "acl-2.3-1", ["RHSA-3"]⟩,
    ⟨"CVE-2", "acl-2.3-1", ["RHSA-1"]⟩]

/-- The same pieces, sorted by vulnerabilities. -/
def sortedPieces : List Evidence :=
  Evidence.about "CVE-1" alternatingPieces ++ Evidence.about "CVE-2" alternatingPieces

/-- The pieces come to the same bucket in either order, and in two batches. -/
theorem CveMap.mergeAll_collects_alternatingPieces :
    (openBucket.mergeAll alternatingPieces)["CVE-1"]? =
      some ⟨"CVE-1", #["ash-1-1", "bash-5.1-1", "acl-2.3-1"], #["RHSA-0", "RHSA-3"]⟩ ∧
    "CVE-2" ∉ openBucket ∧
    (openBucket.mergeAll alternatingPieces)["CVE-2"]? =
      some ⟨"CVE-2", #["bash-5.1-1", "acl-2.3-1", "acl-2.3-1"],
        #["RHSA-2", "RHSA-1", "RHSA-1", "RHSA-1"]⟩ ∧
    (openBucket.mergeAll alternatingPieces)["CVE-3"]? = none ∧
    openBucket.mergeAll alternatingPieces = openBucket.mergeAll sortedPieces ∧
    openBucket.mergeAll sortedPieces =
      (openBucket.mergeAll (Evidence.about "CVE-1" alternatingPieces)).mergeAll
        (Evidence.about "CVE-2" alternatingPieces) := by
  obtain ⟨collects, -, sameAbout, -, -⟩ := mergeAll_collects openBucket alternatingPieces
  have collected := (collects _).2 rfl
  have new : "CVE-2" ∉ openBucket := by decide
  have sorted (cve : String) :
      Evidence.about cve alternatingPieces = Evidence.about cve sortedPieces := by
    by_cases first : "CVE-1" = cve
    · subst first
      decide
    · by_cases second : "CVE-2" = cve
      · subst second
        decide
      · simp [Evidence.about, sortedPieces, alternatingPieces, first, second]
  exact ⟨collected.continued "CVE-1" ⟨"CVE-1", #["ash-1-1"], #["RHSA-0"]⟩ rfl, new,
    collected.opened "CVE-2" new (by decide), collected.untouched "CVE-3" (by decide),
    sameAbout sortedPieces sorted,
    (mergeAll_collects openBucket _).2.2.2.2 _⟩

end Merging

end CveTriage
