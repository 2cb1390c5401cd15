import CveTriage.Proofs.Evaluation.Grouping
import CveTriage.Proofs.Passes.Evidence

/-!
# The passes over definitions

What the two passes over definitions leave behind. Which definitions contribute to the pass
over patch definitions depends on the buckets; all contribute to the other one.
-/

set_option autoImplicit false

namespace CveTriage

open Std (ExtTreeMap)

/-! ## Which patch definitions contribute

The pass over patch definitions skips a definition all of whose vulnerabilities
have a place. Whether they have one is asked of buckets that the pass itself is
filling. Here the question is answered from the start of the pass: a definition
contributes when one of its vulnerabilities has no place at the start and no
definition in front that hits a package is linked to it
(`DefinitionGroup.Contributes`). Definitions that are skipped and definitions that
are not are alike in that what they reveal has a place afterwards
(`isClassified_manuallyFixableStep_iff`); this carries the induction.

So the pass merges the evidence of the definitions that contribute, in their order
(`foldl_manuallyFixableStep_eq`), and every detail that it leaves behind can be
written down (`continued_manuallyFixablePass`). A repetition of the pass finds
everything in its place and adds nothing (`manuallyFixablePass_idempotent`).
-/

section Contribution

variable {index : Index} {judgement : Judgement} {groups : Groups} {buckets : Buckets}
  {cve : String}

/-! ### Groups in the order of their definitions -/

/-- Every group is stored under the identifier of its definition. -/
def Groups.Keyed (groups : Groups) : Prop :=
  ∀ (id : DefinitionId) (group : DefinitionGroup), groups[id]? = some group →
    group.definitionId = id

theorem Groups.keyed_ofMentions (type : DefinitionType)
    (mentions : List (TestedPackage × Definition)) : (Groups.ofMentions type mentions).Keyed := by
  intro id group formed
  obtain ⟨mention, -, -, named, same, -⟩ := exists_mention_of_getElem?_ofMentions formed
  exact same.trans named

namespace DefinitionGroup

/-- The first definition has the smaller identifier. -/
def Precedes (first second : DefinitionGroup) : Prop :=
  first.definitionId.number < second.definitionId.number

/-- Identifiers can be compared. -/
instance (first second : DefinitionGroup) : Decidable (first.Precedes second) :=
  inferInstanceAs (Decidable (first.definitionId.number < second.definitionId.number))

theorem not_precedes_self (group : DefinitionGroup) : ¬group.Precedes group :=
  UInt32.lt_irrefl _

theorem Precedes.asymm {first second : DefinitionGroup} (before : first.Precedes second) :
    ¬second.Precedes first :=
  UInt32.lt_asymm before

end DefinitionGroup

/-- Keyed groups are listed in the order of their definitions. -/
theorem Groups.Keyed.pairwise_values (keyed : groups.Keyed) :
    groups.values.Pairwise DefinitionGroup.Precedes := by
  rw [values_eq_map_toList, List.pairwise_map]
  refine ExtTreeMap.ordered_keys_toList.imp_of_mem ?_
  intro first second memberFirst memberSecond less
  rw [DefinitionGroup.Precedes,
    keyed _ _ (ExtTreeMap.mem_toList_iff_getElem?_eq_some.1 memberFirst),
    keyed _ _ (ExtTreeMap.mem_toList_iff_getElem?_eq_some.1 memberSecond)]
  exact Id.compare_eq_lt_iff.1 less

/-! ### One definition -/

/-- A definition reveals what is linked to it when it hits a package. -/
theorem DefinitionGroup.reveals_iff {group : DefinitionGroup} :
    group.Reveals index judgement cve ↔
      group.hits judgement ≠ [] ∧ cve ∈ index.definitionCves group.definitionId := by
  simp [Reveals, hits]

/-- What a definition reveals has a place afterwards, whether it is skipped or not. -/
theorem isClassified_manuallyFixableStep_iff {group : DefinitionGroup} :
    (manuallyFixableStep index judgement buckets group).isClassified cve = true ↔
      buckets.isClassified cve = true ∨ group.Reveals index judgement cve := by
  simp only [Buckets.isClassified, Bool.or_eq_true, ExtTreeMap.contains_iff_mem,
    unpatched_manuallyFixableStep, fixable_manuallyFixableStep, mem_manuallyFixableStep_iff]
  tauto

namespace DefinitionGroup

/-- A vulnerability of the definition has no place at the start, and no definition in
front that hits a package is linked to it. -/
def Contributes (index : Index) (judgement : Judgement) (groups : List DefinitionGroup)
    (start : Buckets) (group : DefinitionGroup) : Prop :=
  ∃ cve ∈ index.definitionCves group.definitionId,
    start.isClassified cve = false ∧
      ∀ earlier ∈ groups, earlier.Precedes group → earlier.hits judgement ≠ [] →
        cve ∉ index.definitionCves earlier.definitionId

/-- The definitions in front and their vulnerabilities can be searched. -/
instance (groups : List DefinitionGroup) (start : Buckets) (group : DefinitionGroup) :
    Decidable (group.Contributes index judgement groups start) :=
  inferInstanceAs (Decidable (∃ cve ∈ index.definitionCves group.definitionId, _ ∧ ∀ _ ∈ _, _))

variable {group : DefinitionGroup} {rest : List DefinitionGroup}

/-- The first definition contributes unless it is skipped. -/
theorem contributes_head_iff (ahead : ∀ other ∈ rest, group.Precedes other) :
    group.Contributes index judgement (group :: rest) buckets ↔
      ¬(index.definitionCves group.definitionId).all buckets.isClassified = true := by
  have noneBefore : ∀ earlier ∈ group :: rest, ¬earlier.Precedes group :=
    List.forall_mem_cons.2 ⟨group.not_precedes_self, fun other member => (ahead other member).asymm⟩
  rw [List.all_eq_true, Classical.not_forall]
  simp only [Contributes, Classical.not_imp, Bool.not_eq_true]
  refine exists_congr fun cve => and_congr_right fun _ => and_iff_left ?_
  intro earlier member before
  exact absurd before (noneBefore earlier member)

/-- Seen from behind the first definition, the same later ones contribute. -/
theorem contributes_cons_iff {first : DefinitionGroup} (before : first.Precedes group) :
    group.Contributes index judgement (first :: rest) buckets ↔
      group.Contributes index judgement rest
        (manuallyFixableStep index judgement buckets first) := by
  simp only [Contributes, ← Bool.not_eq_true, isClassified_manuallyFixableStep_iff, reveals_iff,
    List.forall_mem_cons, before, true_imp_iff, not_or, not_and, and_assoc]

/-- What the hits of the definition reveal and no higher bucket holds. -/
def openEvidence (index : Index) (judgement : Judgement) (buckets : Buckets)
    (group : DefinitionGroup) : List Evidence :=
  (group.evidence index judgement).filter fun piece =>
    !buckets.unpatched.contains piece.cve && !buckets.fixable.contains piece.cve

/-- What the hits of the definition say about one vulnerability: each package as often
as the vulnerability is linked to the definition, with the errata of the definition. -/
def findings (index : Index) (judgement : Judgement) (cve : String) (group : DefinitionGroup) :
    List (String × List String) :=
  (group.hits judgement).flatMap fun package =>
    List.replicate ((index.definitionCves group.definitionId).count cve)
      (package.package, index.errataNames group.definitionId)

theorem found_evidence (group : DefinitionGroup) :
    Evidence.found cve (group.evidence index judgement) = group.findings index judgement cve := by
  rw [evidence, Evidence.found_flatMap, findings]
  exact List.flatMap_congr fun _ _ => Evidence.found_map _ _ _

/-- Nothing is found about what a higher bucket holds. -/
theorem found_openEvidence (group : DefinitionGroup) :
    Evidence.found cve (group.openEvidence index judgement buckets) =
      if cve ∈ buckets.unpatched ∨ cve ∈ buckets.fixable then []
      else group.findings index judgement cve := by
  refine (Evidence.found_filter (fun cve => !buckets.unpatched.contains cve &&
    !buckets.fixable.contains cve) _).trans ?_
  simp only [Bool.and_eq_true, CveMap.not_contains_iff, ← not_or, found_evidence, ite_not]

end DefinitionGroup

/-! ### The pass as one merge -/

/-- **The pass merges the evidence of the definitions that contribute.** It leaves the
higher buckets alone, so the evidence of later definitions is asked of the same ones. -/
theorem foldl_manuallyFixableStep_eq {groups : List DefinitionGroup}
    (ordered : groups.Pairwise DefinitionGroup.Precedes) (start : Buckets) :
    groups.foldl (manuallyFixableStep index judgement) start =
      { start with
        manuallyFixable := start.manuallyFixable.mergeAll
          ((groups.filter (·.Contributes index judgement groups start)).flatMap
            (·.openEvidence index judgement start)) } := by
  induction groups generalizing start with
  | nil => rfl
  | cons group rest ih =>
      obtain ⟨ahead, ordered⟩ := List.pairwise_cons.1 ordered
      have others : rest.filter (·.Contributes index judgement (group :: rest) start) =
          rest.filter (·.Contributes index judgement rest
            (manuallyFixableStep index judgement start group)) :=
        List.filter_congr fun other member =>
          decide_eq_decide.2 (DefinitionGroup.contributes_cons_iff (ahead other member))
      have first := @DefinitionGroup.contributes_head_iff index judgement start group rest ahead
      rw [List.foldl_cons, ih ordered, List.filter_cons, others]
      by_cases skipped : (index.definitionCves group.definitionId).all start.isClassified = true
      · have stepped : manuallyFixableStep index judgement start group = start := if_pos skipped
        rw [stepped, if_neg (by simpa [first] using skipped)]
      · have stepped : manuallyFixableStep index judgement start group =
            { start with
              manuallyFixable :=
                start.manuallyFixable.mergeAll (group.openEvidence index judgement start) } :=
          if_neg skipped
        rw [if_pos (by simpa [first] using skipped), List.flatMap_cons, stepped]
        simp only [CveMap.mergeAll, List.foldl_append]
        rfl

/-- The groups that contribute to the pass, in the order of their definitions. -/
def contributors (index : Index) (judgement : Judgement) (groups : Groups) (start : Buckets) :
    List DefinitionGroup :=
  groups.values.filter (·.Contributes index judgement groups.values start)

theorem getElem?_manuallyFixablePass (keyed : groups.Keyed) (start : Buckets) (cve : String) :
    (manuallyFixablePass index judgement groups start).manuallyFixable[cve]? =
      Detail.continued cve start.manuallyFixable[cve]?
        ((contributors index judgement groups start).flatMap fun group =>
          Evidence.found cve (group.openEvidence index judgement start)) := by
  rw [manuallyFixablePass, foldl_manuallyFixableStep_eq keyed.pairwise_values,
    CveMap.getElem?_mergeAll_eq_continued, Evidence.found_flatMap]
  rfl

/-- **What the pass over patch definitions leaves behind.** A detail in the lowest
bucket is continued by what the contributing definitions find about the
vulnerability, unless a higher bucket holds it. Nothing else changes. -/
theorem continued_manuallyFixablePass (keyed : groups.Keyed) (start : Buckets) :
    (∀ cve, cve ∉ start.unpatched → cve ∉ start.fixable →
      (manuallyFixablePass index judgement groups start).manuallyFixable[cve]? =
        Detail.continued cve start.manuallyFixable[cve]?
          ((contributors index judgement groups start).flatMap
            (·.findings index judgement cve))) ∧
    (∀ cve, cve ∈ start.unpatched ∨ cve ∈ start.fixable →
      (manuallyFixablePass index judgement groups start).manuallyFixable[cve]? =
        start.manuallyFixable[cve]?) ∧
    (manuallyFixablePass index judgement groups start).unpatched = start.unpatched ∧
    (manuallyFixablePass index judgement groups start).fixable = start.fixable ∧
    (manuallyFixablePass index judgement groups start).lastChange = start.lastChange := by
  refine ⟨?_, ?_, unpatched_manuallyFixablePass, fixable_manuallyFixablePass,
    lastChange_manuallyFixablePass⟩
  · intro cve notUnpatched notFixable
    rw [getElem?_manuallyFixablePass keyed]
    simp only [DefinitionGroup.found_openEvidence, notUnpatched, notFixable, or_self, if_false]
  · intro cve higher
    rw [getElem?_manuallyFixablePass keyed]
    simp [DefinitionGroup.found_openEvidence, higher, Detail.continued]

/-- A feed in which three patch definitions are linked to the first vulnerability,
the last of them also to a second one. -/
def repeatedFeed : Snapshot :=
  { Snapshot.empty .epoch with
    packageNames := [⟨⟨1⟩, "bash"⟩]
    contentSets := [⟨⟨1⟩, "base", [⟨1⟩]⟩]
    platforms := [⟨⟨1⟩, "linux", [⟨1⟩, ⟨2⟩, ⟨3⟩]⟩]
    definitions :=
      [⟨⟨⟨1⟩, .patch, ⟨1⟩⟩, ["CVE-1"], [⟨1⟩], [⟨1⟩]⟩,
        ⟨⟨⟨2⟩, .patch, ⟨1⟩⟩, ["CVE-1"], [⟨2⟩], [⟨1⟩]⟩,
        ⟨⟨⟨3⟩, .patch, ⟨1⟩⟩, ["CVE-2", "CVE-1"], [⟨3⟩], [⟨1⟩]⟩]
    criteria := [⟨⟨1⟩, .all, [], [], []⟩]
    errata := [⟨⟨1⟩, "RHSA-1", ["CVE-1"]⟩, ⟨⟨2⟩, "RHSA-2", ["CVE-1"]⟩,
      ⟨⟨3⟩, "RHSA-3", ["CVE-1", "CVE-2"]⟩] }

/-- The index of that feed. -/
def repeatedIndex : Index :=
  (Tables.ofSnapshot repeatedFeed []).index

/-- A host with the package that all three definitions ask for. -/
def repeatedHost : Request :=
  ⟨["bash-5.1-1.x86_64"], some ["base"], none, none, []⟩

/-- What the criteria of that feed make of packages. -/
def repeatedJudgement : Judgement :=
  (EvaluationSettings.default.matcher repeatedIndex repeatedHost.inventory).criteriaHold

/-- The groups of the three definitions. -/
def repeatedGroups : Groups :=
  .ofMentions .patch (repeatedFeed.definitions.map fun record =>
    (⟨"bash-5.1-1.x86_64", ⟨1⟩, ⟨"bash", 0, "5.1", "1", "x86_64"⟩⟩, record.definition))

/-- All three definitions hit the package; the second one is skipped. -/
theorem continued_manuallyFixablePass_repeatedGroups :
    repeatedGroups.Keyed ∧
      (manuallyFixablePass repeatedIndex repeatedJudgement repeatedGroups
        (Buckets.empty .epoch)).manuallyFixable["CVE-1"]? =
          some ⟨"CVE-1", #["bash-5.1-1.x86_64", "bash-5.1-1.x86_64"], #["RHSA-1", "RHSA-3"]⟩ := by
  have keyed : repeatedGroups.Keyed := Groups.keyed_ofMentions _ _
  have continued := (@continued_manuallyFixablePass repeatedIndex repeatedJudgement _ keyed
    (Buckets.empty .epoch)).1 "CVE-1" ExtTreeMap.not_mem_empty ExtTreeMap.not_mem_empty
  exact ⟨keyed, continued.trans (by rfl)⟩

/-! ### Passing again -/

/-- A definition adds nothing when everything that it reveals has a place. -/
theorem manuallyFixableStep_eq_self {group : DefinitionGroup}
    (placed : ∀ cve, group.Reveals index judgement cve → buckets.isClassified cve = true) :
    manuallyFixableStep index judgement buckets group = buckets := by
  by_cases hits : group.hits judgement = []
  · unfold manuallyFixableStep DefinitionGroup.evidence
    rw [hits]
    exact ite_self _
  · refine if_pos (List.all_eq_true.2 fun cve linked => ?_)
    exact placed cve (DefinitionGroup.reveals_iff.2 ⟨hits, linked⟩)

theorem foldl_manuallyFixableStep_eq_self {groups : List DefinitionGroup}
    (placed : ∀ group ∈ groups, ∀ cve, group.Reveals index judgement cve →
      buckets.isClassified cve = true) :
    groups.foldl (manuallyFixableStep index judgement) buckets = buckets := by
  induction groups with
  | nil => rfl
  | cons group rest ih =>
      rw [List.forall_mem_cons] at placed
      rw [List.foldl_cons, manuallyFixableStep_eq_self placed.1, ih placed.2]

/-- After the pass everything that its definitions reveal has a place. -/
theorem isClassified_foldl_manuallyFixableStep_iff {groups : List DefinitionGroup} :
    (groups.foldl (manuallyFixableStep index judgement) buckets).isClassified cve = true ↔
      buckets.isClassified cve = true ∨ ∃ group ∈ groups, group.Reveals index judgement cve := by
  induction groups generalizing buckets with
  | nil => simp
  | cons group rest ih =>
      rw [List.foldl_cons, ih, isClassified_manuallyFixableStep_iff, or_assoc]
      simp

/-- **A pass over patch definitions that is repeated changes nothing.** -/
theorem manuallyFixablePass_idempotent :
    manuallyFixablePass index judgement groups
        (manuallyFixablePass index judgement groups buckets) =
      manuallyFixablePass index judgement groups buckets := by
  refine foldl_manuallyFixableStep_eq_self fun group member cve reveals => ?_
  exact isClassified_foldl_manuallyFixableStep_iff.2 (Or.inr ⟨group, member, reveals⟩)

end Contribution

/-! ## What the pass over vulnerability definitions leaves behind

The pass leaves no definition out and asks no bucket. A definition whose criteria
hold for a package adds a piece of evidence for everything that is linked to it,
before the next package is looked at, so pieces about different vulnerabilities
take turns. Seen from one vulnerability nothing of this shows: its detail is
continued by what each definition finds about it (`getElem?_mergeAll_evidence`),
definition by definition (`getElem?_foldl_mergeAll_evidence`).

So every detail that the pass leaves behind can be written down
(`continued_unpatchedPass`). In contrast to the pass over patch definitions, what was
there at the start does not matter to what is added.
-/

section Accumulation

variable {index : Index} {judgement : Judgement} {groups : Groups} {cve : String}

/-! ### The walk through the definitions -/

/-- The list has every group once, and groups of smaller identifiers come first. -/
structure Groups.Lists (groups : Groups) (listed : List DefinitionGroup) : Prop where
  ascending : listed.Pairwise DefinitionGroup.Precedes
  complete : ∀ group, group ∈ listed ↔ groups[group.definitionId]? = some group

theorem Groups.Keyed.lists_values (keyed : groups.Keyed) : groups.Lists groups.values where
  ascending := keyed.pairwise_values
  complete := by
    intro group
    rw [mem_values_iff]
    constructor
    · rintro ⟨id, stored⟩
      rwa [keyed id group stored]
    · intro stored
      exact ⟨group.definitionId, stored⟩

/-- **One definition** continues a detail by what it finds about the vulnerability. -/
theorem getElem?_mergeAll_evidence (group : DefinitionGroup) (cves : CveMap) :
    (cves.mergeAll (group.evidence index judgement))[cve]? =
      Detail.continued cve cves[cve]? (group.findings index judgement cve) := by
  rw [CveMap.getElem?_mergeAll_eq_continued, group.found_evidence]

/-- **Definitions in a row** continue a detail by what they find, one after the other. -/
theorem getElem?_foldl_mergeAll_evidence (listed : List DefinitionGroup) (cves : CveMap) :
    (listed.foldl (fun cves group => cves.mergeAll (group.evidence index judgement)) cves)[cve]? =
      Detail.continued cve cves[cve]? (listed.flatMap (·.findings index judgement cve)) := by
  induction listed generalizing cves with
  | nil => rfl
  | cons group rest ih =>
      rw [List.foldl_cons, ih, getElem?_mergeAll_evidence, Detail.continued_append,
        List.flatMap_cons]

/-! ### The whole pass -/

/-- **What the pass over vulnerability definitions leaves behind.** The definitions are
taken in the order of their identifiers. An unpatched detail is continued by what each
of them finds about the vulnerability: every package that it hits, in order and as often
as the vulnerability is linked to the definition, with the errata of the definition that
have a name. Nothing else changes. -/
theorem continued_unpatchedPass (keyed : groups.Keyed) (start : Buckets) :
    groups.Lists groups.values ∧
    (∀ cve, (unpatchedPass index judgement groups start).unpatched[cve]? =
      Detail.continued cve start.unpatched[cve]?
        (groups.values.flatMap (·.findings index judgement cve))) ∧
    (unpatchedPass index judgement groups start).fixable = start.fixable ∧
    (unpatchedPass index judgement groups start).manuallyFixable = start.manuallyFixable ∧
    (unpatchedPass index judgement groups start).lastChange = start.lastChange :=
  ⟨keyed.lists_values, fun _ => getElem?_foldl_mergeAll_evidence _ _, rfl, rfl, rfl⟩

/-- Two definitions share a vulnerability, which one of them lists twice. One of the errata
of this definition has no name. -/
def sharingIndex : Index :=
  { Index.empty .epoch with
    definitionCves := fun id => if id = ⟨3⟩ then ["CVE-1", "CVE-2", "CVE-1"] else ["CVE-1"]
    definitionErrata := fun id => if id = ⟨3⟩ then [⟨1⟩, ⟨9⟩] else [⟨2⟩]
    erratumName := fun id =>
      if id = ⟨1⟩ then some "RHSA-1" else if id = ⟨2⟩ then some "RHSA-2" else none }

/-- The package of the definition with the larger identifier is mentioned first. -/
def sharingGroups : Groups :=
  let acl : TestedPackage := ⟨"acl-2.3-1", ⟨1⟩, ⟨"acl", 0, "2.3", "1", ""⟩⟩
  let bash : TestedPackage := ⟨"bash-5.1-1", ⟨2⟩, ⟨"bash", 0, "5.1", "1", ""⟩⟩
  let zsh : TestedPackage := ⟨"zsh-5.9-1", ⟨3⟩, ⟨"zsh", 0, "5.9", "1", ""⟩⟩
  .ofMentions .vulnerability
    [(acl, ⟨⟨7⟩, .vulnerability, ⟨1⟩⟩), (acl, ⟨⟨3⟩, .vulnerability, ⟨1⟩⟩),
      (bash, ⟨⟨3⟩, .vulnerability, ⟨1⟩⟩), (zsh, ⟨⟨3⟩, .vulnerability, ⟨1⟩⟩)]

/-- Buckets with a detail of the shared vulnerability. -/
def openedBuckets : Buckets :=
  { Buckets.empty .epoch with unpatched := CveMap.merge ∅ ⟨"CVE-1", "ash-1-1", ["RHSA-0"]⟩ }

/-- The criteria hold for all packages but one. What was there stays in front, and the
definition with the smaller identifier comes first. -/
theorem continued_unpatchedPass_sharingGroups :
    let judgement : Judgement := fun _ _ nevra => nevra.name ≠ "bash"
    let buckets := unpatchedPass sharingIndex judgement sharingGroups openedBuckets
    sharingGroups.Keyed ∧
      buckets.unpatched["CVE-1"]? =
        some ⟨"CVE-1",
          #["ash-1-1", "acl-2.3-1", "acl-2.3-1", "zsh-5.9-1", "zsh-5.9-1", "acl-2.3-1"],
          #["RHSA-0", "RHSA-1", "RHSA-1", "RHSA-1", "RHSA-1", "RHSA-2"]⟩ ∧
      buckets.unpatched["CVE-2"]? =
        some ⟨"CVE-2", #["acl-2.3-1", "zsh-5.9-1"], #["RHSA-1", "RHSA-1"]⟩ := by
  intro judgement buckets
  have keyed : sharingGroups.Keyed := Groups.keyed_ofMentions _ _
  have continued := (@continued_unpatchedPass sharingIndex judgement _ keyed openedBuckets).2.1
  exact ⟨keyed, (continued "CVE-1").trans (by rfl), (continued "CVE-2").trans (by rfl)⟩

end Accumulation

end CveTriage
