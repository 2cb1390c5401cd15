import CveTriage.Evaluation.Evaluate
import CveTriage.Proofs.Evaluation.Grouping
import CveTriage.Proofs.Renumbering.Index

/-!
# The stages of an evaluation under new numbers

Candidates, criteria, groups and passes, one after the other: each stage makes of a
renumbered feed what it makes of the original one, up to the new numbers.
-/

set_option autoImplicit false

namespace CveTriage

open Std (ExtTreeMap)

/-! ## Candidates of a renumbered feed

The way from labels to definitions sorts identifiers twice, the repositories or
content sets and the platforms. The order in which they come is lost again,
because the candidates are a set: under the new numbers a host has the same
candidates (`contains_candidates_renumbered`).
-/

section Candidates

variable {renumbering : Renumbering} {index renumbered : Index}
  (same : Index.Renumbered renumbering index renumbered) (request : Request)

include same

namespace Request

theorem matchingRepositories_renumbered (label : String) :
    request.matchingRepositories renumbered label =
      (request.matchingRepositories index label).map renumbering.apply := by
  unfold matchingRepositories
  split
  · have fits : (fun id => (renumbered.repository id).any request.fits) ∘ renumbering.apply =
        fun id => (index.repository id).any request.fits := by
      funext id
      simp only [Function.comp_apply, same.repository, Option.any_map]
      rfl
    rw [same.repositoryIds, List.filter_map, fits]
  · rfl

theorem repositoryPlatforms_renumbered (labels : List String) :
    renumbering.Covers (request.repositoryPlatforms index labels)
      (request.repositoryPlatforms renumbered labels) := by
  have repositories : labels.flatMap (request.matchingRepositories renumbered) =
      (labels.flatMap (request.matchingRepositories index)).map renumbering.apply := by
    rw [List.map_flatMap]
    exact congrArg (labels.flatMap ·) (funext (matchingRepositories_renumbered same request))
  unfold repositoryPlatforms
  rw [repositories]
  exact Renumbering.covers_map.ascending.flatMap same.repositoryPlatforms

theorem contentSetPlatforms_renumbered (labels : List String) :
    renumbering.Covers (contentSetPlatforms index labels)
      (contentSetPlatforms renumbered labels) := by
  have contentSets : labels.filterMap renumbered.contentSetId =
      (labels.filterMap index.contentSetId).map renumbering.apply := by
    rw [List.map_filterMap]
    exact congrArg (List.filterMap · labels) (funext same.contentSetId)
  unfold contentSetPlatforms
  rw [contentSets]
  exact Renumbering.covers_map.ascending.flatMap same.contentSetPlatforms

/-- Whether there are platforms of repositories does not depend on numbers. -/
theorem platforms_renumbered (labels : List String) :
    renumbering.Covers (request.platforms index labels) (request.platforms renumbered labels) := by
  have preferred := repositoryPlatforms_renumbered same request labels
  unfold platforms
  simp only [preferred.isEmpty_eq]
  split
  · exact contentSetPlatforms_renumbered same labels
  · exact preferred

/-- **A definition is a candidate under its new number when it was one before.** -/
theorem contains_candidates_renumbered (id : DefinitionId) :
    (request.candidates renumbered).contains (renumbering.apply id) =
      (request.candidates index).contains id := by
  unfold candidates
  cases request.repositories with
  | none => rfl
  | some labels =>
      have covers := (platforms_renumbered same request labels).ascending.flatMap
        same.platformDefinitions
      rw [Bool.eq_iff_iff]
      simp only [Candidates.ofList, Candidates.contains, Std.ExtTreeSet.contains_ofList,
        List.contains_iff_mem]
      exact covers.apply_mem_iff

end Request

end Candidates

/-! ## Criteria of a renumbered feed

Criteria are found by their numbers, and the numbers of names and architectures
are compared with each other; nothing else is done with a number. So every
question about a renumbered feed has the answer that it had before: about a
module test, about a test and its states, about a node given its children, and
by induction on the levels about what is nested in a node
(`criteriaHold_renumbered`).
-/

namespace Renumbering

variable {renumbering : Renumbering}

/-! ### Nodes and their children -/

/-- The child with its new number. -/
def child (renumbering : Renumbering) : Child → Child
  | .moduleTest id => .moduleTest (renumbering.apply id)
  | .test id => .test (renumbering.apply id)
  | .node id => .node (renumbering.apply id)

theorem askedChildren_criteria (node : Criteria) :
    (renumbering.criteria node).askedChildren = node.askedChildren.map renumbering.child := by
  simp only [Criteria.askedChildren, criteria, List.map_append, List.map_map]
  rfl

end Renumbering

namespace Matcher

variable {renumbering : Renumbering}

/-- A loop over changed children asks what the changed children do. -/
theorem enoughHold_map {holds : Child → Bool} {change : Child → Child} {everyMust : Bool}
    (required : Nat) (children : List Child) :
    enoughHold holds everyMust required (children.map change) =
      enoughHold (fun child => holds (change child)) everyMust required children := by
  induction children generalizing required with
  | nil => cases required <;> rfl
  | cons child rest ih =>
      cases required with
      | zero => rfl
      | succ missing => simp only [List.map_cons, enoughHold, ih]

theorem nodeHolds_criteria {holds : Child → Bool} (node : Criteria) :
    nodeHolds holds (renumbering.criteria node) =
      nodeHolds (fun child => holds (renumbering.child child)) node := by
  simp only [nodeHolds, renumbering.askedChildren_criteria, List.length_map, enoughHold_map]
  rfl

/-! ### The same questions, asked about new numbers -/

section Renumbered

variable {index renumbered : Index} (same : Index.Renumbered renumbering index renumbered)
  (modules : ExtTreeMap String String) (maxDepth : Nat) (nameId : NameId) (nevra : Nevra)

include same

theorem moduleTestHolds_renumbered (id : ModuleTestId) :
    (⟨renumbered, modules, maxDepth⟩ : Matcher).moduleTestHolds (renumbering.apply id) =
      (⟨index, modules, maxDepth⟩ : Matcher).moduleTestHolds id := by
  simp only [moduleTestHolds, same.moduleTest]

theorem admits_renumbered (architectures : List ArchitectureId) (arch : String) :
    (⟨renumbered, modules, maxDepth⟩ : Matcher).admits (architectures.map renumbering.apply) arch =
      (⟨index, modules, maxDepth⟩ : Matcher).admits architectures arch := by
  simp only [admits, same.architectureId, List.isEmpty_map, Option.any_map]
  cases index.architectureId arch <;> simp

/-- A state and its architectures have new numbers, its target is the same. -/
theorem stateHolds_renumbered (state : PackageState) :
    (⟨renumbered, modules, maxDepth⟩ : Matcher).stateHolds (renumbering.state state) nevra =
      (⟨index, modules, maxDepth⟩ : Matcher).stateHolds state nevra := by
  unfold stateHolds
  rw [← admits_renumbered same]
  rfl

theorem stateIdHolds_renumbered (id : StateId) :
    (⟨renumbered, modules, maxDepth⟩ : Matcher).stateIdHolds nevra (renumbering.apply id) =
      (⟨index, modules, maxDepth⟩ : Matcher).stateIdHolds nevra id := by
  unfold stateIdHolds
  simp only [same.state]
  cases index.state id with
  | none => rfl
  | some state => exact stateHolds_renumbered same modules maxDepth nevra state

theorem testHolds_renumbered (id : TestId) :
    (⟨renumbered, modules, maxDepth⟩ : Matcher).testHolds (renumbering.apply nameId) nevra
        (renumbering.apply id) =
      (⟨index, modules, maxDepth⟩ : Matcher).testHolds nameId nevra id := by
  unfold testHolds
  simp only [same.test]
  cases index.test id with
  | none => rfl
  | some test =>
      have states : (test.states.map renumbering.apply).any
            ((⟨renumbered, modules, maxDepth⟩ : Matcher).stateIdHolds nevra) =
          test.states.any ((⟨index, modules, maxDepth⟩ : Matcher).stateIdHolds nevra) := by
        rw [List.any_map]
        exact congrArg test.states.any
          (funext (stateIdHolds_renumbered same modules maxDepth nevra))
      cases policy : test.policy <;>
        simp [Renumbering.test, policy, states, bne]

/-- **What a node needs of its children it still needs of them.** -/
theorem holdsWithin_renumbered (levels : Nat) (id : CriteriaId) :
    (⟨renumbered, modules, maxDepth⟩ : Matcher).holdsWithin (renumbering.apply nameId) nevra levels
        (renumbering.apply id) =
      (⟨index, modules, maxDepth⟩ : Matcher).holdsWithin nameId nevra levels id := by
  induction levels generalizing id with
  | zero => rfl
  | succ levels ih =>
      have children : (fun child =>
            (⟨renumbered, modules, maxDepth⟩ : Matcher).childHolds (renumbering.apply nameId) nevra
              ((⟨renumbered, modules, maxDepth⟩ : Matcher).holdsWithin (renumbering.apply nameId)
                nevra levels) (renumbering.child child)) =
          (⟨index, modules, maxDepth⟩ : Matcher).childHolds nameId nevra
            ((⟨index, modules, maxDepth⟩ : Matcher).holdsWithin nameId nevra levels) := by
        funext child
        cases child with
        | moduleTest id => exact moduleTestHolds_renumbered same modules maxDepth id
        | test id => exact testHolds_renumbered same modules maxDepth nameId nevra id
        | node id => exact ih id
      unfold holdsWithin
      simp only [same.criteria]
      cases index.criteria id with
      | none => rfl
      | some node =>
          simp only [Option.map_some]
          rw [nodeHolds_criteria, children]

/-- **Criteria hold for a package under the new numbers exactly when they held
under the old ones.** -/
theorem criteriaHold_renumbered (id : CriteriaId) :
    (⟨renumbered, modules, maxDepth⟩ : Matcher).criteriaHold (renumbering.apply id)
        (renumbering.apply nameId) nevra =
      (⟨index, modules, maxDepth⟩ : Matcher).criteriaHold id nameId nevra :=
  holdsWithin_renumbered same modules maxDepth nameId nevra (maxDepth + 1) id

end Renumbered
end Matcher

/-! ## Grouping under new numbers

The packages of a host mention the same definitions as before
(`mem_mentions_renumbered`), and the detail of a definition is found or missing
as before, so grouping fails under the new numbers exactly when it failed under
the old ones (`exists_detailedMentions_renumbered_iff`). Which failure comes
first depends on the order of the mentions, and so does the order of the groups.

When the renumbering keeps the order of the definitions, the mentions come in the
same order (`mentions_renumbered`). Then the first failure is the same up to its
number, and the groups are the same up to their numbers
(`values_ofMentions_renumbered`).
-/

section Grouping

namespace Renumbering

variable (renumbering : Renumbering)

/-- The package with the new number of its name. -/
def package (package : TestedPackage) : TestedPackage :=
  { package with nameId := renumbering.apply package.nameId }

/-- The group with new numbers. -/
def group (group : DefinitionGroup) : DefinitionGroup where
  definitionId := renumbering.apply group.definitionId
  criteriaId := renumbering.apply group.criteriaId
  packages := group.packages.map renumbering.package

/-- The error with the new number of the definition. -/
def groupingError : GroupingError → GroupingError
  | .unsupportedType definition code => .unsupportedType (renumbering.apply definition) code
  | .missingDefinition definition => .missingDefinition (renumbering.apply definition)

end Renumbering

variable {renumbering : Renumbering} {index renumbered : Index}
  {packages : ExtTreeMap String Nevra} {candidates others : Candidates}

/-! ### Mentions in whatever order -/

section Renumbered

variable (same : Index.Renumbered renumbering index renumbered)

include same

theorem testedPackages_renumbered :
    testedPackages renumbered packages =
      (testedPackages index packages).map renumbering.package := by
  unfold testedPackages
  rw [List.map_filterMap]
  refine congrArg (List.filterMap · packages.toList) (funext fun entry => ?_)
  rw [same.packageNameId, Option.map_map, Option.map_map]
  rfl

/-- **The same definitions are mentioned by the same packages.** -/
theorem mem_mentions_renumbered
    (alike : ∀ id, others.contains (renumbering.apply id) = candidates.contains id)
    (mention : TestedPackage × DefinitionId) :
    mention ∈ mentions renumbered packages others ↔
      mention ∈ (mentions index packages candidates).map
        (Prod.map renumbering.package renumbering.apply) := by
  obtain ⟨package, id⟩ := mention
  rw [mem_mentions_iff, testedPackages_renumbered same, List.mem_map, List.mem_map]
  constructor
  · rintro ⟨⟨package, tested, rfl⟩, listed, candidate⟩
    obtain ⟨id, before, rfl⟩ := List.mem_map.1 ((same.packageNameDefinitions _ _).1 listed)
    rw [alike] at candidate
    exact ⟨(package, id), mem_mentions_iff.2 ⟨tested, before, candidate⟩, rfl⟩
  · rintro ⟨⟨package, id⟩, mentioned, moved⟩
    obtain ⟨rfl, rfl⟩ := Prod.mk.inj moved
    obtain ⟨tested, listed, candidate⟩ := mem_mentions_iff.1 mentioned
    refine ⟨⟨package, tested, rfl⟩, ?_, ?_⟩
    · exact (same.packageNameDefinitions _ _).2 (List.mem_map_of_mem listed)
    · rw [alike]
      exact candidate

/-- A definition is found or missing as before. -/
theorem mentionedDefinition_renumbered (id : DefinitionId) :
    mentionedDefinition renumbered (renumbering.apply id) =
      ((mentionedDefinition index id).map renumbering.definition).mapError
        renumbering.groupingError := by
  unfold mentionedDefinition
  rw [same.definition]
  cases index.definition id with
  | none => rfl
  | some definition =>
      cases type : definition.type <;>
        simp [Renumbering.definition, type, Except.map, Except.mapError,
          Renumbering.groupingError]

/-- **All mentions have a definition exactly when they had one before.** -/
theorem exists_detailedMentions_renumbered_iff
    (alike : ∀ id, others.contains (renumbering.apply id) = candidates.contains id) :
    (∃ details, detailedMentions renumbered (mentions renumbered packages others) =
        .ok details) ↔
      ∃ details, detailedMentions index (mentions index packages candidates) = .ok details := by
  simp only [exists_detailedMentions_eq_ok_iff, mem_mentions_renumbered same alike,
    List.forall_mem_map]
  refine forall_congr' fun mention => imp_congr_right fun _ => ?_
  rw [Prod.map_snd, mentionedDefinition_renumbered same]
  cases mentionedDefinition index mention.2 <;> simp [Except.map, Except.mapError]

/-- Details follow the mentions one by one, up to the first failure. -/
theorem detailedMentions_renumbered (mentions : List (TestedPackage × DefinitionId)) :
    detailedMentions renumbered
        (mentions.map (Prod.map renumbering.package renumbering.apply)) =
      ((detailedMentions index mentions).map
        (List.map (Prod.map renumbering.package renumbering.definition))).mapError
          renumbering.groupingError := by
  refine mapM_map_eq (fun mention => ?_) mentions
  rw [Prod.map_snd, mentionedDefinition_renumbered same]
  cases mentionedDefinition index mention.2 <;> rfl

end Renumbered

/-! ### Groups of mentions -/

theorem groupOf_map (mentions : List (TestedPackage × Definition)) :
    groupOf (mentions.map (Prod.map renumbering.package renumbering.definition)) =
      (groupOf mentions).map renumbering.group := by
  cases mentions with
  | nil => rfl
  | cons first rest =>
      simp only [List.map_cons, groupOf, Option.map_some, Renumbering.group, List.map_map]
      rfl

/-- The group of a definition is found under the new number of the definition. -/
theorem getElem?_ofMentions_map {type : DefinitionType}
    (mentions : List (TestedPackage × Definition)) (id : DefinitionId) :
    (Groups.ofMentions type
        (mentions.map (Prod.map renumbering.package renumbering.definition)))[
          renumbering.apply id]? =
      ((Groups.ofMentions type mentions)[id]?).map renumbering.group := by
  have same : (fun mention : TestedPackage × Definition =>
        decide (mention.2.type = type ∧ mention.2.id = renumbering.apply id)) ∘
          Prod.map renumbering.package renumbering.definition =
      fun mention => decide (mention.2.type = type ∧ mention.2.id = id) := by
    funext mention
    exact decide_eq_decide.2 (and_congr_right fun _ => Renumbering.apply_inj)
  rw [getElem?_ofMentions, getElem?_ofMentions, List.filter_map, same, groupOf_map]

/-- **Groups whose order is kept are the same groups up to their numbers.** -/
theorem values_ofMentions_map (type : DefinitionType)
    {mentions : List (TestedPackage × Definition)}
    (keepsOrder : ∀ first ∈ mentions, ∀ second ∈ mentions,
      compare first.2.id second.2.id = .lt →
        compare (renumbering.apply first.2.id) (renumbering.apply second.2.id) = .lt) :
    (Groups.ofMentions type
        (mentions.map (Prod.map renumbering.package renumbering.definition))).values =
      (Groups.ofMentions type mentions).values.map renumbering.group := by
  refine values_eq_map_values (getElem?_ofMentions_map mentions) ?_ ?_
  · intro id grouped
    obtain ⟨_, member, -, rfl⟩ := mem_ofMentions_iff.1 grouped
    obtain ⟨mention, -, rfl⟩ := List.mem_map.1 member
    exact ⟨mention.2.id, rfl⟩
  · intro first groupedFirst second groupedSecond less
    obtain ⟨firstMention, memberFirst, -, rfl⟩ := mem_ofMentions_iff.1 groupedFirst
    obtain ⟨secondMention, memberSecond, -, rfl⟩ := mem_ofMentions_iff.1 groupedSecond
    exact keepsOrder firstMention memberFirst secondMention memberSecond less

/-- **In an order that is kept, the same mentions come one after the other.** -/
theorem mentions_renumbered (same : Index.RenumberedInOrder renumbering index renumbered)
    (alike : ∀ id, others.contains (renumbering.apply id) = candidates.contains id) :
    mentions renumbered packages others =
      (mentions index packages candidates).map
        (Prod.map renumbering.package renumbering.apply) := by
  unfold mentions
  rw [testedPackages_renumbered same.toRenumbered, List.flatMap_map, List.map_flatMap]
  refine congrArg (List.flatMap · _) (funext fun package => ?_)
  have kept : others.contains ∘ renumbering.apply = candidates.contains := funext alike
  rw [Renumbering.package, same.packageNameDefinitions_eq, List.filter_map, kept, List.map_map,
    List.map_map]
  rfl

end Grouping

/-! ## Passes under new numbers

Evidence has no numbers. A group gives the same evidence as before
(`evidence_renumbered`), so passes over the same groups in the same order leave
the same buckets, with the same evidence in the same order
(`classify_renumbered`).
-/

section Passes

variable {renumbering : Renumbering} {index renumbered : Index}
  (same : Index.Renumbered renumbering index renumbered) {judgement other : Judgement}

/-- A judgement about new numbers that judges as before. -/
def Judgement.Renumbered (renumbering : Renumbering) (judgement other : Judgement) : Prop :=
  ∀ criteriaId nameId nevra,
    other (renumbering.apply criteriaId) (renumbering.apply nameId) nevra =
      judgement criteriaId nameId nevra

theorem hits_group (alike : judgement.Renumbered renumbering other) (group : DefinitionGroup) :
    (renumbering.group group).hits other = (group.hits judgement).map renumbering.package := by
  have judged : (fun package => other (renumbering.group group).criteriaId package.nameId
          package.nevra) ∘ renumbering.package =
      fun package : TestedPackage =>
        judgement group.criteriaId package.nameId package.nevra := by
    funext package
    exact alike group.criteriaId package.nameId package.nevra
  rw [DefinitionGroup.hits, Renumbering.group, List.filter_map]
  exact congrArg (fun judged => (group.packages.filter judged).map renumbering.package) judged

include same

theorem errataNames_renumbered (id : DefinitionId) :
    renumbered.errataNames (renumbering.apply id) = index.errataNames id := by
  unfold Index.errataNames
  rw [same.definitionErrata, List.filterMap_map]
  exact congrArg (List.filterMap · _) (funext same.erratumName)

/-- **A group gives the same evidence under its new numbers.** -/
theorem evidence_renumbered (alike : judgement.Renumbered renumbering other)
    (group : DefinitionGroup) :
    (renumbering.group group).evidence renumbered other = group.evidence index judgement := by
  unfold DefinitionGroup.evidence
  rw [hits_group alike, List.flatMap_map]
  simp only [Renumbering.group, same.definitionCves, errataNames_renumbered same]
  rfl

variable {groups otherGroups : Groups} {buckets : Buckets}

theorem unpatchedPass_renumbered (alike : judgement.Renumbered renumbering other)
    (listed : otherGroups.values = groups.values.map renumbering.group) :
    unpatchedPass renumbered other otherGroups buckets =
      unpatchedPass index judgement groups buckets := by
  unfold unpatchedPass
  rw [listed, List.foldl_map]
  simp only [evidence_renumbered same alike]

/-- The pass over updates knows errata by their names. -/
theorem fixablePass_renumbered {updates : UpdateList} :
    fixablePass renumbered updates buckets = fixablePass index updates buckets := by
  simp only [fixablePass, same.erratumCves]

theorem manuallyFixableStep_renumbered (alike : judgement.Renumbered renumbering other)
    (group : DefinitionGroup) :
    manuallyFixableStep renumbered other buckets (renumbering.group group) =
      manuallyFixableStep index judgement buckets group := by
  unfold manuallyFixableStep
  rw [evidence_renumbered same alike, Renumbering.group, same.definitionCves]

theorem manuallyFixablePass_renumbered (alike : judgement.Renumbered renumbering other)
    (listed : otherGroups.values = groups.values.map renumbering.group) :
    manuallyFixablePass renumbered other otherGroups buckets =
      manuallyFixablePass index judgement groups buckets := by
  unfold manuallyFixablePass
  rw [listed, List.foldl_map]
  simp only [manuallyFixableStep_renumbered same alike]

theorem renumbered_criteriaHold (settings : EvaluationSettings) (inventory : Inventory) :
    Judgement.Renumbered renumbering (settings.matcher index inventory).criteriaHold
      (settings.matcher renumbered inventory).criteriaHold := by
  intro criteriaId nameId nevra
  exact Matcher.criteriaHold_renumbered same inventory.modules settings.maxDepth nameId nevra
    criteriaId

/-- **Passes over the same groups in the same order leave the same buckets.** -/
theorem classify_renumbered {settings : EvaluationSettings} {updates : UpdateSource}
    {inventory : Inventory} {grouping regrouping : Grouping}
    (vulnerabilities : regrouping.vulnerabilities.values =
      grouping.vulnerabilities.values.map renumbering.group)
    (patches : regrouping.patches.values = grouping.patches.values.map renumbering.group) :
    classify renumbered settings updates inventory regrouping =
      classify index settings updates inventory grouping := by
  have judged := renumbered_criteriaHold same settings inventory
  simp only [classify]
  rw [unpatchedPass_renumbered same judged vulnerabilities, fixablePass_renumbered same,
    manuallyFixablePass_renumbered same judged patches, same.lastChange]

end Passes

end CveTriage
