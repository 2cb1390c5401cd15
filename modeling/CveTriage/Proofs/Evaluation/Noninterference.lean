import CveTriage.Proofs.Evaluation.Classification
import Mathlib.Data.List.Basic

/-!
# Definitions that are no candidates have no influence

Two indexes are compared that may say different things about definitions, as
long as they agree on the candidates of a host: on what they say about them
(`Index.definitionEntry`) and on which of them list a name. In everything else
the indexes are the same (`Index.AgreesOn`).

What an index says about a candidate is what it says about the definition of which
it finds the detail. If that is the candidate itself, it is enough to compare what
is said under the identifiers of the candidates (`Index.AgreesUnder`). Otherwise
it is not (`not_evaluate_eq_of_agreesUnder`).

An evaluation cannot tell the indexes apart (`evaluate_eq_of_agreesOn`). What lists a
name is filtered before anything is asked about it, so the same candidates are
mentioned and nothing but a candidate is ever looked up. The groups are named by
details that were found in this way, and the passes ask for what these
definitions are linked to. Criteria are the same for both indexes, whatever
definition has them. In particular a failure is always the failure of a
candidate.
-/

set_option autoImplicit false

namespace CveTriage

open Std (ExtTreeMap)

/-! ## Agreement -/

/-- The indexes differ at most in what they say about definitions. -/
def Index.SameElsewhere (index other : Index) : Prop :=
  other =
    { index with
      packageNameDefinitions := other.packageNameDefinitions
      definition := other.definition
      definitionCves := other.definitionCves
      definitionErrata := other.definitionErrata }

/-- What an index says about a definition: its detail, and the vulnerabilities and
errata that are linked to the definition of which this is the detail. -/
def Index.definitionEntry (index : Index) (id : DefinitionId) :
    Option (Definition × List String × List ErratumId) :=
  (index.definition id).map fun definition =>
    (definition, index.definitionCves definition.id, index.definitionErrata definition.id)

/-- The indexes agree on the candidates and on everything that is no definition. -/
structure Index.AgreesOn (candidates : Candidates) (index other : Index) : Prop where
  elsewhere : index.SameElsewhere other
  listed : ∀ nameId,
    (other.packageNameDefinitions nameId).filter candidates.contains =
      (index.packageNameDefinitions nameId).filter candidates.contains
  described : ∀ id, candidates.contains id = true →
    other.definitionEntry id = index.definitionEntry id

/-- The indexes say the same under the identifiers of the candidates, and agree on
everything that is no definition. -/
structure Index.AgreesUnder (candidates : Candidates) (index other : Index) : Prop where
  elsewhere : index.SameElsewhere other
  listed : ∀ nameId,
    (other.packageNameDefinitions nameId).filter candidates.contains =
      (index.packageNameDefinitions nameId).filter candidates.contains
  described : ∀ id, candidates.contains id = true →
    other.definition id = index.definition id ∧
      other.definitionCves id = index.definitionCves id ∧
      other.definitionErrata id = index.definitionErrata id

/-- The details of candidates carry the identifiers under which they are found. -/
def Index.KeyedOn (candidates : Candidates) (index : Index) : Prop :=
  ∀ id definition, candidates.contains id = true → index.definition id = some definition →
    definition.id = id

variable {index other : Index} {candidates : Candidates} {request : Request}
  {settings : EvaluationSettings} {updates : UpdateSource}

/-- When details carry the identifiers under which they are found, it does not
matter by which of the two the links are asked for. -/
theorem Index.AgreesUnder.agreesOn (agree : index.AgreesUnder candidates other)
    (keyed : index.KeyedOn candidates) : index.AgreesOn candidates other := by
  refine ⟨agree.elsewhere, agree.listed, fun id candidate => ?_⟩
  obtain ⟨definition, cves, errata⟩ := agree.described id candidate
  unfold definitionEntry
  rw [definition]
  cases found : index.definition id with
  | none => rfl
  | some detail =>
      obtain rfl := keyed id detail candidate found
      simp only [Option.map_some, cves, errata]

/-! ## Criteria and candidates -/

/-- What criteria make of a package depends on what tests and nested nodes make of it. -/
theorem Matcher.holdsWithin_congr (matcher changed : Matcher) {nameId : NameId} {nevra : Nevra}
    (criteria : ∀ id, changed.index.criteria id = matcher.index.criteria id)
    (moduleTests : ∀ id, changed.moduleTestHolds id = matcher.moduleTestHolds id)
    (tests : ∀ id, changed.testHolds nameId nevra id = matcher.testHolds nameId nevra id)
    (levels : Nat) (id : CriteriaId) :
    changed.holdsWithin nameId nevra levels id = matcher.holdsWithin nameId nevra levels id := by
  induction levels generalizing id with
  | zero => rfl
  | succ levels ih =>
      have children : changed.childHolds nameId nevra (changed.holdsWithin nameId nevra levels) =
          matcher.childHolds nameId nevra (matcher.holdsWithin nameId nevra levels) := by
        funext child
        cases child with
        | moduleTest id => exact moduleTests id
        | test id => exact tests id
        | node id => exact ih id
      unfold holdsWithin
      rw [criteria, children]

/-- The indexes answer alike whatever criteria ask. -/
structure Index.SameForCriteria (index other : Index) : Prop where
  criteria : other.criteria = index.criteria
  moduleTest : other.moduleTest = index.moduleTest
  test : other.test = index.test
  state : other.state = index.state
  architectureId : other.architectureId = index.architectureId

/-- Criteria hold alike over such indexes. -/
theorem Index.SameForCriteria.criteriaHold (same : index.SameForCriteria other)
    (inventory : Inventory) :
    (settings.matcher other inventory).criteriaHold =
      (settings.matcher index inventory).criteriaHold := by
  funext id nameId nevra
  refine Matcher.holdsWithin_congr (settings.matcher index inventory)
    (settings.matcher other inventory) (fun id => congrFun same.criteria id) (fun id => ?_)
    (fun id => ?_) (settings.maxDepth + 1) id
  · simp only [Matcher.moduleTestHolds, EvaluationSettings.matcher, same.moduleTest]
  · have tests : (settings.matcher other inventory).index.test =
        (settings.matcher index inventory).index.test := same.test
    have states : (settings.matcher other inventory).stateIdHolds =
        (settings.matcher index inventory).stateIdHolds := by
      funext nevra id
      simp only [Matcher.stateIdHolds, Matcher.stateHolds, Matcher.admits,
        EvaluationSettings.matcher, same.state, same.architectureId]
    unfold Matcher.testHolds
    rw [tests, states]

namespace Index.SameElsewhere

variable (same : index.SameElsewhere other)

include same

theorem candidates_eq : request.candidates other = request.candidates index := by
  rw [same]
  rfl

/-- No criteria ask for definitions. -/
theorem forCriteria : index.SameForCriteria other := by
  constructor <;> rw [same]

end Index.SameElsewhere

/-! ## Mentions and groups -/

namespace Index.AgreesOn

variable (agree : index.AgreesOn candidates other)

include agree

/-- Both indexes mention the same candidates. -/
theorem mentions (packages : ExtTreeMap String Nevra) :
    CveTriage.mentions other packages candidates =
      CveTriage.mentions index packages candidates := by
  refine mentions_congr (fun name => ?_) agree.listed
  rw [agree.elsewhere]

/-- Both indexes have the same details of candidates. -/
theorem definition {id : DefinitionId} (candidate : candidates.contains id = true) :
    other.definition id = index.definition id := by
  have described := congrArg (Option.map Prod.fst) (agree.described id candidate)
  simpa [definitionEntry, Option.map_map, Function.comp_def] using described

/-- Only candidates are looked up, so both indexes find the same or fail alike. -/
theorem detailedMentions (packages : ExtTreeMap String Nevra) :
    CveTriage.detailedMentions other (CveTriage.mentions index packages candidates) =
      CveTriage.detailedMentions index (CveTriage.mentions index packages candidates) := by
  refine mapM_congr fun mention mentioned => ?_
  have candidate := (mem_mentions_iff.1 mentioned).2.2
  unfold mentionedDefinition
  rw [agree.definition candidate]

/-- Both indexes link a candidate to the same vulnerabilities and errata. -/
theorem links {id : DefinitionId} {definition : Definition}
    (candidate : candidates.contains id = true) (found : index.definition id = some definition) :
    other.definitionCves definition.id = index.definitionCves definition.id ∧
      other.errataNames definition.id = index.errataNames definition.id := by
  have described := agree.described id candidate
  simp only [definitionEntry, agree.definition candidate, found, Option.map_some,
    Option.some.injEq, Prod.mk.injEq, true_and] at described
  have names : other.erratumName = index.erratumName := by rw [agree.elsewhere]
  refine ⟨described.1, ?_⟩
  unfold errataNames
  rw [described.2, names]

end Index.AgreesOn

/-- The indexes link the definition of a group to the same vulnerabilities and errata. -/
def DefinitionGroup.LinkedAlike (index other : Index) (group : DefinitionGroup) : Prop :=
  other.definitionCves group.definitionId = index.definitionCves group.definitionId ∧
    other.errataNames group.definitionId = index.errataNames group.definitionId

/-- Groups are groups of candidates. -/
theorem Index.AgreesOn.linkedAlike (agree : index.AgreesOn (request.candidates index) other)
    {details : List (TestedPackage × Definition)} (detailed : HostMentions index request details)
    {type : DefinitionType} {group : DefinitionGroup}
    (member : group ∈ (Groups.ofMentions type details).values) : group.LinkedAlike index other := by
  obtain ⟨_, formed⟩ := mem_values_iff.1 member
  obtain ⟨⟨package, definition⟩, mention, -, -, named, -⟩ :=
    exists_mention_of_getElem?_ofMentions formed
  obtain ⟨id, mentioned, found⟩ := (mem_detailedMentions_iff detailed).1 mention
  have candidate := (mem_mentions_iff.1 mentioned).2.2
  unfold DefinitionGroup.LinkedAlike
  rw [named]
  exact agree.links candidate (mentionedDefinition_eq_ok_iff.1 found).1

/-! ## Passes -/

section Passes

variable {judgement : Judgement} {groups : Groups} {buckets : Buckets}

theorem DefinitionGroup.LinkedAlike.evidence {group : DefinitionGroup}
    (alike : group.LinkedAlike index other) :
    group.evidence other judgement = group.evidence index judgement := by
  unfold DefinitionGroup.evidence
  rw [alike.1, alike.2]

theorem unpatchedPass_congr (alike : ∀ group ∈ groups.values, group.LinkedAlike index other) :
    unpatchedPass other judgement groups buckets =
      unpatchedPass index judgement groups buckets := by
  unfold unpatchedPass
  rw [List.foldl_ext _ _ _ fun unpatched group member => ?_]
  rw [(alike group member).evidence]

theorem manuallyFixablePass_congr
    (alike : ∀ group ∈ groups.values, group.LinkedAlike index other) :
    manuallyFixablePass other judgement groups buckets =
      manuallyFixablePass index judgement groups buckets := by
  refine List.foldl_ext _ _ _ fun buckets group member => ?_
  unfold manuallyFixableStep
  rw [(alike group member).evidence, (alike group member).1]

theorem classify_congr (elsewhere : index.SameElsewhere other) {inventory : Inventory}
    {grouping : Grouping}
    (vulnerabilities : ∀ group ∈ grouping.vulnerabilities.values, group.LinkedAlike index other)
    (patches : ∀ group ∈ grouping.patches.values, group.LinkedAlike index other) :
    classify other settings updates inventory grouping =
      classify index settings updates inventory grouping := by
  have fixable : fixablePass other = fixablePass index := by
    unfold fixablePass
    rw [elsewhere]
  have lastChange : other.lastChange = index.lastChange := by rw [elsewhere]
  simp only [classify]
  rw [elsewhere.forCriteria.criteriaHold, lastChange, unpatchedPass_congr vulnerabilities, fixable,
    manuallyFixablePass_congr patches]

end Passes

/-! ## Evaluations -/

theorem evaluate_congr_of_agreesOn (agree : index.AgreesOn (request.candidates index) other) :
    evaluate other settings updates request = evaluate index settings updates request := by
  have walked :
      detailedMentions other
          (mentions other request.inventory.packages (request.candidates other)) =
        detailedMentions index
          (mentions index request.inventory.packages (request.candidates index)) := by
    rw [agree.elsewhere.candidates_eq, agree.mentions, agree.detailedMentions]
  cases detailed : detailedMentions index
      (mentions index request.inventory.packages (request.candidates index)) with
  | error cause =>
      rw [evaluate_eq_error_iff.2 detailed]
      exact evaluate_eq_error_iff.2 (walked.trans detailed)
  | ok details =>
      rw [evaluate_eq_ok_iff.2 ⟨details, detailed, rfl⟩]
      refine evaluate_eq_ok_iff.2 ⟨details, walked.trans detailed, ?_⟩
      refine (classify_congr agree.elsewhere (fun group member => ?_)
        fun group member => agree.linkedAlike detailed member).symm
      cases wanted : settings.unfixed with
      | false => simp [wanted, mem_values_iff] at member
      | true =>
          rw [wanted] at member
          exact agree.linkedAlike detailed member

/-- **An evaluation fails with the failure of a candidate.** -/
theorem exists_candidate_of_evaluate_eq_error {cause : GroupingError}
    (failed : evaluate index settings updates request = .error (.grouping cause)) :
    ∃ id, (request.candidates index).contains id = true ∧ index.FailsFor id cause := by
  obtain ⟨⟨package, id⟩, mentioned, unanswered⟩ :=
    exists_of_mapM_eq_error (evaluate_eq_error_iff.1 failed)
  refine ⟨id, (mem_mentions_iff.1 mentioned).2.2, mentionedDefinition_eq_error_iff.1 ?_⟩
  cases looked : mentionedDefinition index id with
  | ok definition => simp [looked, Except.map] at unanswered
  | error cause => simpa [looked, Except.map] using unanswered

/-- **Definitions that are no candidates have no influence.** Two indexes give the same
buckets with all their evidence, or the same failure, if they agree on everything that is
no definition, list the same candidates under every name, and say the same about every
candidate. It is enough to compare what they say under the identifiers of the candidates,
if the details of candidates carry these identifiers. Otherwise the links are compared
under the identifiers that the details carry. A failure is that of a candidate. -/
theorem evaluate_eq_of_agreesOn :
    (∀ (index other : Index) (settings : EvaluationSettings) (updates : UpdateSource)
        (request : Request), index.KeyedOn (request.candidates index) →
      index.AgreesUnder (request.candidates index) other →
      evaluate other settings updates request = evaluate index settings updates request) ∧
    (∀ (index other : Index) (settings : EvaluationSettings) (updates : UpdateSource)
        (request : Request), index.AgreesOn (request.candidates index) other →
      evaluate other settings updates request = evaluate index settings updates request) ∧
    (∀ (index : Index) (settings : EvaluationSettings) (updates : UpdateSource)
        (request : Request) (cause : GroupingError),
      evaluate index settings updates request = .error (.grouping cause) →
        ∃ id, (request.candidates index).contains id = true ∧ index.FailsFor id cause) :=
  ⟨fun _ _ _ _ _ keyed agree => evaluate_congr_of_agreesOn (agree.agreesOn keyed),
    fun _ _ _ _ _ => evaluate_congr_of_agreesOn,
    fun _ _ _ _ _ => exists_candidate_of_evaluate_eq_error⟩

/-- The overlapping index with a third definition, which lists every name, comes
first, has a type without a meaning and is linked to every vulnerability. -/
def disturbedIndex : Index :=
  { overlappingIndex with
    packageNameDefinitions := fun id => ⟨3⟩ :: overlappingIndex.packageNameDefinitions id
    definition := fun id =>
      if id = ⟨3⟩ then some ⟨⟨3⟩, .unsupported 9, ⟨1⟩⟩ else overlappingIndex.definition id
    definitionCves := fun id =>
      if id = ⟨3⟩ then ["CVE-1", "CVE-2", "CVE-3"] else overlappingIndex.definitionCves id }

theorem keyedOn_overlappingIndex (candidates : Candidates) :
    overlappingIndex.KeyedOn candidates := by
  intro id definition _ found
  have built : Index.ofSnapshot overlappingFeed = .ok overlappingIndex := rfl
  exact keyed_of_ofSnapshot built id definition found

/-- The third definition is no candidate. -/
theorem contains_candidates_overlappingHost :
    (overlappingHost.candidates overlappingIndex).contains ⟨3⟩ = false := rfl

/-- What is said about the third definition is not said under a candidate. -/
theorem ne_of_contains_overlappingHost {id : DefinitionId}
    (candidate : (overlappingHost.candidates overlappingIndex).contains id = true) : id ≠ ⟨3⟩ := by
  rintro rfl
  rw [contains_candidates_overlappingHost] at candidate
  cases candidate

theorem agreesUnder_disturbedIndex :
    overlappingIndex.AgreesUnder (overlappingHost.candidates overlappingIndex)
      disturbedIndex where
  elsewhere := rfl
  listed nameId := List.filter_cons_of_neg (by simp [contains_candidates_overlappingHost])
  described id candidate := by
    simp [disturbedIndex, ne_of_contains_overlappingHost candidate]

/-- The third definition disturbs nothing, whereas a candidate that cannot be
found makes the evaluation fail. -/
theorem evaluate_eq_of_agreesOn_disturbedIndex :
    evaluate disturbedIndex .default overlappingUpdates overlappingHost = .ok overlappingBuckets ∧
    evaluate disturbedIndex ⟨false, 0⟩ overlappingUpdates overlappingHost =
      evaluate overlappingIndex ⟨false, 0⟩ overlappingUpdates overlappingHost ∧
    evaluate (disturbedIndex.withholding [⟨2⟩] []) .default overlappingUpdates overlappingHost =
      .error (.grouping (.missingDefinition ⟨2⟩)) ∧
    ∃ id, (overlappingHost.candidates (disturbedIndex.withholding [⟨2⟩] [])).contains id = true ∧
      (disturbedIndex.withholding [⟨2⟩] []).FailsFor id (.missingDefinition ⟨2⟩) := by
  have keyed := keyedOn_overlappingIndex (overlappingHost.candidates overlappingIndex)
  have evaluated : evaluate overlappingIndex .default overlappingUpdates overlappingHost =
      .ok overlappingBuckets := rfl
  have failed : evaluate (disturbedIndex.withholding [⟨2⟩] []) .default overlappingUpdates
      overlappingHost = .error (.grouping (.missingDefinition ⟨2⟩)) := rfl
  refine ⟨?_, ?_, failed, evaluate_eq_of_agreesOn.2.2 _ _ _ _ _ failed⟩
  · have agree := agreesUnder_disturbedIndex.agreesOn keyed
    exact (evaluate_eq_of_agreesOn.2.1 _ _ _ _ _ agree).trans evaluated
  · exact evaluate_eq_of_agreesOn.1 _ _ _ _ _ keyed agreesUnder_disturbedIndex

/-- The overlapping index, where the detail of the first definition is that of a third one,
which is linked to the given vulnerabilities. -/
def redirectedIndex (cves : List String) : Index :=
  { overlappingIndex with
    definition := fun id =>
      if id = ⟨1⟩ then some ⟨⟨3⟩, .vulnerability, ⟨1⟩⟩ else overlappingIndex.definition id
    definitionCves := fun id =>
      if id = ⟨3⟩ then cves else overlappingIndex.definitionCves id }

theorem agreesUnder_redirectedIndex (cves others : List String) :
    (redirectedIndex cves).AgreesUnder (overlappingHost.candidates (redirectedIndex cves))
      (redirectedIndex others) where
  elsewhere := rfl
  listed _ := rfl
  described id candidate := by
    simp [redirectedIndex, ne_of_contains_overlappingHost candidate]

/-- **Comparing under the identifiers of the candidates is not enough.** A candidate may be
found with the detail of a definition that is none. Then what this one is linked to decides
the outcome, and nothing that is said under a candidate tells. -/
theorem not_evaluate_eq_of_agreesUnder :
    (redirectedIndex ["CVE-4"]).AgreesUnder
      (overlappingHost.candidates (redirectedIndex ["CVE-4"])) (redirectedIndex ["CVE-5"]) ∧
    evaluate (redirectedIndex ["CVE-5"]) .default overlappingUpdates overlappingHost ≠
      evaluate (redirectedIndex ["CVE-4"]) .default overlappingUpdates overlappingHost ∧
    ¬∀ (index other : Index) (settings : EvaluationSettings) (updates : UpdateSource)
        (request : Request), index.AgreesUnder (request.candidates index) other →
      evaluate other settings updates request = evaluate index settings updates request := by
  have agree := agreesUnder_redirectedIndex ["CVE-4"] ["CVE-5"]
  have differ : evaluate (redirectedIndex ["CVE-5"]) .default overlappingUpdates overlappingHost ≠
      evaluate (redirectedIndex ["CVE-4"]) .default overlappingUpdates overlappingHost := by
    intro same
    have revealed : (Except.ok false : Except EvaluationError Bool) = .ok true :=
      congrArg (Except.map fun buckets : Buckets => buckets.unpatched.contains "CVE-4") same
    cases revealed
  exact ⟨agree, differ, fun claimed => differ (claimed _ _ _ _ _ agree)⟩

end CveTriage
