import CveTriage.Proofs.Evaluation.Monotone
import CveTriage.Proofs.Evaluation.Noninterference
import CveTriage.Proofs.Evaluation.Resolution
import CveTriage.Proofs.Index.Records
import CveTriage.Proofs.Passes.Offers

/-!
# What an evaluation does not see

Feeds, requests and lists of updates can be written down in many ways. The outcome of an
evaluation depends on what they say and not on how it is written down.
-/

set_option autoImplicit false

namespace CveTriage

open Std (ExtTreeMap)

/-! ## Evaluations do not see the order of the records

Two indexes may list the repositories of a label in different orders and give
the same answers otherwise (`Index.SameAnswers`). An evaluation asks for the
repositories of its labels in one place only, and there it puts them into
ascending order before it asks anything about them. So the candidates are the
same, and from there on nothing is different (`Index.SameAnswers.evaluate_eq`).

With distinct keys the order of the records in a feed shows in no other answer,
hence it does not show in an evaluation (`evaluate_eq_of_reordered`).
-/

section RecordOrder

variable {index other : Index} {request : Request} {settings : EvaluationSettings}
  {updates : UpdateSource}

namespace Index.SameAnswers

variable (same : index.SameAnswers other)

include same

/-- A label leads to the same repositories. -/
theorem mem_matchingRepositories_iff {label : String} {id : RepositoryId} :
    id ∈ request.matchingRepositories other label ↔
      id ∈ request.matchingRepositories index label := by
  have details : other.repository = index.repository := by rw [same.elsewhere]
  simp only [Request.matchingRepositories, details]
  cases request.isNarrowing with
  | false => rfl
  | true => exact ((same.repositoryIds label).filter _).symm.mem_iff

/-- **The candidates do not depend on the order of the repositories of a label.** -/
theorem candidates : request.candidates other = request.candidates index := by
  have repositories : ∀ labels : List String,
      Id.ascending (labels.flatMap (request.matchingRepositories other)) =
        Id.ascending (labels.flatMap (request.matchingRepositories index)) := by
    intro labels
    refine Id.ascending_congr fun id => ?_
    simp only [List.mem_flatMap, same.mem_matchingRepositories_iff]
  simp only [Request.candidates, Request.platforms, Request.repositoryPlatforms, repositories]
  rw [same.elsewhere]
  rfl

/-- No criteria ask for repositories. -/
theorem forCriteria : index.SameForCriteria other := by
  constructor <;> rw [same.elsewhere]

/-- No pass asks for repositories. -/
theorem classify_eq (inventory : Inventory) (grouping : Grouping) :
    classify other settings updates inventory grouping =
      classify index settings updates inventory grouping := by
  simp only [classify, same.forCriteria.criteriaHold]
  rw [same.elsewhere]
  rfl

/-- **Indexes with the same answers have the same evaluations.** -/
theorem evaluate_eq :
    evaluate other settings updates request = evaluate index settings updates request := by
  have grouped : Grouping.ofPackages other request.inventory.packages (request.candidates index)
      settings.unfixed = Grouping.ofPackages index request.inventory.packages
        (request.candidates index) settings.unfixed := by
    rw [same.elsewhere]
    rfl
  simp only [evaluate, same.candidates, grouped, same.classify_eq]

end Index.SameAnswers

/-- **The order of the records in a feed does not matter.** When no key is used
twice, a snapshot with the same records in another order has an index exactly
when the snapshot has. The two indexes then give the same answers, up to the
order of the repositories of a label, and every evaluation over them ends in the
same buckets with all their evidence, or in the same failure. -/
theorem evaluate_eq_of_reordered {snapshot other : Snapshot} (distinct : snapshot.KeysDistinct)
    (reordered : snapshot.Reordered other) :
    ((∃ index, Index.ofSnapshot snapshot = .ok index) ↔
      ∃ otherIndex, Index.ofSnapshot other = .ok otherIndex) ∧
    ∀ index otherIndex : Index, Index.ofSnapshot snapshot = .ok index →
      Index.ofSnapshot other = .ok otherIndex →
      index.SameAnswers otherIndex ∧
      ∀ (settings : EvaluationSettings) (updates : UpdateSource) (request : Request),
        evaluate otherIndex settings updates request =
          evaluate index settings updates request := by
  refine ⟨exists_ofSnapshot_iff_of_perm reordered.states, ?_⟩
  intro index otherIndex built otherBuilt
  obtain ⟨states, read, rfl⟩ := ofSnapshot_eq_ok_iff.1 built
  obtain ⟨otherStates, otherRead, rfl⟩ := ofSnapshot_eq_ok_iff.1 otherBuilt
  have same := reordered.sameAnswers distinct read otherRead
  exact ⟨same, fun _ _ _ => same.evaluate_eq⟩

/-- The overlapping feed with two repositories that share a label. -/
def twinFeed : Snapshot :=
  { overlappingFeed with
    repositories :=
      [⟨⟨⟨1⟩, "base", some "x86_64", none⟩, [⟨1⟩]⟩, ⟨⟨⟨2⟩, "base", some "x86_64", none⟩, [⟨1⟩]⟩] }

/-- The same feed with definitions and repositories in the opposite order. -/
def turnedFeed : Snapshot :=
  { twinFeed with
    repositories := twinFeed.repositories.reverse
    definitions := twinFeed.definitions.reverse }

/-- The index of the feed with two repositories. -/
def twinIndex : Index :=
  (Tables.ofSnapshot twinFeed [⟨⟨1⟩, ⟨0, "5.1", "1"⟩, .equals, []⟩]).index

/-- The index of the feed in the opposite order. -/
def turnedIndex : Index :=
  (Tables.ofSnapshot turnedFeed [⟨⟨1⟩, ⟨0, "5.1", "1"⟩, .equals, []⟩]).index

/-- A host that reaches the definitions through the repositories. -/
def narrowHost : Request :=
  { overlappingHost with basearch := some "x86_64" }

/-- The repositories of the label change places, the buckets stay the same. -/
theorem evaluate_eq_of_reordered_turnedFeed :
    twinFeed.KeysDistinct ∧ twinFeed.Reordered turnedFeed ∧
    Index.ofSnapshot twinFeed = .ok twinIndex ∧ Index.ofSnapshot turnedFeed = .ok turnedIndex ∧
    twinIndex.repositoryIds "base" = [⟨1⟩, ⟨2⟩] ∧ turnedIndex.repositoryIds "base" = [⟨2⟩, ⟨1⟩] ∧
    twinIndex.SameAnswers turnedIndex ∧
    evaluate turnedIndex .default overlappingUpdates narrowHost = .ok overlappingBuckets := by
  have distinct : twinFeed.KeysDistinct := by
    have nothingReused : twinFeed.NothingReused := by constructor <;> decide
    constructor
    · exact nothingReused
    all_goals decide
  have reordered : twinFeed.Reordered turnedFeed := by
    constructor
    case repositories => exact (List.reverse_perm _).symm
    case definitions => exact (List.reverse_perm _).symm
    all_goals rfl
  have built : Index.ofSnapshot twinFeed = .ok twinIndex := rfl
  have otherBuilt : Index.ofSnapshot turnedFeed = .ok turnedIndex := rfl
  obtain ⟨same, evaluated⟩ :=
    (evaluate_eq_of_reordered distinct reordered).2 _ _ built otherBuilt
  have buckets : evaluate twinIndex .default overlappingUpdates narrowHost =
      .ok overlappingBuckets := rfl
  exact ⟨distinct, reordered, built, otherBuilt, rfl, rfl, same,
    (evaluated .default overlappingUpdates narrowHost).trans buckets⟩

end RecordOrder

/-! ## The layout of a request does not show

One host can be described in many ways: lists can be put into another order,
entries can be repeated, package strings that spell no identity can be added, a
stream can be named that a later entry replaces, and an empty list of
repositories can be left out (`Request.SameHost`).

None of this reaches the outcome (`evaluate_eq_of_sameHost`). Packages and
streams go through tables of the inventory, which are equal for both
descriptions. Labels are only asked what they lead to, and which platforms all of
them lead to depends on which labels there are (`Request.reaches_congr`). So the same
definitions are mentioned in the same order, by which the first failure is
found and the evidence is collected.
-/

section Layout

namespace Request

/-- The labels of the enabled repositories; none if the host sends no list. -/
def labels (request : Request) : List String :=
  request.repositories.getD []

/-- The stream that the last entry for a module names. -/
def activeStream (request : Request) (module : String) : Option String :=
  (lastWith? (·.module) module request.modules).map (·.stream)

/-- Two requests that describe the same host. -/
structure SameHost (request other : Request) : Prop where
  basearch : request.basearch = other.basearch
  releasever : request.releasever = other.releasever
  packages : ∀ package, (∃ nevra, Nevra.parse package = .ok nevra) →
    (package ∈ request.packages ↔ package ∈ other.packages)
  activeStream : ∀ module, request.activeStream module = other.activeStream module
  labels : ∀ label, label ∈ request.labels ↔ label ∈ other.labels

variable {index : Index} {request other : Request}

/-! ### The same inventory -/

theorem getElem?_modules_inventory (module : String) :
    request.inventory.modules[module]? = request.activeStream module :=
  getElem?_tableOf ModuleStream.module ModuleStream.stream request.modules module

theorem SameHost.packages_inventory (same : request.SameHost other) :
    request.inventory.packages = other.inventory.packages := by
  refine ExtTreeMap.ext_getElem? fun package => Option.ext fun nevra => ?_
  rw [getElem?_packages_inventory_iff, getElem?_packages_inventory_iff]
  exact and_congr_left fun read => same.packages package ⟨nevra, read⟩

theorem SameHost.modules_inventory (same : request.SameHost other) :
    request.inventory.modules = other.inventory.modules := by
  refine ExtTreeMap.ext_getElem? fun module => ?_
  rw [getElem?_modules_inventory, getElem?_modules_inventory]
  exact same.activeStream module

/-! ### The same candidates -/

/-- **Candidates are the definitions of the platforms that the labels lead to.**
Without a list of repositories there are no labels, hence no candidates. -/
theorem contains_candidates_iff {id : DefinitionId} :
    (request.candidates index).contains id = true ↔
      ∃ platform, request.Reaches index request.labels platform ∧
        id ∈ index.platformDefinitions platform := by
  unfold labels
  cases requested : request.repositories with
  | none =>
      have unreached : ∀ platform, ¬request.Reaches index [] platform := by
        intro platform
        simp [Reaches, RepositoryPlatform, ContentSetPlatform]
      simp [candidates, requested, Candidates.contains, unreached]
  | some labels =>
      rw [candidates_of_repositories requested]
      exact mem_definitions_iff

theorem SameHost.contains_candidates (same : request.SameHost other) :
    (request.candidates index).contains = (other.candidates index).contains := by
  funext id
  rw [Bool.eq_iff_iff, contains_candidates_iff, contains_candidates_iff]
  exact exists_congr fun platform =>
    and_congr_left' (reaches_congr same.basearch same.releasever same.labels)

end Request

/-! ### The same outcome -/

variable {index : Index} {settings : EvaluationSettings} {updates : UpdateSource}
  {request other : Request}

/-- Groups are formed of the same mentions, or fail for the same reason. -/
theorem ofPackages_eq_of_sameHost (same : request.SameHost other) {unfixed : Bool} :
    Grouping.ofPackages index request.inventory.packages (request.candidates index) unfixed =
      Grouping.ofPackages index other.inventory.packages (other.candidates index) unfixed := by
  have mentioned :
      mentions index request.inventory.packages (request.candidates index) =
        mentions index request.inventory.packages (other.candidates index) := by
    refine mentions_congr (fun _ => rfl) fun nameId => ?_
    rw [same.contains_candidates]
  unfold Grouping.ofPackages
  rw [mentioned, same.packages_inventory]

/-- **Descriptions of one host with the same updates within reach are evaluated alike.** -/
theorem evaluate_congr_of_sameHost (same : request.SameHost other)
    (available : updates.available request.inventory = updates.available other.inventory) :
    evaluate index settings updates request = evaluate index settings updates other := by
  have classified : classify index settings updates request.inventory =
      classify index settings updates other.inventory := by
    funext grouping
    simp only [classify, EvaluationSettings.matcher, same.modules_inventory, available]
  unfold evaluate
  rw [ofPackages_eq_of_sameHost same, classified]

/-- **The outcome depends on the host and not on the layout of its description.**
The buckets are the same with all their evidence, or the failure is the same. -/
theorem evaluate_eq_of_sameHost (index : Index) (settings : EvaluationSettings)
    {request other : Request} (same : request.SameHost other) :
    (∀ updates : UpdateList,
      evaluate index settings (.prepared updates) request =
        evaluate index settings (.prepared updates) other) ∧
    evaluate index settings .none request = evaluate index settings .none other := by
  refine ⟨fun updates => evaluate_congr_of_sameHost same ?_, evaluate_congr_of_sameHost same rfl⟩
  simp only [UpdateSource.prepared, same.packages_inventory]

/-- The host of the overlapping feed with a stream. -/
def tidyHost : Request :=
  { overlappingHost with modules := [⟨"nodejs", "18"⟩] }

/-- The same host with an unreadable package string, repetitions and a stream that
is replaced. -/
def untidyHost : Request :=
  ⟨["bash", "bash-0:5.1-1.x86_64", "bash-0:5.1-1.x86_64"], some ["base", "base"], none, none,
    [⟨"nodejs", "16"⟩, ⟨"nodejs", "18"⟩]⟩

theorem untidyHost_sameHost_tidyHost : untidyHost.SameHost tidyHost where
  basearch := rfl
  releasever := rfl
  packages := by
    intro package ⟨nevra, read⟩
    have readable : package ≠ "bash" := by
      rintro rfl
      cases read
    simp [untidyHost, tidyHost, overlappingHost, readable]
  activeStream := by
    intro module
    by_cases same : "nodejs" = module <;>
      simp [Request.activeStream, lastWith?, untidyHost, tidyHost, same]
  labels := by
    intro label
    simp [Request.labels, untidyHost, tidyHost, overlappingHost]

/-- The untidy description leaves the buckets of the tidy one. -/
theorem evaluate_eq_of_sameHost_untidyHost :
    untidyHost.SameHost tidyHost ∧
    evaluate overlappingIndex .default (.prepared thoroughRun.updates) untidyHost =
      .ok overlappingBuckets ∧
    evaluate overlappingIndex .default .none untidyHost =
      evaluate overlappingIndex .default .none tidyHost := by
  obtain ⟨prepared, none⟩ := evaluate_eq_of_sameHost overlappingIndex .default
    untidyHost_sameHost_tidyHost
  have evaluated : evaluate overlappingIndex .default (.prepared thoroughRun.updates) tidyHost =
      .ok overlappingBuckets := by
    have available : (UpdateSource.prepared thoroughRun.updates).available tidyHost.inventory =
        thoroughRun.updates := available_thoroughRun
    unfold evaluate classify
    rw [available]
    rfl
  exact ⟨untidyHost_sameHost_tidyHost, (prepared thoroughRun.updates).trans evaluated, none⟩

end Layout

/-! ## Updates for other hosts have no influence

Every erratum counts once in an evaluation, for the first package that it is
offered to. So an entry for a package that the host does not have could take an
erratum away from a package that it does have, if the entry came first.

It cannot, because prepared updates are narrowed to the packages of the host
before the errata are gone through. What is offered then is what the list has
for these packages, package by package (`offers_prepared`). Neither the entries
for other packages show in it, nor whether a package has no entry or an empty
one, nor anything about an update but its erratum (`evaluate_eq_of_sameErrata`).
-/

section Offers

variable {updates others : UpdateList} {inventory : Inventory} {package : String}

/-! ### Offers to the packages of a host -/

theorem mem_available_prepared_iff :
    package ∈ (UpdateSource.prepared updates).available inventory ↔
      package ∈ updates ∧ package ∈ inventory.packages := by
  simp only [ExtTreeMap.mem_iff_isSome_getElem?, Option.isSome_iff_exists,
    getElem?_available_prepared_iff]
  constructor
  · intro ⟨available, found, present⟩
    exact ⟨⟨available, found⟩, present⟩
  · intro ⟨⟨available, found⟩, present⟩
    exact ⟨available, found, present⟩

/-- For a package of the host, what is available is what the list has. -/
theorem offersTo_available_prepared (present : package ∈ inventory.packages) :
    UpdateList.offersTo ((UpdateSource.prepared updates).available inventory) package =
      updates.offersTo package := by
  have found : ((UpdateSource.prepared updates).available inventory)[package]? =
      updates[package]? := by
    refine Option.ext fun available => ?_
    rw [getElem?_available_prepared_iff, and_iff_left present]
  simp only [UpdateList.offersTo, UpdateList.errata, found]

/-- **Prepared updates offer what the list has for the packages of the host.** -/
theorem offers_prepared :
    offers ((UpdateSource.prepared updates).available inventory) =
      inventory.packages.keys.flatMap updates.offersTo := by
  have narrowed : ∀ package ∈ ((UpdateSource.prepared updates).available inventory).keys,
      UpdateList.offersTo ((UpdateSource.prepared updates).available inventory) package =
        updates.offersTo package := by
    intro package member
    exact offersTo_available_prepared
      (mem_available_prepared_iff.1 (ExtTreeMap.mem_keys.1 member)).2
  rw [offers_eq_flatMap_keys, List.flatMap_congr narrowed]
  refine flatMap_eq_of_ascending ExtTreeMap.ordered_keys ExtTreeMap.ordered_keys ?_
  intro package offered
  rw [ExtTreeMap.mem_keys, ExtTreeMap.mem_keys, mem_available_prepared_iff,
    and_iff_right (mem_of_offersTo_ne_nil offered)]

/-! ### Evaluations -/

namespace Request

/-- The request lists the package, and it spells an identity. -/
def Has (request : Request) (package : String) : Prop :=
  package ∈ request.packages ∧ ∃ nevra, Nevra.parse package = .ok nevra

/-- The lists have the same errata, in the same order, for every package of the host. -/
def SameErrata (request : Request) (updates others : UpdateList) : Prop :=
  ∀ package, request.Has package → updates.errata package = others.errata package

end Request

variable {index : Index} {settings : EvaluationSettings} {request : Request}

theorem mem_packages_inventory_iff :
    package ∈ request.inventory.packages ↔ request.Has package := by
  simp only [ExtTreeMap.mem_iff_isSome_getElem?, Option.isSome_iff_exists,
    getElem?_packages_inventory_iff, Request.Has, exists_and_left]

theorem Request.SameErrata.offers (same : request.SameErrata updates others) :
    CveTriage.offers ((UpdateSource.prepared updates).available request.inventory) =
      CveTriage.offers ((UpdateSource.prepared others).available request.inventory) := by
  rw [offers_prepared, offers_prepared]
  refine List.flatMap_congr fun package member => ?_
  have present := mem_packages_inventory_iff.1 (ExtTreeMap.mem_keys.1 member)
  simp only [UpdateList.offersTo, same package present]

/-- Of the updates, an evaluation asks for the offers only. -/
theorem evaluate_congr_of_offers {source other : UpdateSource}
    (same : offers (source.available request.inventory) =
      offers (other.available request.inventory)) :
    evaluate index settings source request = evaluate index settings other request := by
  have fixable : fixablePass index (source.available request.inventory) =
      fixablePass index (other.available request.inventory) := by
    funext buckets
    simp only [fixablePass, same]
  simp only [evaluate, classify, fixable]

/-- **Updates for packages that the host does not have cannot influence an
evaluation.** Lists with the same errata for the packages of the host leave the
same buckets with all their evidence, or the same failure. So it does not matter
what a list has for another package, and nothing about an update matters but its
erratum. -/
theorem evaluate_eq_of_sameErrata (index : Index) (settings : EvaluationSettings)
    (request : Request) (updates : UpdateList) :
    (∀ others : UpdateList, request.SameErrata updates others →
      evaluate index settings (.prepared updates) request =
        evaluate index settings (.prepared others) request) ∧
    (∀ (package : String) (available : List AvailableUpdate), ¬request.Has package →
      evaluate index settings (.prepared (updates.insert package available)) request =
        evaluate index settings (.prepared updates) request) ∧
    (∀ change : AvailableUpdate → AvailableUpdate,
      (∀ update, (change update).erratum = update.erratum) →
      evaluate index settings (.prepared (updates.map fun _ available => available.map change))
          request =
        evaluate index settings (.prepared updates) request) := by
  refine ⟨fun others same => evaluate_congr_of_offers same.offers, ?_, ?_⟩
  · intro package available foreign
    refine evaluate_congr_of_offers (Request.SameErrata.offers ?_)
    intro other present
    have differs : package ≠ other := by
      rintro rfl
      exact foreign present
    simp only [UpdateList.errata, ExtTreeMap.getElem?_insert, Std.compare_eq_iff_eq, differs,
      if_false]
  · intro change keeps
    refine evaluate_congr_of_offers (Request.SameErrata.offers ?_)
    intro package _
    simp only [UpdateList.errata, ExtTreeMap.getElem?_map]
    cases updates[package]? with
    | none => rfl
    | some available => simp [keeps]

/-- The prepared list with entries for two packages that come first. The one is not
installed, and the other one spells no identity. -/
def crowdedUpdates : UpdateList :=
  (thoroughRun.updates.insert "acl-0:2.3-1.x86_64" [⟨"acl-0:2.3-4.x86_64", "RHSA-1", none⟩]).insert
    "bash" [⟨"bash", "RHSA-1", none⟩]

/-- The overlapping host with a package string that spells no identity. -/
def roughHost : Request :=
  { overlappingHost with packages := "bash" :: overlappingHost.packages }

theorem sameErrata_crowdedUpdates : roughHost.SameErrata thoroughRun.updates crowdedUpdates := by
  intro package ⟨listed, nevra, read⟩
  have readable : "bash" ≠ package := by
    rintro rfl
    cases read
  have installed : "acl-0:2.3-1.x86_64" ≠ package := by
    rintro rfl
    revert listed
    decide
  simp only [UpdateList.errata, crowdedUpdates, ExtTreeMap.getElem?_insert, Std.compare_eq_iff_eq,
    readable, installed, if_false]

/-- The erratum is credited to the package of the host, although the list offers it
to another package first. -/
theorem evaluate_eq_of_sameErrata_crowdedUpdates :
    roughHost.SameErrata thoroughRun.updates crowdedUpdates ∧
    firstOffers ∅ (offers crowdedUpdates) = [("acl-0:2.3-1.x86_64", "RHSA-1")] ∧
    evaluate overlappingIndex .default (.prepared crowdedUpdates) roughHost =
      .ok overlappingBuckets := by
  have offered :
      offers ((UpdateSource.prepared thoroughRun.updates).available roughHost.inventory) =
        offers (overlappingUpdates.available roughHost.inventory) := offers_prepared.trans rfl
  have evaluated : evaluate overlappingIndex .default (.prepared thoroughRun.updates) roughHost =
      .ok overlappingBuckets := (evaluate_congr_of_offers offered).trans rfl
  refine ⟨sameErrata_crowdedUpdates, by decide, ?_⟩
  rw [← evaluated]
  exact ((evaluate_eq_of_sameErrata _ _ _ _).1 _ sameErrata_crowdedUpdates).symm

end Offers

end CveTriage
