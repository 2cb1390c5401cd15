import CveTriage.Evaluation.Grouping
import CveTriage.Proofs.Listing

/-!
# Which definitions are candidates

Labels lead to platforms through repositories that fit the host
(`RepositoryPlatform`) and through content sets (`ContentSetPlatform`). A platform
counts when a repository has it, or when a content set has it and no repository of
any label has a platform (`Reaches`). The candidates are the definitions of the
platforms that count (`resolves_exactly`).

Whether content sets count is decided once for all labels. Repositories that fit but
have no platform do not prevent it, and one more label whose repository has a platform
takes the platforms of content sets away from all others. So candidates cannot be
found label by label; but which labels there are is all that matters, not their order
and not how often they are sent.
-/

set_option autoImplicit false

namespace CveTriage.Request

open Std (ExtTreeSet)

/-! ## Platforms that count -/

section Reached

variable (request : Request) (index : Index) (labels : List String)

/-- The host sends its architecture or its release, and what it sends is recorded for
the repository. -/
structure Selects (repository : Repository) : Prop where
  sent : request.basearch ≠ none ∨ request.releasever ≠ none
  basearch : ∀ value, request.basearch = some value → repository.basearch = some value
  releasever : ∀ value, request.releasever = some value → repository.releasever = some value

/-- A label leads to the platform through a repository. -/
def RepositoryPlatform (platform : PlatformId) : Prop :=
  ∃ label ∈ labels, ∃ id ∈ index.repositoryIds label,
    (∃ repository, index.repository id = some repository ∧ request.Selects repository) ∧
    platform ∈ index.repositoryPlatforms id

/-- A label leads to the platform through its content set. -/
def ContentSetPlatform (platform : PlatformId) : Prop :=
  ∃ label ∈ labels, ∃ id, index.contentSetId label = some id ∧
    platform ∈ index.contentSetPlatforms id

/-- The labels lead to the platform; content sets count when there is no platform
of a repository. -/
def Reaches (platform : PlatformId) : Prop :=
  request.RepositoryPlatform index labels platform ∨
    (¬∃ preferred, request.RepositoryPlatform index labels preferred) ∧
      ContentSetPlatform index labels platform

end Reached

variable {request : Request} {index : Index} {labels : List String} {platform : PlatformId}

/-! ## Repositories of the host -/

/-- A value that is not recorded agrees with nothing that is sent. -/
theorem agrees_iff {sent recorded : Option String} :
    agrees sent recorded = true ↔ ∀ value, sent = some value → recorded = some value := by
  cases sent with
  | none => simp [agrees]
  | some value => simpa [agrees] using eq_comm

theorem isNarrowing_iff :
    request.isNarrowing = true ↔ request.basearch ≠ none ∨ request.releasever ≠ none := by
  simp [isNarrowing, Option.isSome_iff_ne_none]

theorem selects_iff {repository : Repository} :
    request.Selects repository ↔
      request.isNarrowing = true ∧ request.fits repository = true := by
  rw [isNarrowing_iff, fits, Bool.and_eq_true, agrees_iff, agrees_iff]
  exact ⟨fun ⟨sent, basearch, releasever⟩ => ⟨sent, basearch, releasever⟩,
    fun ⟨sent, basearch, releasever⟩ => ⟨sent, basearch, releasever⟩⟩

theorem mem_matchingRepositories_iff {label : String} {id : RepositoryId} :
    id ∈ request.matchingRepositories index label ↔
      id ∈ index.repositoryIds label ∧
        ∃ repository, index.repository id = some repository ∧ request.Selects repository := by
  simp only [matchingRepositories, selects_iff]
  by_cases narrowing : request.isNarrowing = true
  · simp [narrowing, Option.any_eq_true]
  · simp [narrowing]

/-! ## Platforms of the labels -/

theorem mem_repositoryPlatforms_iff :
    platform ∈ request.repositoryPlatforms index labels ↔
      request.RepositoryPlatform index labels platform := by
  simp only [repositoryPlatforms, RepositoryPlatform, List.mem_flatMap, Id.mem_ascending,
    mem_matchingRepositories_iff]
  constructor
  · rintro ⟨id, ⟨label, requested, listed, selected⟩, member⟩
    exact ⟨label, requested, id, listed, selected, member⟩
  · rintro ⟨label, requested, id, listed, selected, member⟩
    exact ⟨id, ⟨label, requested, listed, selected⟩, member⟩

theorem mem_contentSetPlatforms_iff :
    platform ∈ contentSetPlatforms index labels ↔ ContentSetPlatform index labels platform := by
  simp only [contentSetPlatforms, ContentSetPlatform, List.mem_flatMap, Id.mem_ascending,
    List.mem_filterMap]
  constructor
  · rintro ⟨id, ⟨label, requested, found⟩, member⟩
    exact ⟨label, requested, id, found, member⟩
  · rintro ⟨label, requested, id, found, member⟩
    exact ⟨id, ⟨label, requested, found⟩, member⟩

theorem repositoryPlatforms_eq_nil_iff :
    request.repositoryPlatforms index labels = [] ↔
      ¬∃ preferred, request.RepositoryPlatform index labels preferred := by
  simp only [List.eq_nil_iff_forall_not_mem, mem_repositoryPlatforms_iff, not_exists]

/-- The platforms of labels are those that the labels lead to. Where no repository has
a platform, none is reached through a repository. -/
theorem mem_platforms_iff :
    platform ∈ request.platforms index labels ↔ request.Reaches index labels platform := by
  simp only [platforms, List.isEmpty_iff, Reaches, ← repositoryPlatforms_eq_nil_iff]
  by_cases preferred : request.repositoryPlatforms index labels = []
  · have unreached : ¬request.RepositoryPlatform index labels platform := by
      rw [← mem_repositoryPlatforms_iff, preferred]
      exact List.not_mem_nil
    rw [if_pos preferred, mem_contentSetPlatforms_iff]
    simp only [unreached, preferred, true_and, false_or]
  · rw [if_neg preferred, mem_repositoryPlatforms_iff]
    simp only [preferred, false_and, or_false]

/-- What labels lead to depends on the architecture, on the release and on which labels
there are. -/
theorem reaches_congr {other : Request} {others : List String}
    (basearch : other.basearch = request.basearch)
    (releasever : other.releasever = request.releasever)
    (same : ∀ label, label ∈ others ↔ label ∈ labels) :
    other.Reaches index others platform ↔ request.Reaches index labels platform := by
  simp only [Reaches, RepositoryPlatform, ContentSetPlatform, selects_iff, isNarrowing, fits,
    basearch, releasever, same]

/-! ## Candidates -/

theorem candidates_of_repositories (requested : request.repositories = some labels) :
    request.candidates index =
      .ofList ((Id.ascending (request.platforms index labels)).flatMap
        index.platformDefinitions) := by
  rw [candidates, requested]

/-- The definitions of the platforms that the labels lead to. -/
theorem mem_definitions_iff {id : DefinitionId} :
    id ∈ ExtTreeSet.ofList ((Id.ascending (request.platforms index labels)).flatMap
        index.platformDefinitions) ↔
      ∃ platform, request.Reaches index labels platform ∧
        id ∈ index.platformDefinitions platform := by
  simp only [ExtTreeSet.mem_ofList, List.contains_iff_mem, List.mem_flatMap, Id.mem_ascending,
    mem_platforms_iff]

/-- **Labels are resolved exactly.** Without a list of repositories nothing is resolved.
Otherwise the candidates are the definitions of the platforms that the labels lead to, and
other lists of the same labels have the same candidates. -/
theorem resolves_exactly (index : Index) (request : Request) :
    (request.repositories = none → request.candidates index = .noRepositories) ∧
    ∀ labels, request.repositories = some labels →
      (∃ definitions, request.candidates index = .resolved definitions ∧
        ∀ id, id ∈ definitions ↔
          ∃ platform, request.Reaches index labels platform ∧
            id ∈ index.platformDefinitions platform) ∧
      ∀ others : List String, (∀ label, label ∈ others ↔ label ∈ labels) →
        { request with repositories := some others }.candidates index =
          request.candidates index := by
  refine ⟨fun unsent => by rw [candidates, unsent], fun labels requested => ?_⟩
  refine ⟨⟨_, candidates_of_repositories requested, fun id => mem_definitions_iff⟩, ?_⟩
  intro others same
  rw [candidates_of_repositories requested, candidates_of_repositories rfl]
  refine congrArg Candidates.resolved (ExtTreeSet.ext_mem fun id => ?_)
  rw [mem_definitions_iff, mem_definitions_iff]
  exact exists_congr fun platform => and_congr_left' (reaches_congr rfl rfl same)

/-- An index where two labels lead to repositories of one architecture. That of one label
has no platform, but a content set of this label has. -/
def mixedLabelsIndex : Index :=
  { Index.empty .epoch with
    repositoryIds label :=
      if label = "backed" then [⟨1⟩] else if label = "bare" then [⟨2⟩] else []
    repository id := some ⟨id, "", some "x86_64", none⟩
    repositoryPlatforms id := if id = ⟨1⟩ then [⟨1⟩] else []
    contentSetId label := if label = "bare" then some ⟨1⟩ else none
    contentSetPlatforms _ := [⟨2⟩]
    platformDefinitions platform := [⟨platform.number⟩] }

/-- A request for the labels, with an architecture. -/
def mixedLabelsRequest (labels : Option (List String)) : Request :=
  ⟨[], labels, some "x86_64", none, []⟩

/-- The platform of the content set counts for the label alone, and no longer when the
other label joins it. -/
theorem resolves_exactly_mixedLabels :
    (mixedLabelsRequest none).candidates mixedLabelsIndex = .noRepositories ∧
    (mixedLabelsRequest (some ["bare"])).candidates mixedLabelsIndex = .ofList [⟨2⟩] ∧
    (mixedLabelsRequest (some ["bare", "backed"])).candidates mixedLabelsIndex = .ofList [⟨1⟩] ∧
    (mixedLabelsRequest (some ["backed", "bare", "backed"])).candidates mixedLabelsIndex =
      .ofList [⟨1⟩] ∧
    ∃ definitions, (mixedLabelsRequest (some ["bare", "backed"])).candidates mixedLabelsIndex =
        .resolved definitions ∧
      ∀ id, id ∈ definitions ↔
        ∃ platform, (mixedLabelsRequest (some ["bare", "backed"])).Reaches mixedLabelsIndex
            ["bare", "backed"] platform ∧
          id ∈ mixedLabelsIndex.platformDefinitions platform := by
  obtain ⟨resolved, congr⟩ :=
    (resolves_exactly mixedLabelsIndex (mixedLabelsRequest (some ["bare", "backed"]))).2 _ rfl
  have repeated := congr ["backed", "bare", "backed"] (by simp [or_comm])
  have both : (mixedLabelsRequest (some ["bare", "backed"])).candidates mixedLabelsIndex =
      .ofList [⟨1⟩] := rfl
  exact ⟨(resolves_exactly mixedLabelsIndex (mixedLabelsRequest none)).1 rfl, rfl, both,
    repeated.trans both, resolved⟩

end CveTriage.Request
