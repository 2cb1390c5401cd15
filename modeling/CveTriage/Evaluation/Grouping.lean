import CveTriage.Host
import CveTriage.Index.Build
import Std.Data.ExtTreeSet

/-!
# Candidates and groups

The repositories of a host decide which definitions are candidates, and its packages are
grouped under the candidates that list their names.
-/

set_option autoImplicit false

namespace CveTriage

open Std (ExtTreeMap ExtTreeSet)

/-! ## Candidate definitions

The repositories of a host decide which definitions may concern it. Labels
lead to platforms in two ways. A label leads to the repositories that carry it
and fit the host's architecture and release, provided the host sends one of
the two; and it leads to its content set. Platforms of repositories are
preferred: those of content sets count only when the repositories of all
labels together have no platform at all. What several labels lead to counts
once, and so does what a label leads to several times.
-/

/-- The definitions that may concern a host. -/
inductive Candidates where
  /-- The host sends no list of repositories, so nothing is evaluated. -/
  | noRepositories
  | resolved (definitions : ExtTreeSet DefinitionId)

namespace Candidates

/-- Whether a definition may concern the host. -/
def contains : Candidates → DefinitionId → Bool
  | .noRepositories, _ => false
  | .resolved definitions, id => definitions.contains id

/-- How many definitions are candidates. -/
def size : Candidates → Nat
  | .noRepositories => 0
  | .resolved definitions => definitions.size

/-- Whether no definition is a candidate. -/
def isEmpty (candidates : Candidates) : Bool :=
  candidates.size == 0

/-- The candidates with the given identifiers. -/
def ofList (ids : List DefinitionId) : Candidates :=
  .resolved (ExtTreeSet.ofList ids)

end Candidates

namespace Request

/-- Whether a repository has the value that the host sends, if it sends one. -/
def agrees (sent recorded : Option String) : Bool :=
  sent.isNone || sent == recorded

/-- Whether a repository fits the architecture and the release of the host. -/
def fits (request : Request) (repository : Repository) : Bool :=
  agrees request.basearch repository.basearch && agrees request.releasever repository.releasever

/-- Whether the host sends an architecture or a release. -/
def isNarrowing (request : Request) : Bool :=
  request.basearch.isSome || request.releasever.isSome

/-- The repositories that a label leads to. -/
def matchingRepositories (request : Request) (index : Index) (label : String) :
    List RepositoryId :=
  if request.isNarrowing then
    (index.repositoryIds label).filter fun id => (index.repository id).any request.fits
  else []

/-- The platforms that the labels lead to through repositories. -/
def repositoryPlatforms (request : Request) (index : Index) (labels : List String) :
    List PlatformId :=
  (Id.ascending (labels.flatMap (request.matchingRepositories index))).flatMap
    index.repositoryPlatforms

/-- The platforms that the labels lead to through content sets. -/
def contentSetPlatforms (index : Index) (labels : List String) : List PlatformId :=
  (Id.ascending (labels.filterMap index.contentSetId)).flatMap index.contentSetPlatforms

/-- The platforms that the labels lead to. -/
def platforms (request : Request) (index : Index) (labels : List String) : List PlatformId :=
  let preferred := request.repositoryPlatforms index labels
  if preferred.isEmpty then contentSetPlatforms index labels else preferred

/-- The candidate definitions of a host. -/
def candidates (request : Request) (index : Index) : Candidates :=
  match request.repositories with
  | none => .noRepositories
  | some labels =>
    .ofList ((Id.ascending (request.platforms index labels)).flatMap index.platformDefinitions)

end Request

/-! ## Grouping packages by definition

Every package of a host mentions the definitions that list its name. The
mentions are taken in the order of the package strings, and for one package in
the order of the index; those of definitions that are no candidates are left
out before anything else is asked about them (`mentions`).

The first mention of a candidate without a detail, or of a type without a
meaning, is an error. If there is none, each mention puts its package into the
group of its definition. Groups of vulnerabilities are formed on demand only.
-/

/-- Why the definitions of a host cannot be grouped. -/
inductive GroupingError where
  /-- A candidate has a type without a meaning. -/
  | unsupportedType (definition : DefinitionId) (code : UInt8)
  /-- A candidate has no detail in the index. -/
  | missingDefinition (definition : DefinitionId)
deriving DecidableEq

/-- The wording of the error. -/
def GroupingError.message : GroupingError → String
  | .unsupportedType definition code =>
    "unsupported definition type: " ++ toString code.toNat ++ " (definition " ++
      toString definition.number.toNat ++ ")"
  | .missingDefinition definition =>
    "definition " ++ toString definition.number.toNat ++ " missing from index"

/-- A package whose name is known to the index. -/
structure TestedPackage where
  package : String
  nameId : NameId
  nevra : Nevra
deriving DecidableEq

/-- A definition and the packages of the host that mention it. -/
structure DefinitionGroup where
  definitionId : DefinitionId
  criteriaId : CriteriaId
  /-- The packages, in the order of their package strings. -/
  packages : List TestedPackage
deriving DecidableEq

/-- Groups by the identifier of their definition. -/
abbrev Groups := ExtTreeMap DefinitionId DefinitionGroup

/-- The groups of a host by the type of the definition. -/
structure Grouping where
  patches : Groups
  /-- Groups of vulnerability definitions; empty unless they are wanted. -/
  vulnerabilities : Groups

/-- The groups with one more package at the front of the group of the definition. -/
def Groups.add (groups : Groups) (definition : Definition) (package : TestedPackage) : Groups :=
  groups.alter definition.id fun group =>
    some ⟨definition.id, definition.criteriaId, package :: (group.map (·.packages)).getD []⟩

/-- The groups of definitions of the given type. They are put together from the
last mention on, so that no group is walked. -/
def Groups.ofMentions (type : DefinitionType) (mentions : List (TestedPackage × Definition)) :
    Groups :=
  (mentions.filter fun mention => mention.2.type = type).foldr
    (fun mention groups => groups.add mention.2 mention.1) ∅

/-- The packages whose names are known, in the order of the package strings. -/
def testedPackages (index : Index) (packages : ExtTreeMap String Nevra) : List TestedPackage :=
  packages.toList.filterMap fun entry =>
    (index.packageNameId entry.2.name).map fun nameId => ⟨entry.1, nameId, entry.2⟩

/-- The packages together with the candidate definitions that list their names. -/
def mentions (index : Index) (packages : ExtTreeMap String Nevra) (candidates : Candidates) :
    List (TestedPackage × DefinitionId) :=
  (testedPackages index packages).flatMap fun package =>
    ((index.packageNameDefinitions package.nameId).filter candidates.contains).map (package, ·)

/-- The detail of a definition that is mentioned; its type must have a meaning. -/
def mentionedDefinition (index : Index) (id : DefinitionId) : Except GroupingError Definition :=
  match index.definition id with
  | none => .error (.missingDefinition id)
  | some definition =>
    match definition.type with
    | .unsupported code => .error (.unsupportedType definition.id code)
    | .patch | .vulnerability => .ok definition

/-- The mentions with the details of the definitions. -/
def detailedMentions (index : Index) (mentions : List (TestedPackage × DefinitionId)) :
    Except GroupingError (List (TestedPackage × Definition)) :=
  mentions.mapM fun mention => (mentionedDefinition index mention.2).map (mention.1, ·)

/-- The groups of the packages, or the failure of the first mention that fails. Groups of
vulnerability definitions are left out unless they are wanted. -/
def Grouping.ofPackages (index : Index) (packages : ExtTreeMap String Nevra)
    (candidates : Candidates) (unfixed : Bool) : Except GroupingError Grouping :=
  (detailedMentions index (mentions index packages candidates)).map fun mentions =>
    ⟨.ofMentions .patch mentions, if unfixed then .ofMentions .vulnerability mentions else ∅⟩

end CveTriage
