import CveTriage.Evaluation.Grouping
import CveTriage.Evaluation.Matcher
import Std.Data.ExtTreeMap

/-!
# From requests to reports

Three passes fill three buckets. An evaluation runs the passes, and a report hands out the
buckets.
-/

set_option autoImplicit false

namespace CveTriage

open Std (ExtTreeMap ExtTreeSet)

/-! ## Buckets

A vulnerability that affects a host is unpatched, fixable by an update within
reach, or manually fixable. Each of the three buckets leads from the name of a
vulnerability to the evidence for it: the packages that gave it away and the
errata that concern it, in the order of discovery and with repetitions.

Precedence holds when no vulnerability is in two buckets.
-/

/-- The evidence for one vulnerability in one bucket. -/
structure Detail where
  cve : String
  affectedPackages : Array String
  errata : Array String
deriving DecidableEq

/-- One piece of evidence. -/
structure Evidence where
  cve : String
  package : String
  errata : List String
deriving DecidableEq

/-- A bucket: vulnerabilities and the evidence for them. -/
abbrev CveMap := ExtTreeMap String Detail

/-- A detail with one more piece of evidence, or a new one. -/
def Detail.extend (detail : Option Detail) (evidence : Evidence) : Detail :=
  match detail with
  | some detail =>
    { detail with
      affectedPackages := detail.affectedPackages.push evidence.package
      errata := detail.errata ++ evidence.errata }
  | none => ⟨evidence.cve, #[evidence.package], evidence.errata.toArray⟩

/-- The bucket with one more piece of evidence. -/
def CveMap.merge (cves : CveMap) (evidence : Evidence) : CveMap :=
  cves.alter evidence.cve fun detail => some (Detail.extend detail evidence)

/-- The bucket with more evidence, piece by piece. -/
def CveMap.mergeAll (cves : CveMap) (evidence : List Evidence) : CveMap :=
  evidence.foldl CveMap.merge cves

/-- The buckets of one evaluation. -/
structure Buckets where
  unpatched : CveMap
  fixable : CveMap
  manuallyFixable : CveMap
  lastChange : Instant

namespace Buckets

/-- The buckets before any vulnerability is placed. -/
def empty (lastChange : Instant) : Buckets :=
  ⟨∅, ∅, ∅, lastChange⟩

/-- Whether the vulnerability is in any bucket. -/
def isClassified (buckets : Buckets) (cve : String) : Bool :=
  buckets.unpatched.contains cve || buckets.fixable.contains cve ||
    buckets.manuallyFixable.contains cve

/-- Whether no vulnerability is in two buckets. -/
def precedenceHolds (buckets : Buckets) : Bool :=
  buckets.unpatched.keys.all (fun cve =>
    !buckets.fixable.contains cve && !buckets.manuallyFixable.contains cve) &&
  buckets.fixable.keys.all (fun cve => !buckets.manuallyFixable.contains cve)

end Buckets

/-! ## The three passes

Each pass fills one bucket. The passes run in the order of precedence, and a
vulnerability that an earlier pass has placed is not placed again by a later
one; within its own bucket it keeps collecting evidence.

The passes do not evaluate criteria themselves. They are given a judgement,
which says whether the criteria with a given root hold for a package.
-/

/-- Whether criteria hold for a package of the given name. -/
abbrev Judgement := CriteriaId → NameId → Nevra → Bool

namespace DefinitionGroup

/-- The packages of the group for which the criteria hold. -/
def hits (group : DefinitionGroup) (judgement : Judgement) : List TestedPackage :=
  group.packages.filter fun package => judgement group.criteriaId package.nameId package.nevra

/-- What the matching packages of the group reveal: all vulnerabilities of the
definition, package by package. -/
def evidence (group : DefinitionGroup) (index : Index) (judgement : Judgement) : List Evidence :=
  let cves := index.definitionCves group.definitionId
  let errata := index.errataNames group.definitionId
  (group.hits judgement).flatMap fun package => cves.map (⟨·, package.package, errata⟩)

end DefinitionGroup

/-! ### Unpatched vulnerabilities -/

/-- What the matching vulnerability definitions reveal is unpatched. -/
def unpatchedPass (index : Index) (judgement : Judgement) (groups : Groups) (buckets : Buckets) :
    Buckets :=
  { buckets with
    unpatched := groups.values.foldl
      (fun unpatched group => unpatched.mergeAll (group.evidence index judgement))
      buckets.unpatched }

/-! ### Fixable vulnerabilities -/

/-- The errata of the updates with the package that each is for. -/
def offers (updates : UpdateList) : List (String × String) :=
  updates.toList.flatMap fun entry => entry.2.map fun update => (entry.1, update.erratum)

/-- The offers whose erratum was neither seen before nor is offered earlier in
the list. -/
def firstOffers (seen : ExtTreeSet String) : List (String × String) → List (String × String)
  | [] => []
  | (package, erratum) :: rest =>
    if erratum ∈ seen then firstOffers seen rest
    else (package, erratum) :: firstOffers (seen.insert erratum) rest

/-- What the available updates fix, unless it is unpatched, is fixable. Every
erratum counts once. -/
def fixablePass (index : Index) (updates : UpdateList) (buckets : Buckets) : Buckets :=
  let evidence := (firstOffers ∅ (offers updates)).flatMap fun offer =>
    (index.erratumCves offer.2).map fun cve => (⟨cve, offer.1, [offer.2]⟩ : Evidence)
  { buckets with
    fixable := buckets.fixable.mergeAll
      (evidence.filter fun piece => !buckets.unpatched.contains piece.cve) }

/-! ### Manually fixable vulnerabilities -/

/-- What one matching patch definition reveals, unless it is unpatched or
fixable, is manually fixable. A definition all of whose vulnerabilities have
been placed is skipped. -/
def manuallyFixableStep (index : Index) (judgement : Judgement) (buckets : Buckets)
    (group : DefinitionGroup) : Buckets :=
  if (index.definitionCves group.definitionId).all buckets.isClassified then buckets
  else
    { buckets with
      manuallyFixable := buckets.manuallyFixable.mergeAll
        ((group.evidence index judgement).filter fun piece =>
          !buckets.unpatched.contains piece.cve && !buckets.fixable.contains piece.cve) }

/-- The manually fixable vulnerabilities of all groups, in the order of the definitions. -/
def manuallyFixablePass (index : Index) (judgement : Judgement) (groups : Groups)
    (buckets : Buckets) : Buckets :=
  groups.values.foldl (manuallyFixableStep index judgement) buckets

/-! ## Evaluation

From a request to its buckets: the packages of the inventory are grouped by
the candidate definitions, and the three passes run in the order of
precedence. An evaluation fails only when the grouping does.
-/

/-- How evaluations are carried out. -/
structure EvaluationSettings where
  /-- Whether vulnerability definitions are evaluated. -/
  unfixed : Bool
  maxDepth : Nat
deriving DecidableEq

/-- The settings unless others are chosen. -/
def EvaluationSettings.default : EvaluationSettings :=
  ⟨true, defaultMaxDepth⟩

/-- Why an evaluation fails. -/
inductive EvaluationError where
  | grouping (cause : GroupingError)
deriving DecidableEq

/-- The wording of the error alone. -/
def EvaluationError.message : EvaluationError → String
  | .grouping cause => "couldn't evaluate OVAL: " ++ cause.message

/-- The wording of the error and of its cause. -/
def EvaluationError.chain : EvaluationError → String
  | .grouping cause => (EvaluationError.grouping cause).message ++ ": " ++ cause.message

/-- What criteria are held against in an evaluation. -/
def EvaluationSettings.matcher (settings : EvaluationSettings) (index : Index)
    (inventory : Inventory) : Matcher :=
  ⟨index, inventory.modules, settings.maxDepth⟩

/-- The buckets of a host, once its definitions are grouped. -/
def classify (index : Index) (settings : EvaluationSettings) (updates : UpdateSource)
    (inventory : Inventory) (grouping : Grouping) : Buckets :=
  let judgement := (settings.matcher index inventory).criteriaHold
  manuallyFixablePass index judgement grouping.patches
    (fixablePass index (updates.available inventory)
      (unpatchedPass index judgement grouping.vulnerabilities (Buckets.empty index.lastChange)))

/-- The buckets of a host: its packages are grouped under the candidates of the request, and
the groups are classified. -/
def evaluate (index : Index) (settings : EvaluationSettings) (updates : UpdateSource)
    (request : Request) : Except EvaluationError Buckets :=
  match Grouping.ofPackages index request.inventory.packages (request.candidates index)
      settings.unfixed with
  | .ok grouping => .ok (classify index settings updates request.inventory grouping)
  | .error cause => .error (.grouping cause)

/-! ## Reports

Two ways to hand out the buckets: the names of the vulnerabilities alone, and
the names with all evidence. Both list every bucket in the order of the names.
-/

/-- A list of entries for every bucket. -/
structure Report (α : Type) where
  fixable : List α
  manuallyFixable : List α
  unpatched : List α
  lastChange : Instant
deriving DecidableEq

/-- A report of names. -/
abbrev CompactReport := Report String

/-- A report of names and evidence. -/
abbrev ExtendedReport := Report Detail

namespace Buckets

/-- The names in the buckets. -/
def compact (buckets : Buckets) : CompactReport :=
  ⟨buckets.fixable.keys, buckets.manuallyFixable.keys, buckets.unpatched.keys, buckets.lastChange⟩

/-- The evidence in the buckets. -/
def extended (buckets : Buckets) : ExtendedReport :=
  ⟨buckets.fixable.values, buckets.manuallyFixable.values, buckets.unpatched.values,
    buckets.lastChange⟩

end Buckets

/-- The names of the vulnerabilities of a host. -/
def compactReport (index : Index) (settings : EvaluationSettings) (updates : UpdateSource)
    (request : Request) : Except EvaluationError CompactReport :=
  (evaluate index settings updates request).map Buckets.compact

/-- The vulnerabilities of a host with their evidence. -/
def extendedReport (index : Index) (settings : EvaluationSettings) (updates : UpdateSource)
    (request : Request) : Except EvaluationError ExtendedReport :=
  (evaluate index settings updates request).map Buckets.extended

end CveTriage
