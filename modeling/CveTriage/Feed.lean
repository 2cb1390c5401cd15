import CveTriage.Package
import CveTriage.Time
import Std.Data.ExtTreeSet

/-!
# The feed

The records of the feed, with the identifiers by which they refer to each other and the
codes that they are written with.
-/

set_option autoImplicit false

namespace CveTriage

/-! ## Identifiers

The feed refers to its records by opaque numbers, counted separately for every
kind of record. An identifier carries its kind in its type, so a definition
cannot be looked up by the number of a state. Identifiers are ordered by their
numbers.
-/

/-- The kinds of records that identifiers refer to. -/
inductive IdKind where
  | definition
  | criteria
  | test
  | moduleTest
  | state
  | repository
  | contentSet
  | platform
  | packageName
  | erratum
  | architecture

/-- The identifier of a record of the given kind. -/
structure Id (kind : IdKind) where
  number : UInt32
deriving DecidableEq

namespace Id

variable {kind : IdKind}

/-- Identifiers are ordered by their numbers. -/
instance : Ord (Id kind) := ⟨fun left right => compare left.number right.number⟩

/-- The order of identifiers is total. -/
instance : Std.TransOrd (Id kind) where
  eq_swap {_ _} := Std.OrientedOrd.eq_swap (α := UInt32)
  isLE_trans {_ _ _} := Std.TransOrd.isLE_trans (α := UInt32)

/-- Only equal identifiers compare equal. -/
instance : Std.LawfulEqOrd (Id kind) where
  compare_self {_} := Std.ReflOrd.compare_self (α := UInt32)
  eq_of_compare {left right} equal := by
    have same := Std.LawfulEqOrd.eq_of_compare (α := UInt32) equal
    cases left
    cases right
    exact congrArg Id.mk same

/-- The given identifiers in ascending order, each once. -/
def ascending (ids : List (Id kind)) : List (Id kind) :=
  (Std.ExtTreeSet.ofList ids).toList

end Id

/-- The identifier of a definition. -/
abbrev DefinitionId := Id .definition

/-- The identifier of a criteria node. -/
abbrev CriteriaId := Id .criteria

/-- The identifier of a test of a package. -/
abbrev TestId := Id .test

/-- The identifier of a test for an active module stream. -/
abbrev ModuleTestId := Id .moduleTest

/-- The identifier of a state of a package. -/
abbrev StateId := Id .state

/-- The identifier of a repository. -/
abbrev RepositoryId := Id .repository

/-- The identifier of a content set. -/
abbrev ContentSetId := Id .contentSet

/-- The identifier of a platform. -/
abbrev PlatformId := Id .platform

/-- The identifier of a package name. -/
abbrev NameId := Id .packageName

/-- The identifier of an erratum. -/
abbrev ErratumId := Id .erratum

/-- The identifier of an architecture. -/
abbrev ArchitectureId := Id .architecture

/-! ## Feed codes

The feed writes the kind of a definition, the operator of a criteria node, the
existence policy of a test and the comparison of a state as small numbers. Of
every kind the codes 1 and 2 have a meaning. Other codes are kept, because what
they lead to depends on where they stand: such a definition makes a request
unanswerable, everything else just never holds.

What the four kinds have in common is a `Coding`. Reading a code and writing it
back gives the same number (`Coding.code_ofCode`). Writing a meaning and reading
it back gives the same meaning, unless it is a kept code that means something
else (`Coding.ofCode_code_iff`).
-/

/-- How the meanings of one kind are written: the codes 1 and 2 have a meaning, and
any other code is kept. -/
structure Coding (κ : Type) where
  /-- The meaning of the code 1. -/
  first : κ
  /-- The meaning of the code 2. -/
  second : κ
  /-- What a code without a meaning is kept as. -/
  unsupported : UInt8 → κ
  /-- The code of a meaning. -/
  code : κ → UInt8
  code_first : code first = 1
  code_second : code second = 2
  code_unsupported : ∀ number, code (unsupported number) = number
  exhaustive : ∀ meaning,
    meaning = first ∨ meaning = second ∨ ∃ number, meaning = unsupported number

namespace Coding

variable {κ : Type} (coding : Coding κ)

/-- The meaning of a code. -/
def ofCode (number : UInt8) : κ :=
  if number = 1 then coding.first
  else if number = 2 then coding.second
  else coding.unsupported number

/-- **A code is written back as it was read.** -/
theorem code_ofCode (number : UInt8) : coding.code (coding.ofCode number) = number := by
  unfold ofCode
  split
  next one => rw [coding.code_first, one]
  next =>
    split
    next two => rw [coding.code_second, two]
    next => exact coding.code_unsupported number

/-- **A meaning is read back as it was written**, unless it is a kept code that means
something else. -/
theorem ofCode_code_iff (meaning : κ) :
    coding.ofCode (coding.code meaning) = meaning ↔
      ∀ number, meaning = coding.unsupported number →
        coding.ofCode number = coding.unsupported number := by
  constructor
  · rintro same number rfl
    rwa [coding.code_unsupported] at same
  · intro kept
    rcases coding.exhaustive meaning with rfl | rfl | ⟨number, rfl⟩
    · rw [coding.code_first, ofCode, if_pos rfl]
    · rw [coding.code_second, ofCode, if_neg (by decide), if_pos rfl]
    · rw [coding.code_unsupported, kept number rfl]

end Coding

/-- The name of a code without a meaning. -/
def unsupportedName (code : UInt8) : String :=
  "Unsupported(" ++ toString code.toNat ++ ")"

/-- What a definition says about the software that it matches. -/
inductive DefinitionType where
  /-- A fix exists that the host lacks. -/
  | patch
  /-- No fix exists yet. -/
  | vulnerability
  | unsupported (code : UInt8)
deriving DecidableEq

namespace DefinitionType

/-- The code of a type. -/
def code : DefinitionType → UInt8
  | .patch => 1
  | .vulnerability => 2
  | .unsupported code => code

/-- How types are written. -/
def coding : Coding DefinitionType where
  first := .patch
  second := .vulnerability
  unsupported := .unsupported
  code := code
  code_first := rfl
  code_second := rfl
  code_unsupported _ := rfl
  exhaustive meaning := by cases meaning <;> simp

/-- The type with a code. -/
def ofCode (number : UInt8) : DefinitionType :=
  coding.ofCode number

/-- The name of a type. -/
def name : DefinitionType → String
  | .patch => "Patch"
  | .vulnerability => "Vulnerability"
  | .unsupported code => unsupportedName code

end DefinitionType

/-- How the children of a criteria node combine. -/
inductive Operator where
  /-- Every child holds. -/
  | all
  /-- Some child holds, or there is none. -/
  | any
  | unsupported (code : UInt8)
deriving DecidableEq

namespace Operator

/-- The code of an operator. -/
def code : Operator → UInt8
  | .all => 1
  | .any => 2
  | .unsupported code => code

/-- How operators are written. -/
def coding : Coding Operator where
  first := .all
  second := .any
  unsupported := .unsupported
  code := code
  code_first := rfl
  code_second := rfl
  code_unsupported _ := rfl
  exhaustive meaning := by cases meaning <;> simp

/-- The operator with a code. -/
def ofCode (number : UInt8) : Operator :=
  coding.ofCode number

/-- The name of an operator. -/
def name : Operator → String
  | .all => "And"
  | .any => "Or"
  | .unsupported code => unsupportedName code

end Operator

/-- What a package test requires of the packages of its name. -/
inductive ExistencePolicy where
  /-- The package has the name and is in one of the states, if any is listed. -/
  | atLeastOne
  /-- The package does not have the name. -/
  | noneExist
  | unsupported (code : UInt8)
deriving DecidableEq

namespace ExistencePolicy

/-- The code of a policy. -/
def code : ExistencePolicy → UInt8
  | .atLeastOne => 1
  | .noneExist => 2
  | .unsupported code => code

/-- How policies are written. -/
def coding : Coding ExistencePolicy where
  first := .atLeastOne
  second := .noneExist
  unsupported := .unsupported
  code := code
  code_first := rfl
  code_second := rfl
  code_unsupported _ := rfl
  exhaustive meaning := by cases meaning <;> simp

/-- The policy with a code. -/
def ofCode (number : UInt8) : ExistencePolicy :=
  coding.ofCode number

/-- The name of a policy. -/
def name : ExistencePolicy → String
  | .atLeastOne => "AtLeastOne"
  | .noneExist => "NoneExist"
  | .unsupported code => unsupportedName code

end ExistencePolicy

/-- How a package compares to the target of a state. -/
inductive EvrOperation where
  /-- Epoch, version and release are the same. -/
  | equals
  /-- The package is strictly older. -/
  | lessThan
  | unsupported (code : UInt8)
deriving DecidableEq

namespace EvrOperation

/-- The code of a comparison. -/
def code : EvrOperation → UInt8
  | .equals => 1
  | .lessThan => 2
  | .unsupported code => code

/-- How comparisons are written. -/
def coding : Coding EvrOperation where
  first := .equals
  second := .lessThan
  unsupported := .unsupported
  code := code
  code_first := rfl
  code_second := rfl
  code_unsupported _ := rfl
  exhaustive meaning := by cases meaning <;> simp

/-- The comparison with a code. -/
def ofCode (number : UInt8) : EvrOperation :=
  coding.ofCode number

/-- The name of a comparison. -/
def name : EvrOperation → String
  | .equals => "Equals"
  | .lessThan => "LessThan"
  | .unsupported code => unsupportedName code

end EvrOperation

/-! ## Feed records

What the feed says about definitions, their criteria and tests, and about the
repositories and platforms through which a host is reached. A snapshot lists
the records of every kind; nothing keeps a list from naming a record twice or
from referring to a record that is missing.
-/

/-! ### Records that are looked up as they are -/

/-- A module and one of its streams. -/
structure ModuleStream where
  module : String
  stream : String
deriving DecidableEq

/-- A criteria node: an operator over three lists of children. -/
structure Criteria where
  id : CriteriaId
  operator : Operator
  moduleTests : List ModuleTestId
  tests : List TestId
  children : List CriteriaId
deriving DecidableEq

/-- A test of a package. -/
structure PackageTest where
  id : TestId
  nameId : NameId
  policy : ExistencePolicy
  /-- The states one of which is required; none means any state. -/
  states : List StateId
deriving DecidableEq

/-- A state of a package: a target and how packages compare to it. -/
structure PackageState where
  id : StateId
  evr : Evr
  operation : EvrOperation
  /-- The admitted architectures; none means every architecture. -/
  architectures : List ArchitectureId
deriving DecidableEq

/-- A definition: the root of a criteria tree and what a match means. -/
structure Definition where
  id : DefinitionId
  type : DefinitionType
  criteriaId : CriteriaId
deriving DecidableEq

/-- A repository, which a host may have under a label. -/
structure Repository where
  id : RepositoryId
  /-- Label, which several repositories may share. -/
  label : String
  /-- Base architecture, if the repository is specific to one. -/
  basearch : Option String
  /-- Release version, if the repository is specific to one. -/
  releasever : Option String
deriving DecidableEq

/-! ### Records of a snapshot -/

/-- The name of a package or of an architecture. -/
structure NamedRecord (kind : IdKind) where
  id : Id kind
  name : String
deriving DecidableEq

/-- A repository and the platforms that it belongs to. -/
structure RepositoryRecord where
  repository : Repository
  platforms : List PlatformId
deriving DecidableEq

/-- A content set and the platforms that it belongs to. Its label is one under which a host
may have repositories. -/
structure ContentSetRecord where
  id : ContentSetId
  label : String
  platforms : List PlatformId
deriving DecidableEq

/-- A platform and the definitions that are about it. -/
structure PlatformRecord where
  id : PlatformId
  label : String
  definitions : List DefinitionId
deriving DecidableEq

/-- A definition and what it is linked to. -/
structure DefinitionRecord where
  definition : Definition
  /-- The vulnerabilities that a match reveals. -/
  cves : List String
  /-- The errata that ship the fix. -/
  errata : List ErratumId
  /-- The package names that are tested anywhere in the definition. -/
  names : List NameId
deriving DecidableEq

/-- A state whose target is still written out. -/
structure StateRecord where
  id : StateId
  /-- The target as text. -/
  evr : String
  operation : EvrOperation
  architectures : List ArchitectureId
deriving DecidableEq

/-- A module test: the stream that has to be active. -/
structure ModuleTestRecord where
  id : ModuleTestId
  required : ModuleStream
deriving DecidableEq

/-- An erratum and the vulnerabilities that it fixes. -/
structure ErratumRecord where
  id : ErratumId
  name : String
  cves : List String
deriving DecidableEq

/-- A dump of the whole feed. -/
structure Snapshot where
  lastChange : Instant
  packageNames : List (NamedRecord .packageName)
  architectures : List (NamedRecord .architecture)
  repositories : List RepositoryRecord
  contentSets : List ContentSetRecord
  platforms : List PlatformRecord
  definitions : List DefinitionRecord
  criteria : List Criteria
  tests : List PackageTest
  states : List StateRecord
  moduleTests : List ModuleTestRecord
  errata : List ErratumRecord
deriving DecidableEq

/-- The snapshot without any records. -/
def Snapshot.empty (lastChange : Instant) : Snapshot :=
  { lastChange, packageNames := [], architectures := [], repositories := [], contentSets := []
    platforms := [], definitions := [], criteria := [], tests := [], states := []
    moduleTests := [], errata := [] }

end CveTriage
