import CveTriage.Text
import CveTriage.Version

/-!
# Packages

A package string spells the identity of a package. Here it is read and written, and so is
the triple of epoch, version and release in it; a grammar says once more, without any
reading, which strings spell which identity.
-/

set_option autoImplicit false

namespace CveTriage

/-! ## Epoch, version and release

The part of a package identity that is ordered. It is written
`epoch:version-release`; when it is read the epoch may be missing, which means
zero, and may have a leading plus sign. The epoch ends at the first colon and
the release begins after the last dash, so a version may contain both.

The order is that of the epochs, then of the versions, then of the releases.
It is coarser than equality: `1.0-1` and `1.00-1` are different and neither
is older.
-/

/-- Why a text is no package identity. -/
inductive PackageError where
  | invalidNevra (input : String)
  | invalidEvr (input : String)
  /-- The epoch stands both before the name and before the version. -/
  | duplicateEpoch (input : String)
deriving DecidableEq

/-- The wording of the error. -/
def PackageError.message : PackageError → String
  | .invalidNevra input => "invalid package string: " ++ input
  | .invalidEvr input => "invalid evr string: " ++ input
  | .duplicateEpoch input => "package string has two epochs: " ++ input

/-- Epoch, version and release of a package. -/
structure Evr where
  /-- Outranks the version; zero when it is not written. -/
  epoch : UInt64
  version : String
  release : String
deriving DecidableEq

/-- The epoch that a run of digits stands for, if it is in range. -/
def epochOfDigits? (digits : List Char) : Option UInt64 :=
  (Text.Decimal.below? UInt64.size digits).map UInt64.ofNat

/-- Digits stand for the epoch that is their value. -/
theorem epochOfDigits?_eq_some_iff {digits : List Char} {epoch : UInt64} :
    epochOfDigits? digits = some epoch ↔
      Text.Decimal.isNumeral digits = true ∧ Text.Decimal.value digits = epoch.toNat := by
  unfold epochOfDigits? Text.Decimal.below?
  split
  next below =>
    rw [Option.map_some, Option.some.injEq, and_iff_right below.1]
    constructor
    · rintro rfl
      exact (UInt64.toNat_ofNat_of_lt' below.2).symm
    · intro same
      rw [same, UInt64.ofNat_toNat]
  next beyond =>
    simp only [Option.map_none, reduceCtorEq, false_iff]
    rintro ⟨numeral, same⟩
    exact beyond ⟨numeral, same ▸ epoch.toNat_lt_size⟩

/-- The digits of an epoch. -/
def epochDigits (epoch : UInt64) : List Char :=
  Text.Decimal.digits epoch.toNat

namespace Evr

/-- The order of two epoch, version and release triples. -/
protected def compare (left right : Evr) : Ordering :=
  ((Ord.compare left.epoch right.epoch).then (Version.compare left.version right.version)).then
    (Version.compare left.release right.release)

/-- The order of triples. -/
instance : Ord Evr := ⟨Evr.compare⟩

/-- Whether the first is strictly older than the second. -/
def isOlder (left right : Evr) : Bool :=
  left.compare right == .lt

/-- The epoch as it may stand before the colon: digits, perhaps after a plus sign. -/
def epochOfText? : List Char → Option UInt64
  | '+' :: digits => epochOfDigits? digits
  | digits => epochOfDigits? digits

/-- The version and the release on the two sides of the last dash. -/
def ofParts? (epoch : UInt64) (text : List Char) : Option Evr :=
  match Text.cutLast '-' text with
  | some (version, release) =>
    if version.isEmpty || release.isEmpty then none
    else some ⟨epoch, String.ofList version, String.ofList release⟩
  | none => none

/-- Reads `[epoch:]version-release` from its characters. -/
def ofChars? (text : List Char) : Option Evr :=
  match Text.cutFirst ':' text with
  | some (epochText, rest) => (epochOfText? epochText).bind (ofParts? · rest)
  | none => ofParts? 0 text

/-- Reads `[epoch:]version-release`. -/
def parse (input : String) : Except PackageError Evr :=
  match ofChars? input.toList with
  | some evr => .ok evr
  | none => .error (.invalidEvr input)

/-- The characters of `epoch:version-release`. -/
def toChars (evr : Evr) : List Char :=
  epochDigits evr.epoch ++ ':' :: evr.version.toList ++ '-' :: evr.release.toList

/-- Writes `epoch:version-release`. -/
def render (evr : Evr) : String :=
  String.ofList evr.toChars

end Evr

/-! ## Package identities

A package string is `name-[epoch:]version-release[.arch]`; the epoch may stand
before the name instead. Names may contain dashes, versions and releases may
not, and no part contains a colon. So the last two dashes separate name,
version and release, and a colon can only end an epoch (`Spelling.ofChars?`).

The last dot of the release cuts off an architecture when what follows is one
that is known and something stands before it (`splitArch`).
-/

/-- The architectures that may end a package string. -/
def knownArchitectures : List String :=
  ["noarch", "src", "nosrc", "x86_64", "i386", "i486", "i586", "i686", "athlon", "aarch64",
    "armv7hl", "armv7l", "armhfp", "ppc", "ppc64", "ppc64le", "ppc64p7", "s390", "s390x",
    "ia64", "riscv64"]

/-- The identity of a package. -/
structure Nevra where
  name : String
  /-- Outranks the version; zero when it is not written. -/
  epoch : UInt64
  version : String
  /-- Release of the package within one version, without the architecture. -/
  release : String
  /-- Architecture, empty when the package string has none. -/
  arch : String
deriving DecidableEq

namespace Nevra

/-- The parts of a package string as they are written. An epoch is a run of
digits, and both places for it are kept. -/
structure Spelling where
  /-- The epoch before the name. -/
  leadingEpoch : Option (List Char)
  name : List Char
  /-- The epoch before the version. -/
  innerEpoch : Option (List Char)
  version : List Char
  /-- The release with the architecture. -/
  release : List Char
deriving DecidableEq

/-- The optional epoch before a text that has no colon of its own. -/
def splitEpoch? (text : List Char) : Option (Option (List Char) × List Char) :=
  match Text.cutFirst ':' text with
  | none => some (none, text)
  | some (epoch, rest) => if Text.Decimal.isNumeral epoch then some (some epoch, rest) else none

/-- Whether the text can be a name: it is not empty and has no colon. -/
def isName (text : List Char) : Bool :=
  !text.isEmpty && !text.contains ':'

/-- Whether the text can be a version or a release: it is not empty and has
neither a colon nor a dash. -/
def isPlain (text : List Char) : Bool :=
  isName text && !text.contains '-'

/-- The parts of a package string, found from its last two dashes. -/
def Spelling.ofChars? (text : List Char) : Option Spelling := do
  let (front, release) ← Text.cutLast '-' text
  let (nameText, versionText) ← Text.cutLast '-' front
  let (leadingEpoch, name) ← splitEpoch? nameText
  let (innerEpoch, version) ← splitEpoch? versionText
  if isName name && isPlain version && isPlain release then
    some ⟨leadingEpoch, name, innerEpoch, version, release⟩
  else none

/-- The release and the architecture of a release text. -/
def splitArch (text : List Char) : List Char × List Char :=
  match Text.cutLast '.' text with
  | some (release, arch) =>
    if !release.isEmpty && knownArchitectures.contains (String.ofList arch) then (release, arch)
    else (text, [])
  | none => (text, [])

/-- The identity that the parts spell, once the epoch is known. -/
def ofSpelling (spelling : Spelling) (epoch : UInt64) : Nevra :=
  let (release, arch) := splitArch spelling.release
  { name := String.ofList spelling.name
    epoch
    version := String.ofList spelling.version
    release := String.ofList release
    arch := String.ofList arch }

/-- Reads a package string. -/
def parse (input : String) : Except PackageError Nevra :=
  match Spelling.ofChars? input.toList with
  | none => .error (.invalidNevra input)
  | some spelling =>
    match spelling.leadingEpoch, spelling.innerEpoch with
    | some _, some _ => .error (.duplicateEpoch input)
    | none, none => .ok (ofSpelling spelling 0)
    | some digits, none | none, some digits =>
      match epochOfDigits? digits with
      | some epoch => .ok (ofSpelling spelling epoch)
      | none => .error (.invalidNevra input)

/-- The part of the identity that is ordered. -/
def evr (nevra : Nevra) : Evr :=
  ⟨nevra.epoch, nevra.version, nevra.release⟩

/-- The characters of a package string. A zero epoch and an empty architecture
are left out. -/
def toChars (nevra : Nevra) : List Char :=
  nevra.name.toList ++ '-' ::
    ((if nevra.epoch = 0 then [] else epochDigits nevra.epoch ++ [':']) ++
      nevra.version.toList ++ '-' :: nevra.release.toList ++
      (if nevra.arch = "" then [] else '.' :: nevra.arch.toList))

/-- Writes a package string. -/
def render (nevra : Nevra) : String :=
  String.ofList nevra.toChars

end Nevra

/-! ## The grammar of package strings

Which texts spell which parts, said without a parser. An optional epoch is a
numeral and a colon; a name is a non-empty text without colons; versions and
releases are non-empty texts without colons and dashes.
-/

namespace Nevra

/-- The text of an optional epoch. -/
def epochText : Option (List Char) → List Char
  | none => []
  | some digits => digits ++ [':']

/-- The text that the parts make up. -/
def Spelling.toChars (spelling : Spelling) : List Char :=
  epochText spelling.leadingEpoch ++ spelling.name ++ '-' ::
    (epochText spelling.innerEpoch ++ spelling.version ++ '-' :: spelling.release)

/-- The parts have the shapes that the grammar allows. -/
structure Spelling.WellFormed (spelling : Spelling) : Prop where
  leadingEpoch : ∀ digits ∈ spelling.leadingEpoch, Text.Decimal.isNumeral digits
  innerEpoch : ∀ digits ∈ spelling.innerEpoch, Text.Decimal.isNumeral digits
  name : spelling.name ≠ [] ∧ ':' ∉ spelling.name
  version : spelling.version ≠ [] ∧ ':' ∉ spelling.version ∧ '-' ∉ spelling.version
  release : spelling.release ≠ [] ∧ ':' ∉ spelling.release ∧ '-' ∉ spelling.release

/-- The parts spell the text. -/
def Spelling.Spells (spelling : Spelling) (text : List Char) : Prop :=
  spelling.WellFormed ∧ text = spelling.toChars

end Nevra

end CveTriage
