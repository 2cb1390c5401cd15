import CveTriage.Evaluation.Evaluate
import CveTriage.Json.Value

/-!
# Records as JSON

Decoders of everything that is read from files, and encoders of everything that is handed
out.
-/

set_option autoImplicit false

namespace CveTriage

/-! ## Feed records as JSON

Decoders for every record of a snapshot, and encoders for the records that are
also handed out. Identifiers and codes are plain numbers. Lists may be absent,
which means that they are empty; everything else is required, except for the
architecture and the release of a repository and the label of a platform.

Encoders write every field, with the names in alphabetical order.
-/

/-! ### Numbers -/

/-- An identifier: a number of at most thirty-two bits. -/
def Id.ofJson? {kind : IdKind} (value : Json) : Option (Id kind) :=
  (value.toNatBelow? UInt32.size).map fun number => ⟨UInt32.ofNat number⟩

/-- The number of an identifier. -/
def Id.toJson {kind : IdKind} (id : Id kind) : Json :=
  .integer id.number.toNat

/-- A code: a number of at most eight bits. -/
def codeOfJson? (value : Json) : Option UInt8 :=
  (value.toNatBelow? UInt8.size).map UInt8.ofNat

/-- The number of a code. -/
def codeToJson (code : UInt8) : Json :=
  .integer code.toNat

/-- A list of identifiers. -/
def idsOfJson? {kind : IdKind} (value : Json) : Option (List (Id kind)) :=
  value.toList? Id.ofJson?

/-- The numbers of identifiers, in order. -/
def idsToJson {kind : IdKind} (ids : List (Id kind)) : Json :=
  .array (ids.map Id.toJson)

/-- A list of texts. -/
def textsOfJson? (value : Json) : Option (List String) :=
  value.toList? Json.toText?

/-- An instant, written with its offset from UTC. -/
def Instant.ofJson? (value : Json) : Option Instant :=
  value.toText?.bind Instant.parse?

/-- The text of an instant. -/
def Instant.toJson (instant : Instant) : Json :=
  .string instant.render

/-! ### Records that are looked up as they are -/

/-- The stream among the fields of a record; both names are required. -/
def ModuleStream.ofFields? (fields : List (String × Json)) : Option ModuleStream := do
  let module ← Json.required? fields "module_name" Json.toText?
  let stream ← Json.required? fields "module_stream" Json.toText?
  return ⟨module, stream⟩

/-- A stream that is a record of its own. -/
def ModuleStream.ofJson? (value : Json) : Option ModuleStream :=
  (value.fields? ["module_name", "module_stream"]).bind ModuleStream.ofFields?

/-- The record of a stream. -/
def ModuleStream.toJson (active : ModuleStream) : Json :=
  .record [("module_name", .string active.module), ("module_stream", .string active.stream)]

/-- A criteria node; each of the three lists of children may be absent. -/
def Criteria.ofJson? (value : Json) : Option Criteria := do
  let fields ← value.fields? ["id", "operator", "module_test_ids", "test_ids", "criteria_ids"]
  let id ← Json.required? fields "id" Id.ofJson?
  let operator ← Json.required? fields "operator" codeOfJson?
  let moduleTests ← Json.defaulted? fields "module_test_ids" idsOfJson? []
  let tests ← Json.defaulted? fields "test_ids" idsOfJson? []
  let children ← Json.defaulted? fields "criteria_ids" idsOfJson? []
  return ⟨id, .ofCode operator, moduleTests, tests, children⟩

/-- The record of a criteria node. -/
def Criteria.toJson (node : Criteria) : Json :=
  .record [("criteria_ids", idsToJson node.children), ("id", node.id.toJson),
    ("module_test_ids", idsToJson node.moduleTests), ("operator", codeToJson node.operator.code),
    ("test_ids", idsToJson node.tests)]

/-- A test; without states it takes any state. -/
def PackageTest.ofJson? (value : Json) : Option PackageTest := do
  let fields ← value.fields? ["id", "package_name_id", "check_existence", "state_ids"]
  let id ← Json.required? fields "id" Id.ofJson?
  let nameId ← Json.required? fields "package_name_id" Id.ofJson?
  let policy ← Json.required? fields "check_existence" codeOfJson?
  let states ← Json.defaulted? fields "state_ids" idsOfJson? []
  return ⟨id, nameId, .ofCode policy, states⟩

/-- The record of a test. -/
def PackageTest.toJson (test : PackageTest) : Json :=
  .record [("check_existence", codeToJson test.policy.code), ("id", test.id.toJson),
    ("package_name_id", test.nameId.toJson), ("state_ids", idsToJson test.states)]

/-! ### Records of a snapshot -/

/-- The name of a package or of an architecture. -/
def NamedRecord.ofJson? {kind : IdKind} (value : Json) : Option (NamedRecord kind) := do
  let fields ← value.fields? ["id", "name"]
  let id ← Json.required? fields "id" Id.ofJson?
  let name ← Json.required? fields "name" Json.toText?
  return ⟨id, name⟩

/-- A repository; `null` says of the architecture and the release what their absence says. -/
def RepositoryRecord.ofJson? (value : Json) : Option RepositoryRecord := do
  let fields ← value.fields? ["id", "label", "basearch", "releasever", "platform_ids"]
  let id ← Json.required? fields "id" Id.ofJson?
  let label ← Json.required? fields "label" Json.toText?
  let basearch ← Json.defaulted? fields "basearch" (Json.toNullable? Json.toText?) none
  let releasever ← Json.defaulted? fields "releasever" (Json.toNullable? Json.toText?) none
  let platforms ← Json.defaulted? fields "platform_ids" idsOfJson? []
  return ⟨⟨id, label, basearch, releasever⟩, platforms⟩

/-- A content set. -/
def ContentSetRecord.ofJson? (value : Json) : Option ContentSetRecord := do
  let fields ← value.fields? ["id", "label", "platform_ids"]
  let id ← Json.required? fields "id" Id.ofJson?
  let label ← Json.required? fields "label" Json.toText?
  let platforms ← Json.defaulted? fields "platform_ids" idsOfJson? []
  return ⟨id, label, platforms⟩

/-- A platform; an absent label is the empty one. -/
def PlatformRecord.ofJson? (value : Json) : Option PlatformRecord := do
  let fields ← value.fields? ["id", "label", "definition_ids"]
  let id ← Json.required? fields "id" Id.ofJson?
  let label ← Json.defaulted? fields "label" Json.toText? ""
  let definitions ← Json.defaulted? fields "definition_ids" idsOfJson? []
  return ⟨id, label, definitions⟩

/-- A definition and what it is linked to. -/
def DefinitionRecord.ofJson? (value : Json) : Option DefinitionRecord := do
  let fields ← value.fields?
    ["id", "type", "criteria_id", "cves", "errata_ids", "package_name_ids"]
  let id ← Json.required? fields "id" Id.ofJson?
  let type ← Json.required? fields "type" codeOfJson?
  let criteriaId ← Json.required? fields "criteria_id" Id.ofJson?
  let cves ← Json.defaulted? fields "cves" textsOfJson? []
  let errata ← Json.defaulted? fields "errata_ids" idsOfJson? []
  let names ← Json.defaulted? fields "package_name_ids" idsOfJson? []
  return ⟨⟨id, .ofCode type, criteriaId⟩, cves, errata, names⟩

/-- A state; its target stays a text and may be unreadable. -/
def StateRecord.ofJson? (value : Json) : Option StateRecord := do
  let fields ← value.fields? ["id", "evr", "operation", "arch_ids"]
  let id ← Json.required? fields "id" Id.ofJson?
  let evr ← Json.required? fields "evr" Json.toText?
  let operation ← Json.required? fields "operation" codeOfJson?
  let architectures ← Json.defaulted? fields "arch_ids" idsOfJson? []
  return ⟨id, evr, .ofCode operation, architectures⟩

/-- How many arrays and objects may be open inside an unknown field of a
module test; a reader keeps such a field until the whole record is read. -/
def keptDepth : Nat := 124

/-- Whether a value can be kept: it denotes something and is not nested too deeply. -/
def Json.isKeepable (value : Json) : Bool :=
  value.isDenoting && value.depth ≤ keptDepth

/-- A module test. The required stream stands beside the identifier, so the
record has to be an object, and all its other fields have to denote something. -/
def ModuleTestRecord.ofJson? (value : Json) : Option ModuleTestRecord := do
  let members ← value.toMembers?
  let fields ← value.namedFields? ["id", "module_name", "module_stream"]
  let id ← Json.required? fields "id" Id.ofJson?
  let required ← ModuleStream.ofFields? fields
  if members.all fun member => member.2.isKeepable then some ⟨id, required⟩ else none

/-- An erratum; the vulnerabilities that it fixes may be absent. -/
def ErratumRecord.ofJson? (value : Json) : Option ErratumRecord := do
  let fields ← value.fields? ["id", "name", "cves"]
  let id ← Json.required? fields "id" Id.ofJson?
  let name ← Json.required? fields "name" Json.toText?
  let cves ← Json.defaulted? fields "cves" textsOfJson? []
  return ⟨id, name, cves⟩

/-- A list of records that may be absent. -/
def recordsOf? {α : Type} (fields : List (String × Json)) (name : String)
    (decode : Json → Option α) : Option (List α) :=
  Json.defaulted? fields name (Json.toList? decode) []

/-- A snapshot; only the time of the feed is required. -/
def Snapshot.ofJson? (value : Json) : Option Snapshot := do
  let fields ← value.fields?
    ["last_change", "package_names", "arches", "repos", "content_sets", "platforms",
      "definitions", "criteria", "tests", "states", "module_tests", "errata"]
  let lastChange ← Json.required? fields "last_change" Instant.ofJson?
  let packageNames ← recordsOf? fields "package_names" NamedRecord.ofJson?
  let architectures ← recordsOf? fields "arches" NamedRecord.ofJson?
  let repositories ← recordsOf? fields "repos" RepositoryRecord.ofJson?
  let contentSets ← recordsOf? fields "content_sets" ContentSetRecord.ofJson?
  let platforms ← recordsOf? fields "platforms" PlatformRecord.ofJson?
  let definitions ← recordsOf? fields "definitions" DefinitionRecord.ofJson?
  let criteria ← recordsOf? fields "criteria" Criteria.ofJson?
  let tests ← recordsOf? fields "tests" PackageTest.ofJson?
  let states ← recordsOf? fields "states" StateRecord.ofJson?
  let moduleTests ← recordsOf? fields "module_tests" ModuleTestRecord.ofJson?
  let errata ← recordsOf? fields "errata" ErratumRecord.ofJson?
  return { lastChange, packageNames, architectures, repositories, contentSets, platforms
           definitions, criteria, tests, states, moduleTests, errata }

/-! ## Requests and updates as JSON

Of a request only the packages are required. The repositories, the
architecture and the release may be absent or `null`, which means the same;
absent modules are none.

Updates are an object from package strings to lists of updates. Where a package
string occurs twice, its last list counts, but all lists have to be well
formed.
-/

/-- A request; only the packages are required. -/
def Request.ofJson? (value : Json) : Option Request := do
  let fields ← value.fields?
    ["package_list", "repository_list", "basearch", "releasever", "modules_list"]
  let packages ← Json.required? fields "package_list" textsOfJson?
  let repositories ← Json.defaulted? fields "repository_list" (Json.toNullable? textsOfJson?) none
  let basearch ← Json.defaulted? fields "basearch" (Json.toNullable? Json.toText?) none
  let releasever ← Json.defaulted? fields "releasever" (Json.toNullable? Json.toText?) none
  let modules ← recordsOf? fields "modules_list" ModuleStream.ofJson?
  return ⟨packages, repositories, basearch, releasever, modules⟩

/-- The record of a request, with `null` for what is not sent. -/
def Request.toJson (request : Request) : Json :=
  .record [("basearch", .optional .string request.basearch),
    ("modules_list", .array (request.modules.map ModuleStream.toJson)),
    ("package_list", .strings request.packages),
    ("releasever", .optional .string request.releasever),
    ("repository_list", .optional .strings request.repositories)]

/-- An update; its repository may be absent or `null`. -/
def AvailableUpdate.ofJson? (value : Json) : Option AvailableUpdate := do
  let fields ← value.fields? ["package", "erratum", "repository"]
  let package ← Json.required? fields "package" Json.toText?
  let erratum ← Json.required? fields "erratum" Json.toText?
  let repository ← Json.defaulted? fields "repository" (Json.toNullable? Json.toText?) none
  return ⟨package, erratum, repository⟩

/-- The record of an update. -/
def AvailableUpdate.toJson (update : AvailableUpdate) : Json :=
  .record [("erratum", .string update.erratum), ("package", .string update.package),
    ("repository", .optional .string update.repository)]

/-- Updates by package string; of lists for one string the last one counts. -/
def UpdateList.ofJson? (value : Json) : Option UpdateList := do
  let members ← value.toMembers?
  let entries ← members.mapM fun member =>
    (member.2.toList? AvailableUpdate.ofJson?).map (member.1, ·)
  return entries.foldl (fun updates entry => updates.insert entry.1 entry.2) ∅

/-- The object with the list of every package string, in ascending order. -/
def UpdateList.toJson (updates : UpdateList) : Json :=
  .record (updates.toList.map fun entry => (entry.1, .array (entry.2.map AvailableUpdate.toJson)))

/-! ## Reports as JSON

The record of a report has a list for every bucket and the time of the feed.
All its fields are required, and so are those of a detail.
-/

/-- A detail; all three fields are required. -/
def Detail.ofJson? (value : Json) : Option Detail := do
  let fields ← value.fields? ["cve", "affected_packages", "errata"]
  let cve ← Json.required? fields "cve" Json.toText?
  let affectedPackages ← Json.required? fields "affected_packages" textsOfJson?
  let errata ← Json.required? fields "errata" textsOfJson?
  return ⟨cve, affectedPackages.toArray, errata.toArray⟩

/-- The record of a detail. -/
def Detail.toJson (detail : Detail) : Json :=
  .record [("affected_packages", .strings detail.affectedPackages.toList),
    ("cve", .string detail.cve), ("errata", .strings detail.errata.toList)]

namespace Report

variable {α : Type}

/-- A report whose entries are read by the given decoder. -/
def ofJson? (decode : Json → Option α) (value : Json) : Option (Report α) := do
  let fields ← value.fields?
    ["cve_list", "manually_fixable_cve_list", "unpatched_cve_list", "last_change"]
  let fixable ← Json.required? fields "cve_list" (Json.toList? decode)
  let manuallyFixable ← Json.required? fields "manually_fixable_cve_list" (Json.toList? decode)
  let unpatched ← Json.required? fields "unpatched_cve_list" (Json.toList? decode)
  let lastChange ← Json.required? fields "last_change" Instant.ofJson?
  return ⟨fixable, manuallyFixable, unpatched, lastChange⟩

/-- The record of a report whose entries are written by the given encoder. -/
def toJson (encode : α → Json) (report : Report α) : Json :=
  .record [("cve_list", .array (report.fixable.map encode)),
    ("last_change", report.lastChange.toJson),
    ("manually_fixable_cve_list", .array (report.manuallyFixable.map encode)),
    ("unpatched_cve_list", .array (report.unpatched.map encode))]

end Report

end CveTriage
