import CveTriage.Proofs.Codec.Record
import CveTriage.Proofs.Index.Records

/-!
# Records survive being written and read

Decoders fill in what is absent and skip what they do not know, encoders write every field and
nothing else. What an encoder writes is one way to spell the record out; another one has the
fields in another order (`Spelled`). From the text of any spelling, in either layout, the record
itself is read (`records_survive_text`). So a text with defaults, unknown fields or an order of
its own is tidied up at once, since the record that is read from it is read again from any
spelling.

An operator or a policy that is kept as a code is read back exactly if the code has no meaning
(`Genuine`). No other ones are ever read.
-/

set_option autoImplicit false

namespace CveTriage

open Json (IsArray IsRecord Denotes denotes_array denotes_code denotes_id denotes_ids
  denotes_optional denotes_optional_string denotes_record denotes_string denotes_strings
  isArray_map)
open Std (ExtTreeMap)

/-! ## Texts -/

section Texts

variable {α : Type} {decode : Json → Option α} {encode : α → Json} {spells : α → Json → Prop}
  {readable : α → Prop}

/-- Reads a text as a value. -/
def readText? (decode : Json → Option α) (text : String) : Option α :=
  (Json.parse? text).bind decode

/-- What is written of a value is read back, if any text is read as the value. -/
structure SurvivesText (decode : Json → Option α) (encode : α → Json)
    (spells : α → Json → Prop) (readable : α → Prop) : Prop where
  /-- The encoder spells the value out. -/
  encoded : ∀ value, spells value (encode value)
  /-- A text that spells a value out is read as the value, if the value can be read. -/
  readBack : ∀ value json text, spells value json → json.Writes text →
    (readText? decode text = some value ↔ readable value)
  /-- What has been read from a text, however untidy, is read again from its spelling. -/
  settled : ∀ text value, readText? decode text = some value →
    ∀ json again, spells value json → json.Writes again → readText? decode again = some value

theorem readText?_of_denotes {kind : Json → Prop} {held : α} (denotes : Denotes decode kind held)
    {json : Json} {text : String} (ofKind : kind json) (writes : json.Writes text) :
    readText? decode text = some held := by
  obtain ⟨plain, decoded⟩ := denotes json ofKind
  rw [readText?, plain.parse?_of_writes writes, Option.bind_some, decoded]

/-- A decoder may change values, but only those that are never read. -/
theorem SurvivesText.of_denotes {settle : α → α} (encoded : ∀ value, spells value (encode value))
    (denotes : ∀ value, Denotes decode (spells value) (settle value))
    (settles : ∀ value, settle value = value ↔ readable value)
    (read : ∀ json value, decode json = some value → readable value) :
    SurvivesText decode encode spells readable := by
  have readBack (value : α) (json : Json) (text : String) (ofKind : spells value json)
      (writes : json.Writes text) : readText? decode text = some value ↔ readable value := by
    rw [readText?_of_denotes (denotes value) ofKind writes, Option.some_inj, settles]
  refine ⟨encoded, readBack, fun text value found json again ofKind writes => ?_⟩
  obtain ⟨origin, -, decoded⟩ := Option.bind_eq_some_iff.1 found
  exact (readBack value json again ofKind writes).2 (read origin value decoded)

theorem SurvivesText.of_denotes_self (encoded : ∀ value, spells value (encode value))
    (denotes : ∀ value, Denotes decode (spells value) value) :
    SurvivesText decode encode spells fun _ => True :=
  .of_denotes encoded denotes (fun _ => ⟨fun _ => trivial, fun _ => rfl⟩) fun _ _ _ => trivial

end Texts

/-! ## Requests -/

namespace ModuleStream

/-- All fields of a module stream. -/
def Spelled (active : ModuleStream) : Json → Prop :=
  IsRecord [("module_name", (· = .string active.module)),
    ("module_stream", (· = .string active.stream))]

theorem spelled_toJson (active : ModuleStream) : active.Spelled active.toJson := by
  refine ⟨_, rfl, ?_, ?_⟩
  · exact .refl _
  · simp

theorem denotes (active : ModuleStream) : Denotes ofJson? active.Spelled active := by
  have module := denotes_string active.module
  have stream := denotes_string active.stream
  refine denotes_record (by simp) ?_ fun members holds => ?_
  · simp only [List.forall_mem_cons]
    exact ⟨module.plain, stream.plain, nofun⟩
  · simp only [ofFields?, holds.required?_eq (.head _) module,
      holds.required?_eq (.tail _ (.head _)) stream]
    rfl

end ModuleStream

namespace Request

/-- All fields of a request. -/
def Spelled (request : Request) : Json → Prop :=
  IsRecord [("package_list", (· = .strings request.packages)),
    ("repository_list", (· = .optional .strings request.repositories)),
    ("basearch", (· = .optional .string request.basearch)),
    ("releasever", (· = .optional .string request.releasever)),
    ("modules_list", IsArray ModuleStream.Spelled request.modules)]

theorem spelled_toJson (request : Request) : request.Spelled request.toJson := by
  have modules := isArray_map ModuleStream.spelled_toJson request.modules
  refine ⟨_, rfl, ?_, ?_⟩
  · simp only [List.map_cons, List.map_nil]
    decide
  · simp [modules]

theorem denotes (request : Request) : Denotes ofJson? request.Spelled request := by
  have packages := denotes_strings request.packages
  have repositories := denotes_optional denotes_strings (fun _ => nofun) request.repositories
  have basearch := denotes_optional_string request.basearch
  have releasever := denotes_optional_string request.releasever
  have modules := denotes_array ModuleStream.denotes request.modules
  refine denotes_record (by simp) ?_ fun members holds => ?_
  · simp only [List.forall_mem_cons]
    exact ⟨packages.plain, repositories.plain, basearch.plain, releasever.plain, modules.plain,
      nofun⟩
  · simp only [recordsOf?, holds.required?_eq (.head _) packages,
      holds.defaulted?_eq (.tail _ (.head _)) repositories,
      holds.defaulted?_eq (.tail _ (.tail _ (.head _))) basearch,
      holds.defaulted?_eq (.tail _ (.tail _ (.tail _ (.head _)))) releasever,
      holds.defaulted?_eq (.tail _ (.tail _ (.tail _ (.tail _ (.head _))))) modules]
    rfl

end Request

/-! ## Updates -/

namespace AvailableUpdate

/-- All fields of an update. -/
def Spelled (update : AvailableUpdate) : Json → Prop :=
  IsRecord [("package", (· = .string update.package)), ("erratum", (· = .string update.erratum)),
    ("repository", (· = .optional .string update.repository))]

theorem spelled_toJson (update : AvailableUpdate) : update.Spelled update.toJson := by
  refine ⟨_, rfl, ?_, ?_⟩
  · simp only [List.map_cons, List.map_nil]
    decide
  · simp

theorem denotes (update : AvailableUpdate) : Denotes ofJson? update.Spelled update := by
  have package := denotes_string update.package
  have erratum := denotes_string update.erratum
  have repository := denotes_optional_string update.repository
  refine denotes_record (by simp) ?_ fun members holds => ?_
  · simp only [List.forall_mem_cons]
    exact ⟨package.plain, erratum.plain, repository.plain, nofun⟩
  · simp only [holds.required?_eq (.head _) package,
      holds.required?_eq (.tail _ (.head _)) erratum,
      holds.defaulted?_eq (.tail _ (.tail _ (.head _))) repository]
    rfl

end AvailableUpdate

/-! ## Evidence -/

namespace Detail

/-- All fields of a detail. -/
def Spelled (detail : Detail) : Json → Prop :=
  IsRecord [("cve", (· = .string detail.cve)),
    ("affected_packages", (· = .strings detail.affectedPackages.toList)),
    ("errata", (· = .strings detail.errata.toList))]

theorem spelled_toJson (detail : Detail) : detail.Spelled detail.toJson := by
  refine ⟨_, rfl, ?_, ?_⟩
  · simp only [List.map_cons, List.map_nil]
    decide
  · simp

theorem denotes (detail : Detail) : Denotes ofJson? detail.Spelled detail := by
  have cve := denotes_string detail.cve
  have packages := denotes_strings detail.affectedPackages.toList
  have errata := denotes_strings detail.errata.toList
  refine denotes_record (by simp) ?_ fun members holds => ?_
  · simp only [List.forall_mem_cons]
    exact ⟨cve.plain, packages.plain, errata.plain, nofun⟩
  · simp only [holds.required?_eq (.head _) cve,
      holds.required?_eq (.tail _ (.head _)) packages,
      holds.required?_eq (.tail _ (.tail _ (.head _))) errata]
    rfl

end Detail

/-! ## Criteria and tests -/

/-- A meaning that is kept as a code has a code that means nothing else. -/
def Genuine {κ : Type} (ofCode unsupported : UInt8 → κ) (meaning : κ) : Prop :=
  ∀ code, meaning = unsupported code → ofCode code = unsupported code

theorem Coding.genuine_iff {κ : Type} (coding : Coding κ) (meaning : κ) :
    coding.ofCode (coding.code meaning) = meaning ↔
      Genuine coding.ofCode coding.unsupported meaning :=
  coding.ofCode_code_iff meaning

/-- What is read from a code is genuine. -/
theorem Coding.genuine_ofCode {κ : Type} (coding : Coding κ) (code : UInt8) :
    Genuine coding.ofCode coding.unsupported (coding.ofCode code) :=
  (coding.genuine_iff _).1 (congrArg coding.ofCode (coding.code_ofCode code))

namespace Criteria

/-- All fields of a node. -/
def Spelled (node : Criteria) : Json → Prop :=
  IsRecord [("id", (· = node.id.toJson)), ("operator", (· = codeToJson node.operator.code)),
    ("module_test_ids", (· = idsToJson node.moduleTests)),
    ("test_ids", (· = idsToJson node.tests)), ("criteria_ids", (· = idsToJson node.children))]

theorem spelled_toJson (node : Criteria) : node.Spelled node.toJson := by
  refine ⟨_, rfl, ?_, ?_⟩
  · simp only [List.map_cons, List.map_nil]
    decide
  · simp

theorem denotes (node : Criteria) :
    Denotes ofJson? node.Spelled { node with operator := .ofCode node.operator.code } := by
  have id := denotes_id node.id
  have operator := denotes_code node.operator.code
  have moduleTests := denotes_ids node.moduleTests
  have tests := denotes_ids node.tests
  have children := denotes_ids node.children
  refine denotes_record (by simp) ?_ fun members holds => ?_
  · simp only [List.forall_mem_cons]
    exact ⟨id.plain, operator.plain, moduleTests.plain, tests.plain, children.plain, nofun⟩
  · simp only [holds.required?_eq (.head _) id,
      holds.required?_eq (.tail _ (.head _)) operator,
      holds.defaulted?_eq (.tail _ (.tail _ (.head _))) moduleTests,
      holds.defaulted?_eq (.tail _ (.tail _ (.tail _ (.head _)))) tests,
      holds.defaulted?_eq (.tail _ (.tail _ (.tail _ (.tail _ (.head _))))) children]
    rfl

theorem genuine_of_ofJson? {json : Json} {node : Criteria} (read : ofJson? json = some node) :
    Genuine .ofCode .unsupported node.operator := by
  simp only [ofJson?, Option.bind_eq_bind, Option.bind_eq_some_iff] at read
  obtain ⟨_, _, _, _, code, _, _, _, _, _, _, _, ⟨⟩⟩ := read
  exact Operator.coding.genuine_ofCode code

end Criteria

namespace PackageTest

/-- All fields of a test. -/
def Spelled (test : PackageTest) : Json → Prop :=
  IsRecord [("id", (· = test.id.toJson)), ("package_name_id", (· = test.nameId.toJson)),
    ("check_existence", (· = codeToJson test.policy.code)),
    ("state_ids", (· = idsToJson test.states))]

theorem spelled_toJson (test : PackageTest) : test.Spelled test.toJson := by
  refine ⟨_, rfl, ?_, ?_⟩
  · simp only [List.map_cons, List.map_nil]
    decide
  · simp

theorem denotes (test : PackageTest) :
    Denotes ofJson? test.Spelled { test with policy := .ofCode test.policy.code } := by
  have id := denotes_id test.id
  have nameId := denotes_id test.nameId
  have policy := denotes_code test.policy.code
  have states := denotes_ids test.states
  refine denotes_record (by simp) ?_ fun members holds => ?_
  · simp only [List.forall_mem_cons]
    exact ⟨id.plain, nameId.plain, policy.plain, states.plain, nofun⟩
  · simp only [holds.required?_eq (.head _) id, holds.required?_eq (.tail _ (.head _)) nameId,
      holds.required?_eq (.tail _ (.tail _ (.head _))) policy,
      holds.defaulted?_eq (.tail _ (.tail _ (.tail _ (.head _)))) states]
    rfl

theorem genuine_of_ofJson? {json : Json} {test : PackageTest} (read : ofJson? json = some test) :
    Genuine .ofCode .unsupported test.policy := by
  simp only [ofJson?, Option.bind_eq_bind, Option.bind_eq_some_iff] at read
  obtain ⟨_, _, _, _, _, _, code, _, _, _, ⟨⟩⟩ := read
  exact ExistencePolicy.coding.genuine_ofCode code

end PackageTest

/-! ## Lists of updates -/

namespace UpdateList

theorem nodup_names (updates : UpdateList) : (updates.toList.map Prod.fst).Nodup := by
  rw [List.nodup_iff_pairwise_ne, List.pairwise_map]
  refine ExtTreeMap.distinct_keys_toList.imp fun distinct same => ?_
  exact distinct (Std.LawfulEqCmp.compare_eq_iff_eq.2 same)

/-- A table of updates is made up of its entries. -/
theorem tableOf_toList (updates : UpdateList) :
    tableOf Prod.fst Prod.snd updates.toList = updates := by
  refine ExtTreeMap.ext_getElem? fun package => Option.ext fun offered => ?_
  rw [getElem?_tableOf, ← ExtTreeMap.mem_toList_iff_getElem?_eq_some]
  simp [lastWith?_eq_some_iff_of_nodup updates.nodup_names]

/-- A field for every package, with all fields of its updates. -/
def Spelled (updates : UpdateList) : Json → Prop :=
  IsRecord (updates.toList.map fun entry => (entry.1, IsArray AvailableUpdate.Spelled entry.2))

theorem spelled_toJson (updates : UpdateList) : updates.Spelled updates.toJson := by
  refine ⟨_, rfl, ?_, ?_⟩
  · rw [List.map_map, List.map_map]
    exact .refl _
  · intro field given content among
    obtain ⟨entry, listed, rfl⟩ := List.mem_map.1 given
    obtain ⟨written, writtenListed, same⟩ := List.mem_map.1 among
    obtain ⟨sameName, rfl⟩ := Prod.mk.inj same
    rw [List.inj_on_of_nodup_map updates.nodup_names writtenListed listed sameName]
    exact isArray_map AvailableUpdate.spelled_toJson entry.2

/-- Members for exactly the packages of the updates stand for the entries of the updates. -/
theorem entries_perm {updates : UpdateList} {members : List (String × Json)}
    (names : (members.map Prod.fst).Perm (updates.toList.map Prod.fst)) :
    (members.map fun member => (member.1, updates[member.1]?.getD [])).Perm updates.toList := by
  have listed : updates.toList.map (fun entry => (entry.1, updates[entry.1]?.getD [])) =
      updates.toList := by
    refine (List.map_congr_left fun entry member => ?_).trans (List.map_id _)
    rw [ExtTreeMap.mem_toList_iff_getElem?_eq_some.1 member]
    rfl
  have mapped := names.map fun package => (package, updates[package]?.getD [])
  rw [List.map_map, List.map_map] at mapped
  exact mapped.trans (.of_eq listed)

theorem denotes (updates : UpdateList) : Denotes ofJson? updates.Spelled updates := by
  intro json spelled
  refine ⟨spelled.plain ?_, ?_⟩
  · intro field given
    obtain ⟨entry, -, rfl⟩ := List.mem_map.1 given
    exact (denotes_array AvailableUpdate.denotes entry.2).plain
  · obtain ⟨members, rfl, names, contents⟩ := spelled
    rw [List.map_map] at names
    have decoded : ∀ member ∈ members,
        (member.2.toList? AvailableUpdate.ofJson?).map (member.1, ·) =
          some (member.1, updates[member.1]?.getD []) := by
      intro member among
      obtain ⟨entry, listed, same⟩ :=
        List.mem_map.1 (names.mem_iff.1 (List.mem_map_of_mem (f := Prod.fst) among))
      have named : entry.1 = member.1 := same
      have array := contents _ (List.mem_map_of_mem listed) member.2 (by rw [named]; exact among)
      rw [(denotes_array AvailableUpdate.denotes entry.2 member.2 array).2, ← named,
        ExtTreeMap.mem_toList_iff_getElem?_eq_some.1 listed]
      rfl
    calc ofJson? (.record members)
        = some (tableOf Prod.fst Prod.snd
            (members.map fun member => (member.1, updates[member.1]?.getD []))) := by
          simp only [ofJson?, Json.toMembers?_record, Option.bind_eq_bind, Option.bind_some,
            Json.mapM_eq_some_map decoded]
          rfl
      _ = some (tableOf Prod.fst Prod.snd updates.toList) := by
          rw [tableOf_perm updates.nodup_names (entries_perm names).symm]
      _ = some updates := by
          rw [tableOf_toList]

end UpdateList

/-- **Records survive being written and read.** -/
theorem records_survive_text :
    SurvivesText Request.ofJson? Request.toJson Request.Spelled (fun _ => True) ∧
    SurvivesText ModuleStream.ofJson? ModuleStream.toJson ModuleStream.Spelled (fun _ => True) ∧
    SurvivesText AvailableUpdate.ofJson? AvailableUpdate.toJson AvailableUpdate.Spelled
      (fun _ => True) ∧
    SurvivesText UpdateList.ofJson? UpdateList.toJson UpdateList.Spelled (fun _ => True) ∧
    SurvivesText Detail.ofJson? Detail.toJson Detail.Spelled (fun _ => True) ∧
    SurvivesText Criteria.ofJson? Criteria.toJson Criteria.Spelled
      (fun node => Genuine .ofCode .unsupported node.operator) ∧
    SurvivesText PackageTest.ofJson? PackageTest.toJson PackageTest.Spelled
      (fun test => Genuine .ofCode .unsupported test.policy) := by
  refine ⟨.of_denotes_self Request.spelled_toJson Request.denotes,
    .of_denotes_self ModuleStream.spelled_toJson ModuleStream.denotes,
    .of_denotes_self AvailableUpdate.spelled_toJson AvailableUpdate.denotes,
    .of_denotes_self UpdateList.spelled_toJson UpdateList.denotes,
    .of_denotes_self Detail.spelled_toJson Detail.denotes, ?_, ?_⟩
  · refine .of_denotes Criteria.spelled_toJson Criteria.denotes (fun node => ?_)
      fun _ _ => Criteria.genuine_of_ofJson?
    refine Iff.trans ?_ (Operator.coding.genuine_iff node.operator)
    exact ⟨congrArg Criteria.operator,
      congrArg fun operator => ({ node with operator } : Criteria)⟩
  · refine .of_denotes PackageTest.spelled_toJson PackageTest.denotes (fun test => ?_)
      fun _ _ => PackageTest.genuine_of_ofJson?
    refine Iff.trans ?_ (ExistencePolicy.coding.genuine_iff test.policy)
    exact ⟨congrArg PackageTest.policy,
      congrArg fun policy => ({ test with policy } : PackageTest)⟩

/-- An untidy text, of which only the packages are left. -/
example :
    readText? Request.ofJson?
        "\x7b \"color\" : [1.5], \"basearch\": null, \"package_list\": [\"a\"]\x7d" =
      some ⟨["a"], none, none, none, []⟩ := by
  decide +kernel

/-- The code 1 means something, so it is not read as a bare code. -/
example :
    readText? Criteria.ofJson? (Criteria.toJson ⟨⟨7⟩, .unsupported 1, [], [], []⟩).compact =
      some ⟨⟨7⟩, .all, [], [], []⟩ := by
  decide +kernel

end CveTriage
