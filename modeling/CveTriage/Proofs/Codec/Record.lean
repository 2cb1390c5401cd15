import CveTriage.Codec
import CveTriage.Proofs.Json.Layout
import Mathlib.Data.List.Forall2
import Mathlib.Data.List.Perm.Basic

/-!
# Reading the fields of a record

A record is written as an object with all its fields and no others, in any order
(`IsRecord`). A decoder looks up its fields by their names. So from such an object it gets
the content of every field, and none of its defaults comes in (`IsRecord.exists_fields`).

What is said of a field is what it denotes. Its content is plain, so that it is read back from
a text, and the decoder of the field maps it to the value (`Denotes`).
-/

set_option autoImplicit false

namespace CveTriage.Json

variable {α β : Type} {value : Json}

/-! ## Contents -/

/-- Every content of the kind is plain and decodes to the value. -/
def Denotes (decode : Json → Option α) (kind : Json → Prop) (value : α) : Prop :=
  ∀ content, kind content → content.Plain ∧ decode content = some value

/-- An array of items, each of which is of the kind of the value in its place. -/
def IsArray (kind : β → Json → Prop) (values : List β) (value : Json) : Prop :=
  ∃ items, value = .array items ∧ List.Forall₂ kind values items

theorem Denotes.plain {decode : Json → Option α} {kind : Json → Prop} {held : α}
    (denotes : Denotes decode kind held) (content : Json) (ofKind : kind content) :
    content.Plain :=
  (denotes content ofKind).1

theorem isArray_map {kind : β → Json → Prop} {encode : β → Json}
    (each : ∀ value, kind value (encode value)) (values : List β) :
    IsArray kind values (.array (values.map encode)) := by
  refine ⟨_, rfl, ?_⟩
  rw [List.forall₂_map_right_iff]
  exact List.forall₂_same.2 fun value _ => each value

theorem denotes_array {decode : Json → Option β} {kind : β → Json → Prop}
    (each : ∀ value, Denotes decode (kind value) value) (values : List β) :
    Denotes (toList? decode) (IsArray kind values) values := by
  rintro _ ⟨items, rfl, matching⟩
  have read : (∀ item ∈ items, item.Plain) ∧ items.mapM decode = some values := by
    induction matching with
    | nil => simp
    | @cons value item values items first _ ih =>
        obtain ⟨plain, decoded⟩ := each value item first
        obtain ⟨plainRest, decodedRest⟩ := ih
        exact ⟨List.forall_mem_cons.2 ⟨plain, plainRest⟩, by simp [decoded, decodedRest]⟩
  exact ⟨.array read.1, read.2⟩

theorem denotes_map {decode : Json → Option β} {encode : β → Json}
    (each : ∀ value, Denotes decode (· = encode value) value) (values : List β) :
    Denotes (toList? decode) (· = .array (values.map encode)) values := by
  rintro _ rfl
  exact denotes_array each values _
    (@isArray_map _ (fun value => (· = encode value)) encode (fun _ => rfl) values)

theorem denotes_string (text : String) : Denotes toText? (· = .string text) text := by
  rintro _ rfl
  exact ⟨.string text, rfl⟩

theorem denotes_strings (texts : List String) : Denotes textsOfJson? (· = .strings texts) texts :=
  denotes_map denotes_string texts

/-- A number in range denotes what a decoder makes of it. -/
theorem denotes_number {bound number : Nat} {make : Nat → α} (below : number < bound)
    (small : bound ≤ Numeral.bound) :
    Denotes (fun value => (toNatBelow? bound value).map make) (· = .integer number)
      (make number) := by
  rintro _ rfl
  have read : toNatBelow? bound (.integer number) = some number := if_pos below
  refine ⟨.integer ?_, congrArg (Option.map make) read⟩
  rw [Int.natAbs_natCast]
  exact Nat.lt_of_lt_of_le below small

theorem denotes_id {kind : IdKind} (id : Id kind) : Denotes Id.ofJson? (· = id.toJson) id := by
  have read := @denotes_number (Id kind) UInt32.size _ (fun number => ⟨UInt32.ofNat number⟩)
    id.number.toNat_lt (by decide)
  rw [UInt32.ofNat_toNat] at read
  exact read

theorem denotes_ids {kind : IdKind} (ids : List (Id kind)) :
    Denotes idsOfJson? (· = idsToJson ids) ids :=
  denotes_map denotes_id ids

theorem denotes_code (code : UInt8) : Denotes codeOfJson? (· = codeToJson code) code := by
  have read := @denotes_number UInt8 UInt8.size _ UInt8.ofNat code.toNat_lt (by decide)
  rw [UInt8.ofNat_toNat] at read
  exact read

/-- An optional value is read back if no value is written as `null`. -/
theorem denotes_optional {decode : Json → Option β} {encode : β → Json}
    (each : ∀ value, Denotes decode (· = encode value) value)
    (written : ∀ value, encode value ≠ .null) (given : Option β) :
    Denotes (toNullable? decode) (· = .optional encode given) given := by
  rintro _ rfl
  cases given with
  | none => exact ⟨.null, rfl⟩
  | some value =>
      obtain ⟨plain, decoded⟩ := each value _ rfl
      refine ⟨plain, ?_⟩
      rw [Json.optional, toNullable?]
      · rw [decoded, Option.map_some]
      · exact written value

theorem denotes_optional_string (text : Option String) :
    Denotes (toNullable? toText?) (· = .optional .string text) text :=
  denotes_optional denotes_string (fun _ => nofun) text

/-! ## Fields -/

/-- A name and what the content of the field is like. -/
abbrev Field := String × (Json → Prop)

/-- An object with exactly the given fields, in any order. -/
def IsRecord (fields : List Field) (value : Json) : Prop :=
  ∃ members : List (String × Json), value = .record members ∧
    (members.map Prod.fst).Perm (fields.map Prod.fst) ∧
    ∀ field ∈ fields, ∀ content, (field.1, content) ∈ members → field.2 content

/-- Every field is among the members, with a content of its kind. -/
def Holds (fields : List Field) (members : List (String × Json)) : Prop :=
  ∀ field ∈ fields, ∃ content, members.lookup field.1 = some content ∧ field.2 content

theorem mem_of_lookup_eq_some {members : List (String × Json)} {name : String} {content : Json}
    (found : members.lookup name = some content) : (name, content) ∈ members := by
  obtain ⟨before, after, rfl, -⟩ := List.lookup_eq_some_iff.1 found
  simp

/-- A list whose elements all decode is decoded element by element. -/
theorem mapM_eq_some_map {decode : α → Option β} {decoded : α → β} {elements : List α}
    (each : ∀ element ∈ elements, decode element = some (decoded element)) :
    elements.mapM decode = some (elements.map decoded) := by
  induction elements with
  | nil => rfl
  | cons first rest ih =>
      rw [List.forall_mem_cons] at each
      rw [List.mapM_cons, each.1, ih each.2]
      rfl

theorem toMembers?_record (members : List (String × Json)) :
    (Json.record members).toMembers? = some members := by
  rw [record, toMembers?, List.mapM_map]
  exact (List.mapM_pure (f := id)).trans (congrArg some (List.map_id _))

namespace IsRecord

variable {fields : List Field} (record : IsRecord fields value)

include record

/-- The object is plain if the contents of its fields are. -/
theorem plain (each : ∀ field ∈ fields, ∀ content, field.2 content → content.Plain) :
    value.Plain := by
  obtain ⟨members, rfl, names, contents⟩ := record
  refine .record fun member among => ?_
  obtain ⟨field, given, same⟩ := List.mem_map.1
    (names.mem_iff.1 (List.mem_map_of_mem (f := Prod.fst) among))
  have content := contents field given member.2 (same ▸ among)
  exact each field given member.2 content

/-- **The fields of a record are found**, whatever their order. -/
theorem exists_fields (distinct : (fields.map Prod.fst).Nodup) :
    ∃ members, value.fields? (fields.map Prod.fst) = some members ∧ Holds fields members := by
  obtain ⟨members, rfl, names, contents⟩ := record
  refine ⟨members, ?_, fun field given => ?_⟩
  · have known : ∀ member ∈ members, (fields.map Prod.fst).contains member.1 = true := by
      intro member among
      exact List.contains_iff_mem.2 (names.mem_iff.1 (List.mem_map_of_mem among))
    have kept : members.filter (fun member => (fields.map Prod.fst).contains member.1) =
        members := List.filter_eq_self.2 known
    have read : (Json.record members).namedFields? (fields.map Prod.fst) = some members := by
      rw [namedFields?, toMembers?_record]
      simp only [Option.bind_eq_bind, Option.bind_some, kept]
      exact if_pos (names.nodup_iff.2 distinct)
    exact read
  · obtain ⟨member, among, named⟩ :=
      List.mem_map.1 (names.mem_iff.2 (List.mem_map_of_mem (f := Prod.fst) given))
    have present : (members.lookup field.1).isSome = true :=
      List.lookup_isSome_iff.2 ⟨member, among, beq_iff_eq.2 named.symm⟩
    obtain ⟨content, found⟩ := Option.isSome_iff_exists.1 present
    exact ⟨content, found, contents field given content (mem_of_lookup_eq_some found)⟩

end IsRecord

namespace Holds

variable {fields : List Field} {members : List (String × Json)} {name : String}
  {kind : Json → Prop} {decode : Json → Option α} {held : α} (holds : Holds fields members)

include holds

theorem required?_eq (given : (name, kind) ∈ fields) (denotes : Denotes decode kind held) :
    required? members name decode = some held := by
  obtain ⟨content, found, ofKind⟩ := holds _ given
  rw [required?, found, Option.bind_some, (denotes content ofKind).2]

/-- The default of a field that is present does not come in. -/
theorem defaulted?_eq (given : (name, kind) ∈ fields) (denotes : Denotes decode kind held)
    (default : α) : defaulted? members name decode default = some held := by
  obtain ⟨content, found, ofKind⟩ := holds _ given
  simp only [defaulted?, found, (denotes content ofKind).2]

end Holds

/-- **A record denotes what its fields make up.** -/
theorem denotes_record {fields : List Field} {decode : List (String × Json) → Option α} {held : α}
    (distinct : (fields.map Prod.fst).Nodup)
    (plain : ∀ field ∈ fields, ∀ content, field.2 content → content.Plain)
    (decoded : ∀ members, Holds fields members → decode members = some held) :
    Denotes (fun value => (value.fields? (fields.map Prod.fst)).bind decode) (IsRecord fields)
      held := by
  intro value record
  obtain ⟨members, read, holds⟩ := record.exists_fields distinct
  exact ⟨record.plain plain, by simp only [read, Option.bind_some, decoded members holds]⟩

end CveTriage.Json
