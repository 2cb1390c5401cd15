import CveTriage.Index.Build
import Mathlib.Data.List.Lex
import Mathlib.Data.List.Sort
import Mathlib.Data.String.Basic

/-!
# Walks and listings

Lists that are walked up to a failure, lists in ascending order, and the order of texts
that such lists are in.
-/

set_option autoImplicit false

namespace CveTriage

open Std (ExtTreeMap ExtTreeSet)

/-! ## Walks that stop at a failure

A list is walked with `mapM`, and the first element without a result is the
failure of the walk (`mapM_eq_error_iff`). A walk succeeds exactly when every
element has a result, and then yields the results in order (`mapM_eq_ok_iff`).
-/

section Walk

variable {ε α β : Type} {result : α → Except ε β}

theorem mapM_cons_eq_ok_iff {first : α} {rest : List α} {results : List β} :
    (first :: rest).mapM result = .ok results ↔
      ∃ value values, result first = .ok value ∧ rest.mapM result = .ok values ∧
        results = value :: values := by
  rw [List.mapM_cons]
  cases result first <;> cases rest.mapM result <;>
    simp [bind, Except.bind, pure, Except.pure, eq_comm]

/-- A walk succeeds with the results that its elements have, if all have one. -/
theorem mapM_eq_ok_iff {elements : List α} {results : List β} :
    elements.mapM result = .ok results ↔ elements.map result = results.map .ok := by
  induction elements generalizing results with
  | nil => cases results <;> simp [pure, Except.pure]
  | cons first rest ih =>
      rw [mapM_cons_eq_ok_iff]
      constructor
      · rintro ⟨value, values, found, remaining, rfl⟩
        rw [List.map_cons, List.map_cons, found, ih.1 remaining]
      · intro same
        cases results with
        | nil => simp at same
        | cons value values =>
            obtain ⟨found, remaining⟩ := List.cons.inj same
            exact ⟨value, values, found, ih.2 remaining, rfl⟩

/-- A walk succeeds when every element has a result, whatever the results are. -/
theorem exists_mapM_eq_ok_iff {elements : List α} :
    (∃ results, elements.mapM result = .ok results) ↔
      ∀ element ∈ elements, ∃ value, result element = .ok value := by
  induction elements with
  | nil => simp [pure, Except.pure]
  | cons first rest ih =>
      rw [List.forall_mem_cons, ← ih]
      simp only [mapM_cons_eq_ok_iff]
      constructor
      · rintro ⟨_, value, values, found, remaining, rfl⟩
        exact ⟨⟨value, found⟩, values, remaining⟩
      · rintro ⟨⟨value, found⟩, values, remaining⟩
        exact ⟨_, value, values, found, remaining, rfl⟩

/-- **A walk fails with the failure of the first element that has one.** -/
theorem mapM_eq_error_iff {elements : List α} {cause : ε} :
    elements.mapM result = .error cause ↔
      ∃ before element after, elements = before ++ element :: after ∧
        (∀ earlier ∈ before, ∃ value, result earlier = .ok value) ∧
        result element = .error cause := by
  induction elements with
  | nil => simp [pure, Except.pure]
  | cons first rest ih =>
      rw [List.mapM_cons]
      constructor
      · intro failed
        cases found : result first with
        | error other =>
            obtain rfl : other = cause := by
              simpa [found, bind, Except.bind] using failed
            exact ⟨[], first, rest, rfl, nofun, found⟩
        | ok value =>
            have later : rest.mapM result = .error cause := by
              cases remaining : rest.mapM result with
              | error other => simpa [found, remaining, bind, Except.bind] using failed
              | ok values =>
                  simp [found, remaining, bind, Except.bind, pure, Except.pure] at failed
            obtain ⟨before, element, after, rfl, succeed, fails⟩ := ih.1 later
            exact ⟨first :: before, element, after, rfl,
              List.forall_mem_cons.2 ⟨⟨value, found⟩, succeed⟩, fails⟩
      · intro ⟨before, element, after, split, succeed, fails⟩
        cases before with
        | nil =>
            obtain ⟨rfl, rfl⟩ := List.cons.inj split
            rw [fails]
            rfl
        | cons head before =>
            obtain ⟨rfl, rfl⟩ := List.cons.inj split
            obtain ⟨⟨value, found⟩, succeed⟩ := List.forall_mem_cons.1 succeed
            rw [found, ih.2 ⟨before, element, after, rfl, succeed, fails⟩]
            rfl

/-- A walk fails with the failure of an element. -/
theorem exists_of_mapM_eq_error {elements : List α} {cause : ε}
    (failed : elements.mapM result = .error cause) :
    ∃ element ∈ elements, result element = .error cause := by
  obtain ⟨before, element, after, rfl, -, fails⟩ := mapM_eq_error_iff.1 failed
  exact ⟨element, by simp, fails⟩

/-- A walk over the elements of several lists is a walk over the lists. -/
theorem mapM_flatMap {γ : Type} {lists : List γ} {elements : γ → List α} :
    (lists.flatMap elements).mapM result =
      (lists.mapM fun list => (elements list).mapM result).map List.flatten := by
  induction lists with
  | nil => rfl
  | cons first rest ih =>
      rw [List.flatMap_cons, List.mapM_append, ih, List.mapM_cons]
      cases (elements first).mapM result with
      | error cause => rfl
      | ok values =>
          cases rest.mapM fun list => (elements list).mapM result <;> rfl

/-- A walk over the elements of several lists fails in the first list that has a failure. -/
theorem mapM_flatMap_eq_error_iff {γ : Type} {lists : List γ} {elements : γ → List α} {cause : ε} :
    (lists.flatMap elements).mapM result = .error cause ↔
      ∃ before list after, lists = before ++ list :: after ∧
        (∀ earlier ∈ before, ∃ values, (elements earlier).mapM result = .ok values) ∧
        (elements list).mapM result = .error cause := by
  refine Iff.trans ?_ mapM_eq_error_iff
  rw [mapM_flatMap]
  cases lists.mapM fun list => (elements list).mapM result <;> simp [Except.map]

/-- What elements outside of a list have as their results does not matter to a walk over it. -/
theorem mapM_congr {other : α → Except ε β} {elements : List α}
    (same : ∀ element ∈ elements, result element = other element) :
    elements.mapM result = elements.mapM other := by
  induction elements with
  | nil => rfl
  | cons first rest ih =>
      rw [List.forall_mem_cons] at same
      rw [List.mapM_cons, List.mapM_cons, same.1, ih same.2]

/-- A walk over changed elements has the changed outcome, when every element has. -/
theorem mapM_map_eq {ε' α' β' : Type} {result' : α' → Except ε' β'} {change : α → α'}
    {alter : β → β'} {restate : ε → ε'}
    (changed : ∀ element,
      result' (change element) = ((result element).map alter).mapError restate)
    (elements : List α) :
    (elements.map change).mapM result' =
      ((elements.mapM result).map (List.map alter)).mapError restate := by
  induction elements with
  | nil => rfl
  | cons first rest ih =>
      rw [List.map_cons, List.mapM_cons, List.mapM_cons, changed, ih]
      cases result first with
      | error cause => rfl
      | ok value => cases rest.mapM result <;> rfl

/-- What a walk yields is what some element has as its result. -/
theorem mem_of_mapM_eq_ok {elements : List α} {results : List β}
    (walked : elements.mapM result = .ok results) {value : β} :
    value ∈ results ↔ ∃ element ∈ elements, result element = .ok value := by
  have listed : value ∈ results ↔
      Except.ok value ∈ results.map (Except.ok : β → Except ε β) := by simp
  rw [listed, ← mapM_eq_ok_iff.1 walked, List.mem_map]

/-- What a walk yields is in an order that its elements are in. -/
theorem pairwise_of_mapM_eq_ok {elements : List α} {results : List β} {order : α → α → Prop}
    {order' : β → β → Prop} (walked : elements.mapM result = .ok results)
    (keeps : ∀ first second value value', result first = .ok value → result second = .ok value' →
      order first second → order' value value')
    (ordered : elements.Pairwise order) : results.Pairwise order' := by
  have carried : (elements.map result).Pairwise fun first second =>
      ∀ value value', first = .ok value → second = .ok value' → order' value value' := by
    refine List.pairwise_map.2 (ordered.imp fun related value value' found found' => ?_)
    exact keeps _ _ _ _ found found' related
  rw [mapM_eq_ok_iff.1 walked, List.pairwise_map] at carried
  exact carried.imp fun related => related _ _ rfl rfl

end Walk

/-! ## The order of listings

Identifiers in ascending order and the entries of a table are listed by their
keys, each key once. Such a listing is determined by what it lists
(`eq_of_ascending`). So the order in which entries came to be there does not
show, and a change of the keys that keeps their order keeps the order of the
values (`values_eq_map_values`). A walk through a listing collects the same with
or without the elements that contribute nothing (`flatMap_eq_of_ascending`).
-/

section Listings

variable {α β γ κ μ : Type} [Ord κ] [Std.TransOrd κ] [Std.LawfulEqOrd κ]

/-- **Two listings that ascend by the same keys are equal when they list the same.** -/
theorem eq_of_ascending {key : α → κ} {left right : List α}
    (leftAscends : left.Pairwise fun first second => compare (key first) (key second) = .lt)
    (rightAscends : right.Pairwise fun first second => compare (key first) (key second) = .lt)
    (same : ∀ element, element ∈ left ↔ element ∈ right) : left = right := by
  have : Std.Antisymm fun first second => compare (key first) (key second) = .lt :=
    ⟨fun _ _ less greater => (Std.OrientedCmp.not_lt_of_lt less greater).elim⟩
  have : Std.Irrefl fun first second => compare (key first) (key second) = .lt :=
    ⟨fun _ less => by simp at less⟩
  exact leftAscends.eq_of_mem_iff rightAscends same

/-- Before an element of a listing stand the elements with smaller keys. -/
theorem mem_before_iff_of_ascending {key : α → κ} {before after : List α} {element other : α}
    (ascends : (before ++ element :: after).Pairwise fun first second =>
      compare (key first) (key second) = .lt) :
    other ∈ before ↔
      other ∈ before ++ element :: after ∧ compare (key other) (key element) = .lt := by
  obtain ⟨-, ascendsAfter, less⟩ := List.pairwise_append.1 ascends
  constructor
  · intro member
    exact ⟨List.mem_append_left _ member, less other member element List.mem_cons_self⟩
  · intro ⟨member, smaller⟩
    rcases List.mem_append.1 member with earlier | later
    · exact earlier
    · rcases List.mem_cons.1 later with rfl | later
      · simp at smaller
      · have greater := (List.pairwise_cons.1 ascendsAfter).1 other later
        exact (Std.OrientedCmp.not_lt_of_lt greater smaller).elim

/-- Tables with the same keys list the same keys. -/
theorem keys_eq_of_mem_iff {table : ExtTreeMap κ β} {other : ExtTreeMap κ γ}
    (same : ∀ key, key ∈ table ↔ key ∈ other) : table.keys = other.keys := by
  refine eq_of_ascending ExtTreeMap.ordered_keys ExtTreeMap.ordered_keys fun key => ?_
  rw [ExtTreeMap.mem_keys, ExtTreeMap.mem_keys]
  exact same key

section Moved

variable [Ord μ] [Std.TransOrd μ] [Std.LawfulEqOrd μ] {table : ExtTreeMap κ β}
  {other : ExtTreeMap μ γ} {move : κ → μ} {change : β → γ}
  (moved : ∀ key, other[move key]? = table[key]?.map change)
  (onlyMoved : ∀ key ∈ other, ∃ before, move before = key)
  (keepsOrder : ∀ first ∈ table, ∀ second ∈ table, compare first second = .lt →
    compare (move first) (move second) = .lt)

include moved onlyMoved

/-- The other table has the moved entries. -/
theorem mem_toList_iff_of_moved {entry : μ × γ} :
    entry ∈ other.toList ↔ entry ∈ table.toList.map (Prod.map move change) := by
  obtain ⟨key, value⟩ := entry
  rw [ExtTreeMap.mem_toList_iff_getElem?_eq_some, List.mem_map]
  constructor
  · intro found
    have present : key ∈ other := ExtTreeMap.mem_iff_isSome_getElem?.2 (by simp [found])
    obtain ⟨before, rfl⟩ := onlyMoved key present
    rw [moved, Option.map_eq_some_iff] at found
    obtain ⟨content, found, rfl⟩ := found
    exact ⟨(before, content), ExtTreeMap.mem_toList_iff_getElem?_eq_some.2 found, rfl⟩
  · rintro ⟨⟨before, content⟩, member, same⟩
    obtain ⟨rfl, rfl⟩ := Prod.mk.inj same
    rw [moved, ExtTreeMap.mem_toList_iff_getElem?_eq_some.1 member]
    rfl

include keepsOrder

/-- **A change of keys that keeps the order of a table keeps the order of its values.** -/
theorem values_eq_map_values : other.values = table.values.map change := by
  have known : ∀ entry ∈ table.toList, entry.1 ∈ table := by
    intro entry member
    rw [← ExtTreeMap.mem_keys, ← ExtTreeMap.map_fst_toList_eq_keys]
    exact List.mem_map_of_mem member
  have ascends : (table.toList.map (Prod.map move change)).Pairwise
      fun first second => compare first.1 second.1 = .lt := by
    rw [List.pairwise_map]
    refine ExtTreeMap.ordered_keys_toList.imp_of_mem ?_
    intro first second memberFirst memberSecond less
    exact keepsOrder _ (known first memberFirst) _ (known second memberSecond) less
  have listed : other.toList = table.toList.map (Prod.map move change) :=
    eq_of_ascending ExtTreeMap.ordered_keys_toList ascends fun _ =>
      mem_toList_iff_of_moved moved onlyMoved
  rw [values_eq_map_toList, values_eq_map_toList, listed, List.map_map, List.map_map]
  rfl

end Moved
end Listings

/-! ### Walks through ascending keys -/

section Walks

variable {β κ : Type} {walk : κ → List β}

/-- Elements that contribute nothing can be left out of a walk. -/
theorem flatMap_filter_ne_nil (elements : List κ) :
    (elements.filter fun element => !(walk element).isEmpty).flatMap walk =
      elements.flatMap walk := by
  induction elements with
  | nil => rfl
  | cons first rest ih =>
      cases contributes : walk first with
      | nil => rw [List.filter_cons_of_neg (by simp [contributes]), List.flatMap_cons, contributes,
          ih, List.nil_append]
      | cons _ _ => rw [List.filter_cons_of_pos (by simp [contributes]), List.flatMap_cons,
          List.flatMap_cons, ih]

variable [Ord κ] [Std.TransOrd κ] [Std.LawfulEqOrd κ]

/-- **Walks in ascending order are equal when they have the same elements, apart
from those that contribute nothing.** -/
theorem flatMap_eq_of_ascending {left right : List κ}
    (leftAscends : left.Pairwise fun first second => compare first second = .lt)
    (rightAscends : right.Pairwise fun first second => compare first second = .lt)
    (same : ∀ element, walk element ≠ [] → (element ∈ left ↔ element ∈ right)) :
    left.flatMap walk = right.flatMap walk := by
  rw [← flatMap_filter_ne_nil left, ← flatMap_filter_ne_nil right]
  congr 1
  refine @eq_of_ascending _ _ _ _ _ id _ _ (leftAscends.filter _) (rightAscends.filter _) ?_
  intro element
  rw [List.mem_filter, List.mem_filter]
  refine and_congr_left fun contributes => same element ?_
  simpa using contributes

end Walks

namespace Id

variable {kind : IdKind} {ids : List (Id kind)}

theorem compare_eq_lt_iff {left right : Id kind} :
    compare left right = .lt ↔ left.number < right.number :=
  Std.compare_eq_lt (α := UInt32)

@[simp]
theorem mem_ascending {id : Id kind} : id ∈ ascending ids ↔ id ∈ ids := by
  rw [ascending, ExtTreeSet.mem_toList, ExtTreeSet.mem_ofList, List.contains_iff_mem]

theorem pairwise_ascending :
    (ascending ids).Pairwise fun first second => compare first second = .lt :=
  ExtTreeSet.ordered_toList

theorem nodup_ascending : (ascending ids).Nodup :=
  pairwise_ascending.imp fun less same => by simp [same] at less

/-- In ascending order neither the order nor the repetitions of a list are left. -/
theorem ascending_congr {others : List (Id kind)} (same : ∀ id, id ∈ ids ↔ id ∈ others) :
    ascending ids = ascending others := by
  refine @eq_of_ascending _ _ _ _ _ id _ _ pairwise_ascending pairwise_ascending fun element => ?_
  rw [mem_ascending, mem_ascending]
  exact same element

end Id

/-! ## The order of texts is the order of their bytes

Texts are compared character by character. A table that keeps its keys as bytes
compares them byte by byte, and the outcome is the same
(`lt_iff_utf8Bytes_lt`): the bytes of a smaller character stand before those of
a larger one, whatever follows either of them (`utf8EncodeChar_append_lt`).
-/

/-- The bytes of a text. -/
def utf8Bytes (text : String) : List UInt8 :=
  text.toByteArray.data.toList

theorem utf8Bytes_eq_flatMap (text : String) :
    utf8Bytes text = text.toList.flatMap String.utf8EncodeChar := by
  have stored : text.toByteArray = text.toList.utf8Encode := by
    rw [← String.toByteArray_ofList, String.ofList_toList]
  rw [utf8Bytes, stored, List.utf8Encode, List.data_toByteArray]

/-- The bytes of a smaller character stand before those of a larger one. Every pair of
lengths is compared; that the smaller character has more bytes is impossible. -/
theorem utf8EncodeChar_append_lt {smaller larger : Char} (less : smaller < larger)
    (left right : List UInt8) :
    String.utf8EncodeChar smaller ++ left < String.utf8EncodeChar larger ++ right := by
  have codes : smaller.val.toNat < larger.val.toNat := less
  have bound : larger.val.toNat < 1114112 := by
    rcases larger.valid with low | ⟨_, high⟩ <;> omega
  unfold String.utf8EncodeChar
  generalize smaller.val.toNat = low at codes ⊢
  generalize larger.val.toNat = high at codes bound ⊢
  have nested (code : Nat) :
      code / 4096 = code / 64 / 64 ∧ code / 262144 = code / 64 / 64 / 64 := by
    omega
  simp only [nested]
  split_ifs <;>
    simp only [List.cons_append, List.cons_lt_cons_iff, UInt8.lt_iff_toNat_lt,
      ← UInt8.toNat_inj, UInt8.toNat_ofNat'] <;>
    omega

theorem nil_lt_utf8EncodeChar_append (character : Char) (rest : List UInt8) :
    [] < String.utf8EncodeChar character ++ rest := by
  unfold String.utf8EncodeChar
  dsimp only
  split_ifs <;> exact List.nil_lt_cons _ _

theorem flatMap_utf8EncodeChar_lt {left right : List Char} (less : left < right) :
    left.flatMap String.utf8EncodeChar < right.flatMap String.utf8EncodeChar := by
  induction less with
  | nil => exact nil_lt_utf8EncodeChar_append _ _
  | rel less => exact utf8EncodeChar_append_lt less _ _
  | cons _ ih => exact List.append_left_lt ih

/-- **Texts are ordered as their bytes are.** -/
theorem lt_iff_utf8Bytes_lt {left right : String} :
    left < right ↔ utf8Bytes left < utf8Bytes right := by
  have keeps {smaller larger : String} (less : smaller < larger) :
      utf8Bytes smaller < utf8Bytes larger := by
    rw [utf8Bytes_eq_flatMap, utf8Bytes_eq_flatMap]
    exact flatMap_utf8EncodeChar_lt (String.lt_iff.1 less)
  constructor
  · exact keeps
  · intro less
    rcases lt_trichotomy left right with smaller | rfl | larger
    · exact smaller
    · exact absurd less (List.lt_irrefl _)
    · exact absurd less (List.lt_asymm (keeps larger))

/-- Tables of texts are in the order of the bytes. -/
theorem compare_eq_lt_iff_utf8Bytes_lt {left right : String} :
    compare left right = .lt ↔ utf8Bytes left < utf8Bytes right :=
  compareOfLessAndEq_eq_lt.trans lt_iff_utf8Bytes_lt

end CveTriage
