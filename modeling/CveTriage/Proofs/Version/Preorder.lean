import CveTriage.Evaluation.Matcher
import CveTriage.Proofs.Version.Token

/-!
# The order of triples

Triples of epoch, version and release are totally preordered, and a token list says when
two of them compare equal.
-/

set_option autoImplicit false

namespace CveTriage

open Std (OrientedCmp TransCmp)

/-! ## The order of versions is a total preorder

Version strings compare the way their token lists do, and those are totally
preordered. Epoch, version and release are compared one after the other, so
the order of the triples inherits the laws (`Evr.compare_preorder`).

Preorders are coarser than equality. `PreorderLaws` says what is left of an
order then: two elements that compare equal may be different, but no
comparison with a third one tells them apart.
-/

/-- The laws of a total preorder that is given as a comparison. -/
structure PreorderLaws {α : Type} (cmp : α → α → Ordering) : Prop where
  refl : ∀ first, cmp first first = .eq
  swap : ∀ first second, cmp second first = (cmp first second).swap
  trans : ∀ first second third, cmp first second ≠ .gt → cmp second third ≠ .gt →
    cmp first third ≠ .gt
  /-- One strict step makes the whole chain strict. -/
  strict : ∀ first second third, cmp first second ≠ .gt → cmp second third ≠ .gt →
    cmp first second = .lt ∨ cmp second third = .lt → cmp first third = .lt
  /-- What compares equal is interchangeable in every comparison. -/
  interchangeable : ∀ first second, cmp first second = .eq →
    ∀ third, cmp first third = cmp second third ∧ cmp third first = cmp third second

/-- A transitive comparison obeys all laws of a total preorder. -/
theorem PreorderLaws.of_transCmp {α : Type} (cmp : α → α → Ordering) [TransCmp cmp] :
    PreorderLaws cmp where
  refl _ := Std.ReflCmp.compare_self
  swap _ _ := OrientedCmp.eq_swap
  trans first second third below below' := by
    simp only [ne_eq, Ordering.ne_gt_iff_isLE] at below below' ⊢
    exact TransCmp.isLE_trans below below'
  strict first second third below below' := by
    simp only [ne_eq, Ordering.ne_gt_iff_isLE] at below below'
    rintro (less | less)
    · exact TransCmp.lt_of_lt_of_isLE less below'
    · exact TransCmp.lt_of_isLE_of_lt below less
  interchangeable first second equal third :=
    ⟨TransCmp.congr_left equal, TransCmp.congr_right equal⟩

/-- A preorder pulled back along a function is a preorder. -/
theorem transCmp_comap {α β : Type} (view : α → β) (cmp : β → β → Ordering) [TransCmp cmp] :
    TransCmp fun left right => cmp (view left) (view right) where
  eq_swap := OrientedCmp.eq_swap
  isLE_trans := TransCmp.isLE_trans

/-- Version strings compare the way the token lists of their characters do. -/
theorem Version.compare_eq_compareTokens :
    Version.compare = fun left right =>
      Version.compareTokens (Version.tokens left.toList) (Version.tokens right.toList) := by
  funext left right
  exact Version.compareChars_eq_compareTokens left.toList right.toList

/-- Version strings are ordered as their tokens are. -/
instance : TransCmp Version.compare := by
  rw [Version.compare_eq_compareTokens]
  exact transCmp_comap (fun text : String => Version.tokens text.toList) Version.compareTokens

namespace Evr

/-- Triples compare by their epochs, then by their versions, then by their releases. -/
theorem compare_eq_compareLex :
    Evr.compare =
      compareLex
        (compareLex (compareOn Evr.epoch)
          fun left right => Version.compare left.version right.version)
        fun left right => Version.compare left.release right.release :=
  rfl

/-- Triples inherit the laws from their versions and releases. -/
instance : TransCmp Evr.compare := by
  have versions := transCmp_comap Evr.version Version.compare
  have releases := transCmp_comap Evr.release Version.compare
  rw [compare_eq_compareLex]
  infer_instance

/-- **Triples of epoch, version and release are totally preordered, and so are
version strings of any shape.** -/
theorem compare_preorder : PreorderLaws Evr.compare ∧ PreorderLaws Version.compare :=
  ⟨.of_transCmp Evr.compare, .of_transCmp Version.compare⟩

end Evr

/-! ## Triples that compare equal

Triples of epoch, version and release are equal when their texts are. Their order
goes by what the texts mean, and separators and leading zeros mean nothing. So two
triples compare equal exactly when they have the same epoch and the same tokens
(`Evr.compare_eq_eq_iff_readsLike`), which equal triples have and different ones may have.

A state requires that a package is equal to its target or that it is older. A package
is older than a target, or newer, or reads like it, and never two of these
(`Evr.exactlyOne_order`). Equality is only a part of the third: a package may read like
a target without being equal to it, and then it is neither equal nor older nor newer
(`Evr.not_exactlyOne_paddedTarget`).
-/

/-- One of the three is true and the other two are not. -/
def ExactlyOne (first second third : Prop) : Prop :=
  (first ∧ ¬second ∧ ¬third) ∨ (¬first ∧ second ∧ ¬third) ∨ (¬first ∧ ¬second ∧ third)

namespace Evr

/-- The triples have the same epoch and their texts have the same markers, numbers and
words. -/
structure ReadsLike (left right : Evr) : Prop where
  epoch : left.epoch = right.epoch
  version : Version.tokens left.version.toList = Version.tokens right.version.toList
  release : Version.tokens left.release.toList = Version.tokens right.release.toList

theorem ReadsLike.refl (evr : Evr) : evr.ReadsLike evr :=
  ⟨rfl, rfl, rfl⟩

/-- **Triples compare equal exactly when they read alike.** -/
theorem compare_eq_eq_iff_readsLike {left right : Evr} :
    left.compare right = .eq ↔ left.ReadsLike right := by
  have texts (left right : String) : Version.compare left right = .eq ↔
      Version.tokens left.toList = Version.tokens right.toList := by
    rw [Version.compare_eq_compareTokens, Version.compareTokens_eq_eq_iff]
  rw [Evr.compare, Ordering.then_eq_eq, Ordering.then_eq_eq, texts, texts,
    Std.LawfulEqCmp.compare_eq_iff_eq]
  constructor
  · rintro ⟨⟨epoch, version⟩, release⟩
    exact ⟨epoch, version, release⟩
  · rintro ⟨epoch, version, release⟩
    exact ⟨⟨epoch, version⟩, release⟩

/-- **Older, newer or alike**, and never two of these. -/
theorem exactlyOne_order (left right : Evr) :
    ExactlyOne (left.compare right = .lt) (left.compare right = .gt) (left.ReadsLike right) := by
  rw [← compare_eq_eq_iff_readsLike]
  cases left.compare right with
  | lt => exact .inl ⟨rfl, nofun, nofun⟩
  | gt => exact .inr (.inl ⟨nofun, rfl, nofun⟩)
  | eq => exact .inr (.inr ⟨nofun, nofun, rfl⟩)

/-- **The order of triples goes by what they mean.** They compare equal exactly when they
read alike. A package is older than the target of a state, newer, or reads like it, and
exactly one of these is true. A package that is equal to a target reads like it, so it is
neither older nor newer. -/
theorem compare_goes_by_tokens :
    (∀ left right : Evr, left.compare right = .eq ↔ left.ReadsLike right) ∧
    (∀ evr : Evr, evr.compare evr = .eq) ∧
    ∀ (nevra : Nevra) (target : Evr),
      ExactlyOne (Matcher.comparesAs .lessThan nevra target = true)
        (nevra.evr.compare target = .gt) (nevra.evr.ReadsLike target) ∧
      (Matcher.comparesAs .equals nevra target = true →
        nevra.evr.ReadsLike target ∧
        Matcher.comparesAs .lessThan nevra target = false ∧
        nevra.evr.compare target ≠ .gt) := by
  refine ⟨fun _ _ => compare_eq_eq_iff_readsLike,
    fun evr => compare_eq_eq_iff_readsLike.2 (.refl evr), fun nevra target => ?_⟩
  have older : Matcher.comparesAs .lessThan nevra target = true ↔
      nevra.evr.compare target = .lt := beq_iff_eq
  rw [older]
  refine ⟨exactlyOne_order nevra.evr target, fun equal => ?_⟩
  obtain rfl : nevra.evr = target := eq_of_beq equal
  have alike := ReadsLike.refl nevra.evr
  have same := compare_eq_eq_iff_readsLike.2 alike
  rw [← Bool.not_eq_true, older, same]
  exact ⟨alike, nofun, nofun⟩

/-- A package whose version has a number without leading zeros. -/
def unpaddedPackage : Nevra :=
  ⟨"bash", 1, "5.0", "2", "x86_64"⟩

/-- The same triple with a leading zero and with another separator. -/
def paddedTarget : Evr :=
  ⟨1, "5_00", "2"⟩

/-- The package reads like the padded target, and like its own triple. -/
theorem compare_goes_by_tokens_paddedTarget :
    Matcher.comparesAs .equals unpaddedPackage unpaddedPackage.evr = true ∧
    unpaddedPackage.evr.ReadsLike unpaddedPackage.evr ∧
    unpaddedPackage.evr.ReadsLike paddedTarget ∧
    Matcher.comparesAs .equals unpaddedPackage paddedTarget = false := by
  have equal : Matcher.comparesAs .equals unpaddedPackage unpaddedPackage.evr = true := by decide
  exact ⟨equal, (compare_goes_by_tokens.2.2 _ _).2 equal |>.1,
    (compare_goes_by_tokens.1 _ _).1 (by decide +kernel), by decide⟩

/-- **The order is not consistent with equality.** The package and the padded target
compare equal and are different. So the package is neither older than the target, nor
newer, nor equal to it. -/
theorem not_exactlyOne_paddedTarget :
    unpaddedPackage.evr.compare paddedTarget = .eq ∧
    ¬(unpaddedPackage.evr.compare paddedTarget = .eq ↔ unpaddedPackage.evr = paddedTarget) ∧
    ¬ExactlyOne (Matcher.comparesAs .lessThan unpaddedPackage paddedTarget = true)
      (unpaddedPackage.evr.compare paddedTarget = .gt)
      (Matcher.comparesAs .equals unpaddedPackage paddedTarget = true) := by
  have same : unpaddedPackage.evr.compare paddedTarget = .eq := by decide +kernel
  have differ : unpaddedPackage.evr ≠ paddedTarget := by decide
  refine ⟨same, fun consistent => differ (consistent.1 same), ?_⟩
  rintro (⟨older, -⟩ | ⟨-, newer, -⟩ | ⟨-, -, equal⟩)
  · rw [Matcher.comparesAs, Evr.isOlder, same] at older
    cases older
  · rw [same] at newer
    cases newer
  · exact differ (eq_of_beq equal)

end Evr

end CveTriage
