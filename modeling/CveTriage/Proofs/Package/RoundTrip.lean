import CveTriage.Proofs.Package.Grammar

/-!
# Packages survive writing and reading

An identity is read back from the string that it is written as exactly when it is well
formed, and so is a triple of epoch, version and release.
-/

set_option autoImplicit false

namespace CveTriage

/-! ## Identities survive writing and reading

A package string in its usual form has no zero epoch, has any other epoch
before the version, and has the architecture behind the release. An identity
is written by spelling it in this form (`spelling`), so reading it back is a
matter of the grammar: the parts have the shapes that the grammar allows, and
they spell the identity.

Not every identity can be written. A name with a colon is cut in two, and a
release that ends in an architecture loses it. The identities without such
parts (`WellFormed`) are those that reading yields (`wellFormed_of_parse`), and
all of them are read back as they were (`parse_render`).
-/

namespace Nevra

variable {nevra : Nevra} {input : String}

/-! ### Identities that can be written -/

/-- The release ends in a known architecture, with a dot and something before the
dot. Reading would take this architecture off. -/
def EndsInKnownArch (release : String) : Prop :=
  ∃ front arch, front ≠ "" ∧ arch ∈ knownArchitectures ∧ release = front ++ "." ++ arch

/-- Each part of the identity is found again when it is written. -/
structure WellFormed (nevra : Nevra) : Prop where
  name : nevra.name ≠ "" ∧ ':' ∉ nevra.name.toList
  version : nevra.version ≠ "" ∧ ':' ∉ nevra.version.toList ∧ '-' ∉ nevra.version.toList
  release : nevra.release ≠ "" ∧ ':' ∉ nevra.release.toList ∧ '-' ∉ nevra.release.toList
  arch : nevra.arch ∈ knownArchitectures ∨ (nevra.arch = "" ∧ ¬EndsInKnownArch nevra.release)

/-- Known architectures have none of the characters that separate parts. -/
theorem plain_of_mem_knownArchitectures {arch : String} (known : arch ∈ knownArchitectures) :
    arch ≠ "" ∧ ':' ∉ arch.toList ∧ '-' ∉ arch.toList ∧ '.' ∉ arch.toList := by
  revert arch
  decide

/-- The dot before a known architecture is the last one. -/
theorem endsInKnownArch_iff {release : String} :
    EndsInKnownArch release ↔ ∃ front last, EndsInArch release.toList front last := by
  constructor
  · rintro ⟨front, arch, nonempty, known, rfl⟩
    have undotted := (plain_of_mem_knownArchitectures known).2.2.2
    refine ⟨front.toList, arch.toList, by simp, undotted, by simpa using nonempty, ?_⟩
    rwa [String.ofList_toList]
  · rintro ⟨front, last, written, -, nonempty, known⟩
    refine ⟨String.ofList front, String.ofList last, by simpa using nonempty, known, ?_⟩
    rw [← String.toList_inj, written]
    simp

/-! ### The spelling that is written -/

/-- The parts of the usual form of the identity. -/
def spelling (nevra : Nevra) : Spelling where
  leadingEpoch := none
  name := nevra.name.toList
  innerEpoch := if nevra.epoch = 0 then none else some (epochDigits nevra.epoch)
  version := nevra.version.toList
  release := nevra.release.toList ++ if nevra.arch = "" then [] else '.' :: nevra.arch.toList

theorem toChars_spelling (nevra : Nevra) : nevra.spelling.toChars = nevra.toChars := by
  by_cases zero : nevra.epoch = 0 <;>
    simp [Spelling.toChars, spelling, toChars, epochText, zero]

/-- The epoch is left out or written once. -/
theorem writesEpoch_spelling (nevra : Nevra) : nevra.spelling.WritesEpoch nevra.epoch := by
  by_cases zero : nevra.epoch = 0
  · exact .inl ⟨by simp [Spelling.epochs, spelling, zero], zero⟩
  · refine .inr ⟨epochDigits nevra.epoch, by simp [Spelling.epochs, spelling, zero], ?_⟩
    rw [epochDigits, Text.Decimal.value_digits]

namespace WellFormed

/-- The architecture is split off again, and nothing else is. -/
theorem splitsInto (wellFormed : nevra.WellFormed) :
    SplitsInto nevra.spelling.release nevra.release.toList nevra.arch.toList := by
  rcases wellFormed.arch with known | ⟨absent, unended⟩
  · obtain ⟨nonempty, -, -, undotted⟩ := plain_of_mem_knownArchitectures known
    refine .inl ⟨by simp [spelling, nonempty], undotted, by simpa using wellFormed.release.1, ?_⟩
    rwa [String.ofList_toList]
  · refine .inr ⟨by simp [spelling, absent], by simp [absent], ?_⟩
    intro front last ends
    refine unended (endsInKnownArch_iff.2 ⟨front, last, ?_⟩)
    simpa [spelling, absent] using ends

theorem identifies (wellFormed : nevra.WellFormed) : nevra.spelling.Identifies nevra :=
  ⟨rfl, nevra.writesEpoch_spelling, rfl, wellFormed.splitsInto⟩

/-- The architecture brings no dash and no colon into the release. -/
theorem release_spelling (wellFormed : nevra.WellFormed) :
    nevra.spelling.release ≠ [] ∧ ':' ∉ nevra.spelling.release ∧
      '-' ∉ nevra.spelling.release := by
  obtain ⟨nonempty, uncoloned, undashed⟩ := wellFormed.release
  rcases wellFormed.arch with known | ⟨absent, -⟩
  · obtain ⟨present, archUncoloned, archUndashed, -⟩ := plain_of_mem_knownArchitectures known
    simp [spelling, present, nonempty, uncoloned, undashed, archUncoloned, archUndashed]
  · simp [spelling, absent, nonempty, uncoloned, undashed]

theorem spelling (wellFormed : nevra.WellFormed) : nevra.spelling.WellFormed where
  leadingEpoch := nofun
  innerEpoch := by
    intro digits written
    by_cases zero : nevra.epoch = 0
    · simp [Nevra.spelling, zero] at written
    · obtain rfl : epochDigits nevra.epoch = digits := by
        simpa [Nevra.spelling, zero] using written
      exact Text.Decimal.isNumeral_digits _
  name := ⟨by simpa [Nevra.spelling] using wellFormed.name.1, wellFormed.name.2⟩
  version := ⟨by simpa [Nevra.spelling] using wellFormed.version.1, wellFormed.version.2⟩
  release := wellFormed.release_spelling

end WellFormed

/-! ### Both directions -/

/-- **A well-formed identity is read back as it was written.** -/
theorem parse_render (wellFormed : nevra.WellFormed) : parse nevra.render = .ok nevra := by
  have written : nevra.render.toList = nevra.spelling.toChars := by
    rw [render, String.toList_ofList, toChars_spelling]
  exact parse_eq_ok_iff.2 ⟨nevra.spelling, ⟨wellFormed.spelling, written⟩, wellFormed.identifies⟩

/-- **What is read is well-formed.** -/
theorem wellFormed_of_parse (read : parse input = .ok nevra) : nevra.WellFormed := by
  obtain ⟨spelling, ⟨shapes, -⟩, identifies⟩ := parse_eq_ok_iff.1 read
  have name := identifies.name ▸ shapes.name
  have version := identifies.version ▸ shapes.version
  have release := shapes.release
  refine ⟨by simpa using name, by simpa using version, ?_, ?_⟩
  · rcases identifies.release with ⟨written, -, nonempty, -⟩ | ⟨whole, -, -⟩
    · simp only [written, List.mem_append, not_or] at release
      exact ⟨by simpa using nonempty, release.2.1.1, release.2.2.1⟩
    · simpa [← whole] using release
  · rcases identifies.release with ⟨-, -, -, known⟩ | ⟨whole, none, unended⟩
    · exact .inl (by rwa [String.ofList_toList] at known)
    · refine .inr ⟨by simpa using none, fun ends => ?_⟩
      obtain ⟨front, last, ends⟩ := endsInKnownArch_iff.1 ends
      exact unended front last (whole ▸ ends)

/-- **Reading and writing undo each other on well-formed identities.** What is
read is well-formed. The well-formed identities are those that are read back as
they were written, whatever their epoch. So another round of writing and reading
changes nothing, though the text that was read first may have had another form. -/
theorem parse_render_inverse :
    (∀ input nevra, parse input = .ok nevra → nevra.WellFormed) ∧
    (∀ nevra : Nevra, parse nevra.render = .ok nevra ↔ nevra.WellFormed) ∧
    (∀ input nevra, parse input = .ok nevra → parse nevra.render = .ok nevra) ∧
    ∃ input nevra, parse input = .ok nevra ∧ nevra.render ≠ input := by
  refine ⟨fun _ _ => wellFormed_of_parse, fun _ => ⟨wellFormed_of_parse, parse_render⟩, ?_, ?_⟩
  · intro input nevra read
    exact parse_render (wellFormed_of_parse read)
  · exact ⟨"bash-0:5.1.8-6.el9.x86_64", ⟨"bash", 0, "5.1.8", "6.el9", "x86_64"⟩, rfl, by decide⟩

/-- An identity with the largest epoch, dashes and digits in its name, and a
release that would be an architecture if something stood before the dot. -/
def awkwardNevra : Nevra :=
  ⟨"compat-libs-9", 18446744073709551615, "1.0", ".noarch", "x86_64"⟩

/-- The identity is read from a text with the epoch in front, and written with
the epoch inside. Without the second architecture the first one stays in the release. -/
theorem parse_render_inverse_awkwardNevra :
    parse "18446744073709551615:compat-libs-9-1.0-.noarch.x86_64" = .ok awkwardNevra ∧
    awkwardNevra.render = "compat-libs-9-18446744073709551615:1.0-.noarch.x86_64" ∧
    awkwardNevra.WellFormed ∧
    parse awkwardNevra.render = .ok awkwardNevra ∧
    parse "compat-libs-9-1.0-.noarch" = .ok { awkwardNevra with epoch := 0, arch := "" } ∧
    { awkwardNevra with epoch := 0, arch := "" }.WellFormed := by
  have read : parse "18446744073709551615:compat-libs-9-1.0-.noarch.x86_64" =
      .ok awkwardNevra := rfl
  have readArchless : parse "compat-libs-9-1.0-.noarch" =
      .ok { awkwardNevra with epoch := 0, arch := "" } := rfl
  have wellFormed := parse_render_inverse.1 _ _ read
  exact ⟨read, by decide, wellFormed, (parse_render_inverse.2.1 _).2 wellFormed,
    readArchless, parse_render_inverse.1 _ _ readArchless⟩

end Nevra

/-! ## Epoch, version and release survive writing and reading

A version may contain dashes and colons, a release may contain colons. Yet the
text of a triple is cut in one way only: what stands before the first colon is
taken for the epoch, and a release has no dash. So reading is a matter of what
the text spells (`Spells`, `parse_eq_ok_iff`), and it can be said of a text
whether it spells anything (`Readable`, `exists_spells_iff`).

A text without a colon has the epoch zero, and an epoch may have a plus sign and
leading zeros. Writing always puts the epoch in front, in its shortest form, and
what it writes is read back (`parse_render`) unless the version or the release is
empty or the release has a dash. Triples of packages that have been read are of
this shape, so the reader of triples reads what the reader of packages has found
(`Nevra.wellFormed_evr_of_parse`).
-/

namespace Evr

variable {text front digits : List Char} {evr : Evr} {epoch : UInt64} {input : String}

/-! ### Triples and their texts -/

/-- The version and the release can be told apart when they are written. -/
structure WellFormed (evr : Evr) : Prop where
  version : evr.version ≠ ""
  release : evr.release ≠ "" ∧ '-' ∉ evr.release.toList

/-- The text of an epoch: ASCII digits of any number, perhaps after a plus sign. -/
def WritesEpoch (text : List Char) (epoch : UInt64) : Prop :=
  ∃ digits, (text = digits ∨ text = '+' :: digits) ∧ Text.Decimal.isNumeral digits = true ∧
    Text.Decimal.value digits = epoch.toNat

/-- The version and the release with a dash between them. -/
def body (evr : Evr) : List Char :=
  evr.version.toList ++ '-' :: evr.release.toList

/-- The text spells the triple, with an epoch in front or without one. -/
inductive Spells : List Char → Evr → Prop where
  | led {front : List Char} {evr : Evr} (epoch : WritesEpoch front evr.epoch)
      (wellFormed : evr.WellFormed) : Spells (front ++ ':' :: evr.body) evr
  | plain {evr : Evr} (epoch : evr.epoch = 0) (wellFormed : evr.WellFormed)
      (uncoloned : ':' ∉ evr.body) : Spells evr.body evr

/-- The text has a dash, and something on both sides of its last dash. -/
def HasRelease (text : List Char) : Prop :=
  ∃ version release, text = version ++ '-' :: release ∧ '-' ∉ release ∧
    version ≠ [] ∧ release ≠ []

/-- The text is a numeral below 2⁶⁴, perhaps after a plus sign. -/
def IsEpoch (text : List Char) : Prop :=
  ∃ digits, (text = digits ∨ text = '+' :: digits) ∧ Text.Decimal.isNumeral digits = true ∧
    Text.Decimal.value digits < UInt64.size

/-- What stands before the first colon is an epoch, and what stands behind it has a
release. A text without a colon has a release. -/
def Readable (text : List Char) : Prop :=
  (∃ front rest, text = front ++ ':' :: rest ∧ ':' ∉ front ∧ IsEpoch front ∧ HasRelease rest) ∨
    (':' ∉ text ∧ HasRelease text)

/-! ### The two cuts -/

/-- The plus sign is no digit, so it is taken for a sign. -/
theorem epochOfText?_eq_some_iff : epochOfText? text = some epoch ↔ WritesEpoch text epoch := by
  have signed (rest : List Char) : Text.Decimal.isNumeral ('+' :: rest) = false := by
    simp [Text.Decimal.isNumeral]
  unfold epochOfText? WritesEpoch
  split
  next rest =>
    rw [epochOfDigits?_eq_some_iff]
    constructor
    · intro written
      exact ⟨rest, .inr rfl, written⟩
    · rintro ⟨digits, rfl | same, written⟩
      · rw [signed] at written
        cases written.1
      · obtain rfl := (List.cons.inj same).2
        exact written
  next unsigned =>
    rw [epochOfDigits?_eq_some_iff]
    constructor
    · intro written
      exact ⟨text, .inl rfl, written⟩
    · rintro ⟨digits, rfl | same, written⟩
      · exact written
      · exact absurd same (unsigned digits)

/-- A release has no dash, so the last dash is the one in front of it. -/
theorem ofParts?_body (wellFormed : evr.WellFormed) : ofParts? evr.epoch evr.body = some evr := by
  have cut : Text.cutLast '-' evr.body = some (evr.version.toList, evr.release.toList) :=
    Text.cutLast_eq_some_iff.2 ⟨rfl, wellFormed.release.2⟩
  have present : (evr.version.toList.isEmpty || evr.release.toList.isEmpty) = false := by
    simp [wellFormed.version, wellFormed.release.1]
  simp only [ofParts?, cut, present, Bool.false_eq_true, if_false, String.ofList_toList]

/-- What is read on the two sides of the last dash is a version and a release. -/
theorem of_ofParts?_eq_some (read : ofParts? epoch text = some evr) :
    evr.epoch = epoch ∧ evr.WellFormed ∧ text = evr.body := by
  unfold ofParts? at read
  split at read
  next version release cut =>
    obtain ⟨written, undashed⟩ := Text.cutLast_eq_some_iff.1 cut
    rw [Option.ite_none_left_eq_some, Bool.or_eq_true, not_or, Option.some.injEq] at read
    obtain ⟨⟨versioned, released⟩, rfl⟩ := read
    exact ⟨rfl, ⟨by simpa using versioned, by simpa using released, by simpa using undashed⟩,
      by simpa [body] using written⟩
  next => cases read

theorem WritesEpoch.uncoloned (written : WritesEpoch front epoch) : ':' ∉ front := by
  obtain ⟨digits, same, numeral, -⟩ := written
  have uncoloned : ':' ∉ digits := Nevra.not_mem_of_isNumeral numeral (by decide)
  rcases same with rfl | rfl
  · exact uncoloned
  · simpa using uncoloned

/-! ### Reading -/

/-- A text is read as what it spells. -/
theorem ofChars?_eq_some_iff : ofChars? text = some evr ↔ Spells text evr := by
  constructor
  · intro read
    unfold ofChars? at read
    split at read
    next front rest cut =>
      obtain ⟨rfl, -⟩ := Text.cutFirst_eq_some_iff.1 cut
      obtain ⟨epoch, front, rest⟩ := Option.bind_eq_some_iff.1 read
      obtain ⟨rfl, wellFormed, rfl⟩ := of_ofParts?_eq_some rest
      exact .led (epochOfText?_eq_some_iff.1 front) wellFormed
    next uncut =>
      obtain ⟨epoch, wellFormed, rfl⟩ := of_ofParts?_eq_some read
      exact .plain epoch wellFormed (Text.cutFirst_eq_none_iff.1 uncut)
  · rintro (@⟨front, _, epoch, wellFormed⟩ | ⟨epoch, wellFormed, uncoloned⟩)
    · have cut : Text.cutFirst ':' (front ++ ':' :: evr.body) = some (front, evr.body) :=
        Text.cutFirst_eq_some_iff.2 ⟨rfl, epoch.uncoloned⟩
      simp only [ofChars?, cut, epochOfText?_eq_some_iff.2 epoch, Option.bind_some,
        ofParts?_body wellFormed]
    · simp only [ofChars?, Text.cutFirst_eq_none_iff.2 uncoloned, ← epoch,
        ofParts?_body wellFormed]

theorem parse_eq_ok_iff : parse input = .ok evr ↔ Spells input.toList evr := by
  rw [← ofChars?_eq_some_iff, parse]
  cases ofChars? input.toList <;> simp

/-- A text that spells nothing is refused as a whole. -/
theorem parse_eq_error_iff {cause : PackageError} :
    parse input = .error cause ↔
      cause = .invalidEvr input ∧ ¬∃ evr, Spells input.toList evr := by
  simp only [← ofChars?_eq_some_iff, parse]
  cases ofChars? input.toList <;> simp [eq_comm]

theorem isEpoch_iff : IsEpoch text ↔ ∃ epoch, WritesEpoch text epoch := by
  constructor
  · rintro ⟨digits, same, numeral, small⟩
    exact ⟨.ofNat (Text.Decimal.value digits), digits, same, numeral,
      (UInt64.toNat_ofNat_of_lt' small).symm⟩
  · rintro ⟨epoch, digits, same, numeral, value⟩
    exact ⟨digits, same, numeral, value ▸ epoch.toNat_lt_size⟩

/-- A text with a release is what follows an epoch, whatever the epoch is. -/
theorem hasRelease_iff (epoch : UInt64) :
    HasRelease text ↔ ∃ evr : Evr, evr.epoch = epoch ∧ evr.WellFormed ∧ text = evr.body := by
  constructor
  · rintro ⟨version, release, rfl, undashed, versioned, released⟩
    refine ⟨⟨epoch, String.ofList version, String.ofList release⟩, rfl, ?_, by simp [body]⟩
    exact ⟨by simpa using versioned, by simpa using released, by simpa using undashed⟩
  · rintro ⟨evr, -, wellFormed, rfl⟩
    exact ⟨_, _, rfl, wellFormed.release.2, by simpa using wellFormed.version,
      by simpa using wellFormed.release.1⟩

/-- A text spells a triple exactly when its parts are an epoch and a release. -/
theorem exists_spells_iff : (∃ evr, Spells text evr) ↔ Readable text := by
  constructor
  · rintro ⟨evr, spelled⟩
    cases spelled with
    | led epoch wellFormed =>
        exact .inl ⟨_, _, rfl, epoch.uncoloned, isEpoch_iff.2 ⟨_, epoch⟩,
          (hasRelease_iff evr.epoch).2 ⟨evr, rfl, wellFormed, rfl⟩⟩
    | plain epoch wellFormed uncoloned =>
        exact .inr ⟨uncoloned, (hasRelease_iff 0).2 ⟨evr, epoch, wellFormed, rfl⟩⟩
  · rintro (⟨front, rest, rfl, -, isEpoch, hasRelease⟩ | ⟨uncoloned, hasRelease⟩)
    · obtain ⟨epoch, written⟩ := isEpoch_iff.1 isEpoch
      obtain ⟨evr, rfl, wellFormed, rfl⟩ := (hasRelease_iff epoch).1 hasRelease
      exact ⟨evr, .led written wellFormed⟩
    · obtain ⟨evr, epoch, wellFormed, rfl⟩ := (hasRelease_iff 0).1 hasRelease
      exact ⟨evr, .plain epoch wellFormed uncoloned⟩

/-! ### Both directions -/

theorem wellFormed_of_spells (spelled : Spells text evr) : evr.WellFormed := by
  cases spelled with
  | led _ wellFormed => exact wellFormed
  | plain _ wellFormed _ => exact wellFormed

/-- The text that is written spells the triple. -/
theorem spells_toChars (wellFormed : evr.WellFormed) : Spells evr.toChars evr := by
  have written : evr.toChars = epochDigits evr.epoch ++ ':' :: evr.body := by
    simp [toChars, body]
  rw [written]
  exact .led ⟨_, .inl rfl, Text.Decimal.isNumeral_digits _, Text.Decimal.value_digits _⟩ wellFormed

/-- **A well-formed triple is read back as it was written.** -/
theorem parse_render (wellFormed : evr.WellFormed) : parse evr.render = .ok evr := by
  rw [parse_eq_ok_iff, render, String.toList_ofList]
  exact spells_toChars wellFormed

/-- **What is read is well-formed.** -/
theorem wellFormed_of_parse (read : parse input = .ok evr) : evr.WellFormed :=
  wellFormed_of_spells (parse_eq_ok_iff.1 read)

end Evr

/-- Packages that have been read have well-formed triples. -/
theorem Nevra.wellFormed_evr_of_parse {input : String} {nevra : Nevra}
    (read : Nevra.parse input = .ok nevra) : nevra.evr.WellFormed where
  version := (Nevra.wellFormed_of_parse read).version.1
  release :=
    have shape := (Nevra.wellFormed_of_parse read).release
    ⟨shape.1, shape.2.2⟩

namespace Evr

/-- **Reading and writing undo each other on well-formed triples.** What is read is
well-formed, and the well-formed triples are those that are read back as they were
written, whatever their epoch; the triple of a package that has been read is one of
them. A text is read as what it spells. It spells something when it is an epoch in front
of its first colon and has a release behind it, or has no colon and a release, and is
refused in all other cases. -/
theorem parse_undoes_render :
    (∀ input evr, parse input = .ok evr → evr.WellFormed) ∧
    (∀ evr : Evr, parse evr.render = .ok evr ↔ evr.WellFormed) ∧
    (∀ input nevra, Nevra.parse input = .ok nevra →
      nevra.evr.WellFormed ∧ parse nevra.evr.render = .ok nevra.evr) ∧
    (∀ input evr, parse input = .ok evr ↔ Spells input.toList evr) ∧
    (∀ input, (∃ evr, parse input = .ok evr) ↔ Readable input.toList) ∧
    ∀ input cause, parse input = .error cause ↔
      cause = .invalidEvr input ∧ ¬Readable input.toList := by
  refine ⟨fun _ _ => wellFormed_of_parse, fun _ => ⟨wellFormed_of_parse, parse_render⟩, ?_,
    fun _ _ => parse_eq_ok_iff, ?_, ?_⟩
  · intro input nevra read
    have wellFormed := Nevra.wellFormed_evr_of_parse read
    exact ⟨wellFormed, parse_render wellFormed⟩
  · intro input
    simp only [parse_eq_ok_iff, exists_spells_iff]
  · intro input cause
    rw [parse_eq_error_iff, exists_spells_iff]

/-- A triple with the largest epoch, a version with a colon and a dash, and a release
with a colon. -/
def awkwardEvr : Evr :=
  ⟨18446744073709551615, "1:2-3", "4:5"⟩

/-- The triple is read from a text with a sign and a leading zero, and written without
them. With the next larger epoch there is nothing to read. -/
theorem parse_undoes_render_awkwardEvr :
    parse "+018446744073709551615:1:2-3-4:5" = .ok awkwardEvr ∧
    awkwardEvr.WellFormed ∧
    awkwardEvr.render = "18446744073709551615:1:2-3-4:5" ∧
    parse awkwardEvr.render = .ok awkwardEvr ∧
    Nevra.parse "compat-libs-9-1:1.0-.noarch" = .ok ⟨"compat-libs-9", 1, "1.0", ".noarch", ""⟩ ∧
    parse "1:1.0-.noarch" = .ok ⟨1, "1.0", ".noarch"⟩ ∧
    ¬Readable "18446744073709551616:1:2-3-4:5".toList := by
  have read : parse "+018446744073709551615:1:2-3-4:5" = .ok awkwardEvr := rfl
  have readPackage : Nevra.parse "compat-libs-9-1:1.0-.noarch" =
      .ok ⟨"compat-libs-9", 1, "1.0", ".noarch", ""⟩ := rfl
  have refused : parse "18446744073709551616:1:2-3-4:5" =
      .error (.invalidEvr "18446744073709551616:1:2-3-4:5") := rfl
  have wellFormed := parse_undoes_render.1 _ _ read
  exact ⟨read, wellFormed, by decide, (parse_undoes_render.2.1 _).2 wellFormed, readPackage,
    (parse_undoes_render.2.2.1 _ _ readPackage).2,
    ((parse_undoes_render.2.2.2.2.2 _ _).1 refused).2⟩

end Evr

end CveTriage
