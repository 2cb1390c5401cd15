import CveTriage.Package

/-!
# Package strings are read by their grammar

A package string is cut at its last two dashes, and the epochs are cut off at
the first colons. Every cut is forced: a release has no dash, a version has
none either and an epoch is made of digits, so the last two dashes are those
that the grammar names; and apart from the colons that end epochs the grammar
allows none. Hence the cuts find the parts of a text whenever it has parts
(`ofChars?_eq_some_iff`), and a text has at most one set of them
(`Spelling.Spells.unique`).

What the reader makes of the parts is said by `Spelling.Identifies`: at most
one epoch is written, and the last dot of the release splits off an
architecture when one is known there. A text with two epochs is refused for
that reason, and every other refusal is for its shape or for an epoch that is
out of range.
-/

set_option autoImplicit false

namespace CveTriage.Nevra

variable {text rest digits : List Char} {epoch : Option (List Char)} {spelling : Spelling}

/-! ## The shapes of the parts -/

theorem isName_iff : isName text = true ↔ text ≠ [] ∧ ':' ∉ text := by
  simp [isName]

theorem isPlain_iff : isPlain text = true ↔ text ≠ [] ∧ ':' ∉ text ∧ '-' ∉ text := by
  simp [isPlain, isName_iff, and_assoc]

/-- A numeral has digits only. -/
theorem not_mem_of_isNumeral (numeral : Text.Decimal.isNumeral digits = true) {char : Char}
    (other : char.isDigit = false) : char ∉ digits := by
  intro member
  simp only [Text.Decimal.isNumeral, Bool.and_eq_true, List.all_eq_true] at numeral
  rw [numeral.2 char member] at other
  cases other

/-- What is split off is an optional epoch, and nothing is lost. -/
theorem eq_of_splitEpoch?_eq_some (split : splitEpoch? text = some (epoch, rest)) :
    text = epochText epoch ++ rest ∧ ∀ digits ∈ epoch, Text.Decimal.isNumeral digits = true := by
  unfold splitEpoch? at split
  cases cut : Text.cutFirst ':' text with
  | none =>
      obtain ⟨rfl, rfl⟩ : none = epoch ∧ text = rest := by simpa [cut] using split
      simp [epochText]
  | some parts =>
      obtain ⟨before, after⟩ := parts
      simp only [cut, Option.ite_none_right_eq_some, Option.some.injEq, Prod.mk.injEq] at split
      obtain ⟨numeral, rfl, rfl⟩ := split
      refine ⟨by simpa [epochText] using (Text.cutFirst_eq_some_iff.1 cut).1, ?_⟩
      intro digits member
      obtain rfl := Option.mem_some_iff.1 member
      exact numeral

/-- An optional epoch in front of a text without colons is split off. -/
theorem splitEpoch?_epochText (numerals : ∀ digits ∈ epoch, Text.Decimal.isNumeral digits = true)
    (plain : ':' ∉ rest) : splitEpoch? (epochText epoch ++ rest) = some (epoch, rest) := by
  unfold splitEpoch?
  cases epoch with
  | none =>
      have uncut : Text.cutFirst ':' rest = none := Text.cutFirst_eq_none_iff.2 plain
      simp [epochText, uncut]
  | some digits =>
      have numeral := numerals digits rfl
      have cut : Text.cutFirst ':' (epochText (some digits) ++ rest) = some (digits, rest) :=
        Text.cutFirst_eq_some_iff.2
          ⟨by simp [epochText], not_mem_of_isNumeral numeral rfl⟩
      simp [cut, numeral]

/-! ## The parts of a text -/

/-- Between the last two dashes of a package string there is no further dash. -/
theorem Spelling.WellFormed.dash_not_mem (wellFormed : spelling.WellFormed) :
    '-' ∉ epochText spelling.innerEpoch ++ spelling.version := by
  rw [List.mem_append, not_or]
  refine ⟨?_, wellFormed.version.2.2⟩
  cases inner : spelling.innerEpoch with
  | none => simp [epochText]
  | some digits =>
      have absent : '-' ∉ digits := not_mem_of_isNumeral (wellFormed.innerEpoch digits inner) rfl
      simp [epochText, absent]

/-- **The cuts find exactly the parts that the grammar allows.** -/
theorem ofChars?_eq_some_iff : Spelling.ofChars? text = some spelling ↔ spelling.Spells text := by
  unfold Spelling.ofChars?
  simp only [Option.bind_eq_bind, Option.bind_eq_some_iff, Prod.exists,
    Option.ite_none_right_eq_some, Option.some.injEq, Bool.and_eq_true, isName_iff, isPlain_iff]
  constructor
  · rintro ⟨front, release, cutRelease, nameText, versionText, cutVersion, leadingEpoch, name,
      splitName, innerEpoch, version, splitVersion, ⟨⟨nameShape, versionShape⟩, releaseShape⟩, rfl⟩
    obtain ⟨nameWritten, leadingNumeral⟩ := eq_of_splitEpoch?_eq_some splitName
    obtain ⟨versionWritten, innerNumeral⟩ := eq_of_splitEpoch?_eq_some splitVersion
    refine ⟨⟨leadingNumeral, innerNumeral, nameShape, versionShape, releaseShape⟩, ?_⟩
    rw [(Text.cutLast_eq_some_iff.1 cutRelease).1, (Text.cutLast_eq_some_iff.1 cutVersion).1,
      nameWritten, versionWritten]
    simp [Spelling.toChars]
  · rintro ⟨wellFormed, rfl⟩
    have cutRelease : Text.cutLast '-' spelling.toChars =
        some (epochText spelling.leadingEpoch ++ spelling.name ++ '-' ::
          (epochText spelling.innerEpoch ++ spelling.version), spelling.release) :=
      Text.cutLast_eq_some_iff.2 ⟨by simp [Spelling.toChars], wellFormed.release.2.2⟩
    have cutVersion : Text.cutLast '-' (epochText spelling.leadingEpoch ++ spelling.name ++ '-' ::
          (epochText spelling.innerEpoch ++ spelling.version)) =
        some (epochText spelling.leadingEpoch ++ spelling.name,
          epochText spelling.innerEpoch ++ spelling.version) :=
      Text.cutLast_eq_some_iff.2 ⟨rfl, wellFormed.dash_not_mem⟩
    exact ⟨_, _, cutRelease, _, _, cutVersion,
      _, _, splitEpoch?_epochText wellFormed.leadingEpoch wellFormed.name.2,
      _, _, splitEpoch?_epochText wellFormed.innerEpoch wellFormed.version.2.1,
      ⟨⟨wellFormed.name, wellFormed.version⟩, wellFormed.release⟩, rfl⟩

/-- No text can be read in two ways. -/
theorem Spelling.Spells.unique {first second : Spelling} (one : first.Spells text)
    (other : second.Spells text) : first = second := by
  have found := ofChars?_eq_some_iff.2 one
  rw [ofChars?_eq_some_iff.2 other] at found
  exact (Option.some.inj found).symm

/-! ## What the parts say -/

/-- The epochs that are written, in either place. -/
def Spelling.epochs (spelling : Spelling) : List (List Char) :=
  spelling.leadingEpoch.toList ++ spelling.innerEpoch.toList

/-- The parts write the epoch once, or leave a zero out. -/
def Spelling.WritesEpoch (spelling : Spelling) (epoch : UInt64) : Prop :=
  (spelling.epochs = [] ∧ epoch = 0) ∨
    ∃ digits, spelling.epochs = [digits] ∧ Text.Decimal.value digits = epoch.toNat

/-- The text ends in a known architecture, with a dot and a release before it. -/
def EndsInArch (text release arch : List Char) : Prop :=
  text = release ++ '.' :: arch ∧ '.' ∉ arch ∧ release ≠ [] ∧
    String.ofList arch ∈ knownArchitectures

/-- The text is a release and an architecture, or a release alone when it does
not end in an architecture. -/
def SplitsInto (text release arch : List Char) : Prop :=
  EndsInArch text release arch ∨
    (release = text ∧ arch = [] ∧ ∀ front last, ¬EndsInArch text front last)

/-- The parts spell the identity. -/
structure Spelling.Identifies (spelling : Spelling) (nevra : Nevra) : Prop where
  name : nevra.name.toList = spelling.name
  epoch : spelling.WritesEpoch nevra.epoch
  version : nevra.version.toList = spelling.version
  release : SplitsInto spelling.release nevra.release.toList nevra.arch.toList

theorem endsInArch_iff {release arch : List Char} :
    EndsInArch text release arch ↔
      Text.cutLast '.' text = some (release, arch) ∧ release ≠ [] ∧
        String.ofList arch ∈ knownArchitectures := by
  rw [EndsInArch, Text.cutLast_eq_some_iff, and_assoc]

/-- The architecture is split off when there is one, and only then. -/
theorem splitArch_eq_iff {release arch : List Char} :
    splitArch text = (release, arch) ↔ SplitsInto text release arch := by
  simp only [SplitsInto, endsInArch_iff]
  unfold splitArch
  cases cut : Text.cutLast '.' text with
  | none => simp [eq_comm]
  | some parts =>
      obtain ⟨front, last⟩ := parts
      by_cases ends : front ≠ [] ∧ String.ofList last ∈ knownArchitectures
      · have checked :
            (!front.isEmpty && knownArchitectures.contains (String.ofList last)) = true := by
          simpa using ends
        simp only [checked, if_true, Option.some.injEq, Prod.mk.injEq]
        constructor
        · rintro ⟨rfl, rfl⟩
          exact .inl ⟨⟨rfl, rfl⟩, ends⟩
        · rintro (⟨same, -⟩ | ⟨-, -, never⟩)
          · exact same
          · exact absurd ⟨⟨rfl, rfl⟩, ends⟩ (never front last)
      · have checked :
            (!front.isEmpty && knownArchitectures.contains (String.ofList last)) = false := by
          simpa using ends
        simp only [checked, Bool.false_eq_true, if_false, Option.some.injEq, Prod.mk.injEq]
        constructor
        · rintro ⟨rfl, rfl⟩
          refine .inr ⟨rfl, rfl, ?_⟩
          rintro _ _ ⟨⟨rfl, rfl⟩, known⟩
          exact ends known
        · rintro (⟨⟨rfl, rfl⟩, known⟩ | ⟨rfl, rfl, -⟩)
          · exact absurd known ends
          · exact ⟨rfl, rfl⟩

/-- Parts spell the identity that is made of them with the epoch that they write. -/
theorem Spelling.identifies_iff {nevra : Nevra} :
    spelling.Identifies nevra ↔
      spelling.WritesEpoch nevra.epoch ∧ ofSpelling spelling nevra.epoch = nevra := by
  cases split : splitArch spelling.release with
  | mk release arch =>
    constructor
    · rintro ⟨name, written, version, parts⟩
      rw [splitArch_eq_iff.2 parts] at split
      obtain ⟨rfl, rfl⟩ := Prod.mk.inj split
      refine ⟨written, ?_⟩
      simp [ofSpelling, splitArch_eq_iff.2 parts, ← name, ← version]
    · rintro ⟨written, same⟩
      generalize nevra.epoch = epoch at written same
      subst same
      have parts := splitArch_eq_iff.1 split
      exact ⟨by simp [ofSpelling], written, by simp [ofSpelling], by simpa [ofSpelling, split]⟩

theorem Spelling.WellFormed.isNumeral_of_mem_epochs (wellFormed : spelling.WellFormed)
    (member : digits ∈ spelling.epochs) : Text.Decimal.isNumeral digits = true := by
  rcases List.mem_append.1 member with leading | inner
  · exact wellFormed.leadingEpoch digits (Option.mem_toList.1 leading)
  · exact wellFormed.innerEpoch digits (Option.mem_toList.1 inner)

/-! ## Reading -/

variable {input : String} {nevra : Nevra}

/-- A text has parts, or it is refused for its shape. -/
theorem exists_spells_or_parse_eq (input : String) :
    (∃ spelling : Spelling, spelling.Spells input.toList) ∨
      parse input = .error (.invalidNevra input) := by
  cases found : Spelling.ofChars? input.toList with
  | none => exact .inr (by rw [parse, found])
  | some spelling => exact .inl ⟨spelling, ofChars?_eq_some_iff.1 found⟩

/-- What a text with parts is read as depends on the number of epochs first. -/
theorem parse_of_spells (spelled : spelling.Spells input.toList) :
    parse input =
      match spelling.epochs with
      | [] => .ok (ofSpelling spelling 0)
      | [digits] =>
        match epochOfDigits? digits with
        | some epoch => .ok (ofSpelling spelling epoch)
        | none => .error (.invalidNevra input)
      | _ => .error (.duplicateEpoch input) := by
  rw [parse, ofChars?_eq_some_iff.2 spelled]
  cases leading : spelling.leadingEpoch <;> cases inner : spelling.innerEpoch <;>
    simp only [Spelling.epochs, leading, inner] <;> rfl

/-- A text with parts is read as the identity that the parts spell. -/
theorem parse_eq_ok_iff_of_spells (spelled : spelling.Spells input.toList) :
    parse input = .ok nevra ↔ spelling.Identifies nevra := by
  rw [parse_of_spells spelled, Spelling.identifies_iff, Spelling.WritesEpoch]
  cases epochs : spelling.epochs with
  | nil =>
      simp only [Except.ok.injEq, true_and, List.ne_cons_self, false_and, exists_false, or_false]
      constructor
      · rintro rfl
        exact ⟨rfl, rfl⟩
      · rintro ⟨zero, same⟩
        rw [← zero, same]
  | cons digits others =>
      cases others with
      | nil =>
          have member : digits ∈ spelling.epochs := by simp [epochs]
          have numeral := spelled.1.isNumeral_of_mem_epochs member
          have denotes : Text.Decimal.value digits = nevra.epoch.toNat ↔
              epochOfDigits? digits = some nevra.epoch := by
            rw [epochOfDigits?_eq_some_iff, and_iff_right numeral]
          simp only [List.cons_ne_nil, false_and, List.cons.injEq, and_true, exists_eq_left',
            false_or, denotes]
          cases epochOfDigits? digits with
          | none => simp
          | some epoch =>
              simp only [Except.ok.injEq, Option.some.injEq]
              constructor
              · rintro rfl
                exact ⟨rfl, rfl⟩
              · rintro ⟨rfl, same⟩
                exact same
      | cons => simp

/-- A text with parts is refused for its epochs when there are two. -/
theorem parse_eq_duplicateEpoch_iff_of_spells (spelled : spelling.Spells input.toList) :
    parse input = .error (.duplicateEpoch input) ↔ 2 ≤ spelling.epochs.length := by
  rw [parse_of_spells spelled]
  cases spelling.epochs with
  | nil => simp
  | cons digits others =>
      cases others with
      | nil => cases read : epochOfDigits? digits <;> simp [read]
      | cons => simp

/-- Texts are refused in two ways only. -/
theorem eq_of_parse_eq_error {cause : PackageError} (refused : parse input = .error cause) :
    cause = .invalidNevra input ∨ cause = .duplicateEpoch input := by
  rcases exists_spells_or_parse_eq input with ⟨spelling, spelled⟩ | shapeless
  · rw [parse_of_spells spelled] at refused
    split at refused
    · cases refused
    · split at refused
      · cases refused
      · exact .inl (Except.error.inj refused).symm
    · exact .inr (Except.error.inj refused).symm
  · rw [shapeless] at refused
    exact .inl (Except.error.inj refused).symm

/-- The parts have both epochs exactly when they write two. -/
theorem Spelling.two_le_length_epochs_iff :
    2 ≤ spelling.epochs.length ↔
      spelling.leadingEpoch.isSome = true ∧ spelling.innerEpoch.isSome = true := by
  unfold Spelling.epochs
  cases spelling.leadingEpoch <;> cases spelling.innerEpoch <;> simp

/-- Parts spell an identity when they write at most one epoch, and in range. -/
theorem Spelling.exists_identifies_iff :
    (∃ nevra, spelling.Identifies nevra) ↔
      spelling.epochs.length ≤ 1 ∧
        ∀ digits ∈ spelling.epochs, Text.Decimal.value digits < UInt64.size := by
  constructor
  · rintro ⟨nevra, -, ⟨none, -⟩ | ⟨digits, one, value⟩, -, -⟩
    · simp [none]
    · have small := nevra.epoch.toNat_lt
      simpa [one, value] using small
  · rintro ⟨few, small⟩
    cases epochs : spelling.epochs with
    | nil => exact ⟨ofSpelling spelling 0, identifies_iff.2 ⟨.inl ⟨epochs, rfl⟩, rfl⟩⟩
    | cons digits others =>
        cases others with
        | nil =>
            have value := UInt64.toNat_ofNat_of_lt' (small digits (by simp [epochs]))
            exact ⟨ofSpelling spelling (UInt64.ofNat (Text.Decimal.value digits)),
              identifies_iff.2 ⟨.inr ⟨digits, epochs, value.symm⟩, rfl⟩⟩
        | cons => simp [epochs] at few

/-- An identity is read exactly from the texts whose parts spell it. -/
theorem parse_eq_ok_iff :
    parse input = .ok nevra ↔
      ∃ spelling : Spelling, spelling.Spells input.toList ∧ spelling.Identifies nevra := by
  constructor
  · intro read
    rcases exists_spells_or_parse_eq input with ⟨spelling, spelled⟩ | shapeless
    · exact ⟨spelling, spelled, (parse_eq_ok_iff_of_spells spelled).1 read⟩
    · rw [shapeless] at read
      cases read
  · rintro ⟨spelling, spelled, identifies⟩
    exact (parse_eq_ok_iff_of_spells spelled).2 identifies

/-! ## The grammar as a whole -/

/-- The text has parts that write at most one epoch, and in range. -/
def Acceptable (text : List Char) : Prop :=
  ∃ spelling : Spelling, spelling.Spells text ∧ spelling.epochs.length ≤ 1 ∧
    ∀ digits ∈ spelling.epochs, Text.Decimal.value digits < UInt64.size

/-- The text has parts with both epochs. -/
def HasTwoEpochs (text : List Char) : Prop :=
  ∃ spelling : Spelling, spelling.Spells text ∧
    spelling.leadingEpoch.isSome = true ∧ spelling.innerEpoch.isSome = true

theorem exists_parse_eq_ok_iff :
    (∃ nevra, parse input = .ok nevra) ↔ Acceptable input.toList := by
  simp only [parse_eq_ok_iff, Acceptable]
  rw [exists_comm]
  simp only [exists_and_left, Spelling.exists_identifies_iff]

theorem parse_eq_duplicateEpoch_iff :
    parse input = .error (.duplicateEpoch input) ↔ HasTwoEpochs input.toList := by
  simp only [HasTwoEpochs, ← Spelling.two_le_length_epochs_iff]
  constructor
  · intro refused
    rcases exists_spells_or_parse_eq input with ⟨spelling, spelled⟩ | shapeless
    · exact ⟨spelling, spelled, (parse_eq_duplicateEpoch_iff_of_spells spelled).1 refused⟩
    · rw [shapeless] at refused
      cases refused
  · rintro ⟨spelling, spelled, both⟩
    exact (parse_eq_duplicateEpoch_iff_of_spells spelled).2 both

theorem parse_eq_invalidNevra_iff :
    parse input = .error (.invalidNevra input) ↔
      ¬Acceptable input.toList ∧ ¬HasTwoEpochs input.toList := by
  rw [← exists_parse_eq_ok_iff, ← parse_eq_duplicateEpoch_iff]
  cases outcome : parse input with
  | ok nevra => simp
  | error cause =>
      rcases eq_of_parse_eq_error outcome with rfl | rfl <;> simp

/-- Two spellings that differ in the place of the epoch are read alike. -/
theorem exists_parse_eq_ok_of_moved {name version release : List Char}
    (wellFormed : Spelling.WellFormed ⟨some digits, name, none, version, release⟩)
    (small : Text.Decimal.value digits < UInt64.size) :
    ∃ nevra,
      parse (String.ofList (Spelling.toChars ⟨some digits, name, none, version, release⟩)) =
        .ok nevra ∧
      parse (String.ofList (Spelling.toChars ⟨none, name, some digits, version, release⟩)) =
        .ok nevra := by
  have movedWellFormed : Spelling.WellFormed ⟨none, name, some digits, version, release⟩ :=
    ⟨nofun, wellFormed.leadingEpoch, wellFormed.name, wellFormed.version, wellFormed.release⟩
  have inRange : ∃ nevra, Spelling.Identifies ⟨some digits, name, none, version, release⟩ nevra :=
    Spelling.exists_identifies_iff.2 ⟨by simp [Spelling.epochs], by simpa [Spelling.epochs]⟩
  obtain ⟨nevra, identifies⟩ := inRange
  have movedIdentifies :
      Spelling.Identifies ⟨none, name, some digits, version, release⟩ nevra :=
    ⟨identifies.name, identifies.epoch, identifies.version, identifies.release⟩
  exact ⟨nevra, parse_eq_ok_iff.2 ⟨_, ⟨wellFormed, String.toList_ofList⟩, identifies⟩,
    parse_eq_ok_iff.2 ⟨_, ⟨movedWellFormed, String.toList_ofList⟩, movedIdentifies⟩⟩

/-- **Package strings are read by their grammar, which is unambiguous.** A text
has parts in at most one way. It is read when its parts write at most one epoch
and in range, and then as the identity that the parts spell; it is refused for
its epochs when both are written, whatever their size, and for its shape in all
other cases. An epoch may stand in either place. -/
theorem parse_reads_grammar :
    (∀ (text : List Char) (first second : Spelling),
      first.Spells text → second.Spells text → first = second) ∧
    (∀ input, (∃ nevra, parse input = .ok nevra) ↔ Acceptable input.toList) ∧
    (∀ input nevra, parse input = .ok nevra ↔
      ∃ spelling : Spelling, spelling.Spells input.toList ∧ spelling.Identifies nevra) ∧
    (∀ input, parse input = .error (.duplicateEpoch input) ↔ HasTwoEpochs input.toList) ∧
    (∀ input, parse input = .error (.invalidNevra input) ↔
      ¬Acceptable input.toList ∧ ¬HasTwoEpochs input.toList) ∧
    (∀ digits name version release : List Char,
      Spelling.WellFormed ⟨some digits, name, none, version, release⟩ →
      Text.Decimal.value digits < UInt64.size →
      ∃ nevra,
        parse (String.ofList (Spelling.toChars ⟨some digits, name, none, version, release⟩)) =
          .ok nevra ∧
        parse (String.ofList (Spelling.toChars ⟨none, name, some digits, version, release⟩)) =
          .ok nevra) :=
  ⟨fun _ _ _ => Spelling.Spells.unique, fun _ => exists_parse_eq_ok_iff,
    fun _ _ => parse_eq_ok_iff, fun _ => parse_eq_duplicateEpoch_iff,
    fun _ => parse_eq_invalidNevra_iff, fun _ _ _ _ => exists_parse_eq_ok_of_moved⟩

/-- Parts with an epoch before the name. -/
def opensslSpelling : Spelling :=
  ⟨some ['1'], "openssl".toList, none, "3.0.7".toList, "24.el9.x86_64".toList⟩

/-- The same package is read whichever place the epoch stands in. -/
theorem parse_reads_openssl :
    opensslSpelling.Spells "1:openssl-3.0.7-24.el9.x86_64".toList ∧
    (∀ spelling : Spelling, spelling.Spells "1:openssl-3.0.7-24.el9.x86_64".toList →
      spelling = opensslSpelling) ∧
    ∃ nevra,
      parse "1:openssl-3.0.7-24.el9.x86_64" = .ok nevra ∧
      parse "openssl-1:3.0.7-24.el9.x86_64" = .ok nevra := by
  have wellFormed : opensslSpelling.WellFormed :=
    ⟨by rintro _ ⟨⟩; decide, nofun, by decide, by decide, by decide⟩
  have spelled : opensslSpelling.Spells "1:openssl-3.0.7-24.el9.x86_64".toList :=
    ⟨wellFormed, by decide⟩
  exact ⟨spelled, fun spelling other => parse_reads_grammar.1 _ _ _ other spelled,
    parse_reads_grammar.2.2.2.2.2 _ _ _ _ wellFormed (by decide)⟩

end CveTriage.Nevra
