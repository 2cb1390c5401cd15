import CveTriage.Proofs.Listing
import CveTriage.Proofs.Version.Token

/-!
# What a comparison does

Three consequences of the order of tokens. Reading bytes and reading characters comes to
the same, a shared front decides nothing, and the turns of a comparison end with that order.
-/

set_option autoImplicit false

namespace CveTriage.Version

/-! ## The bytes of a version string

Digits, letters and the markers are ASCII, so reading a version string byte by
byte finds what reading it by characters finds (`tokens_bytewise`). A character
beyond ASCII is a separator; so is each of its bytes, and there is at least
one of them, so that no run goes on across it.

Nothing in this depends on the encoding: separators may be spelled by any
separators at all, as long as none of them vanishes
(`SpellsSeparators.tokens_flatMap`).
-/

/-! ### Spelling characters out -/

/-- Only separators are spelled in another way, and only by separators. -/
def SpellsSeparators (spell : Char → List Char) : Prop :=
  ∀ char, spell char = [char] ∨
    isSeparator char = true ∧ spell char ≠ [] ∧ ∀ part ∈ spell char, isSeparator part = true

theorem isSeparator_of_isAlphanum {char : Char} (alphanum : char.isAlphanum = true) :
    isSeparator char = false := by
  simp [isSeparator, alphanum]

/-- What is no separator is spelled as it is. -/
theorem SpellsSeparators.same {spell : Char → List Char} (spells : SpellsSeparators spell)
    {char : Char} (meaningful : isSeparator char = false) : spell char = [char] := by
  rcases spells char with same | ⟨separator, -⟩
  · exact same
  · rw [meaningful] at separator
    cases separator

/-- What a separator is spelled as separates. -/
theorem SpellsSeparators.separators {spell : Char → List Char} (spells : SpellsSeparators spell)
    {char : Char} (separator : isSeparator char = true) :
    ∀ part ∈ spell char, isSeparator part = true := by
  rcases spells char with same | ⟨-, -, separators⟩
  · rw [same]
    exact List.forall_mem_singleton.2 separator
  · exact separators

theorem not_inRun_of_isSeparator {char : Char} (numeric : Bool)
    (separator : isSeparator char = true) : ¬inRun numeric char = true := by
  simp only [isSeparator, Bool.and_eq_true, Bool.not_eq_true', Char.isAlphanum,
    Bool.or_eq_false_iff] at separator
  cases numeric with
  | true => exact Bool.eq_false_iff.1 separator.1.1.2
  | false => exact Bool.eq_false_iff.1 separator.1.1.1

/-- A run ends where it ended before: at a separator, at the first part of its spelling. -/
theorem SpellsSeparators.cut_run {spell : Char → List Char} (spells : SpellsSeparators spell)
    (numeric : Bool) (text : List Char) :
    (text.flatMap spell).takeWhile (inRun numeric) = text.takeWhile (inRun numeric) ∧
      (text.flatMap spell).dropWhile (inRun numeric) =
        (text.dropWhile (inRun numeric)).flatMap spell := by
  induction text with
  | nil => exact ⟨rfl, rfl⟩
  | cons char rest ih =>
      obtain ⟨sameTaken, sameLeft⟩ := ih
      rw [List.flatMap_cons]
      rcases spells char with same | ⟨separator, notEmpty, separators⟩
      · rw [same, List.singleton_append]
        by_cases goesOn : inRun numeric char = true
        · rw [List.takeWhile_cons_of_pos goesOn, List.takeWhile_cons_of_pos goesOn,
            List.dropWhile_cons_of_pos goesOn, List.dropWhile_cons_of_pos goesOn, sameTaken]
          exact ⟨rfl, sameLeft⟩
        · rw [List.takeWhile_cons_of_neg goesOn, List.takeWhile_cons_of_neg goesOn,
            List.dropWhile_cons_of_neg goesOn, List.dropWhile_cons_of_neg goesOn,
            List.flatMap_cons, same]
          exact ⟨rfl, rfl⟩
      · have ends := not_inRun_of_isSeparator numeric separator
        obtain ⟨part, parts, shape⟩ := List.exists_cons_of_ne_nil notEmpty
        have endsAtPart := not_inRun_of_isSeparator numeric
          (separators part (shape ▸ List.mem_cons_self))
        rw [List.takeWhile_cons_of_neg ends, List.dropWhile_cons_of_neg ends, List.flatMap_cons,
          shape, List.cons_append, List.takeWhile_cons_of_neg endsAtPart,
          List.dropWhile_cons_of_neg endsAtPart]
        exact ⟨rfl, rfl⟩

theorem tokens_append_of_separators {separators : List Char}
    (separate : ∀ char ∈ separators, isSeparator char = true) (rest : List Char) :
    tokens (separators ++ rest) = tokens rest := by
  induction separators with
  | nil => rfl
  | cons char more ih =>
      rw [List.cons_append, tokens_separator _ (separate char List.mem_cons_self)]
      exact ih fun char member => separate char (List.mem_cons_of_mem _ member)

/-- **How separators are spelled leaves the tokens as they are.** -/
theorem SpellsSeparators.tokens_flatMap {spell : Char → List Char}
    (spells : SpellsSeparators spell) (text : List Char) :
    tokens (text.flatMap spell) = tokens text := by
  induction text using tokens_induction with
  | nil => rfl
  | tilde rest ih =>
      rw [List.flatMap_cons, spells.same (by decide), List.singleton_append, tokens_tilde,
        tokens_tilde, ih]
  | caret rest ih =>
      rw [List.flatMap_cons, spells.same (by decide), List.singleton_append, tokens_caret,
        tokens_caret, ih]
  | separator first rest separator ih =>
      rw [List.flatMap_cons, tokens_append_of_separators (spells.separators separator),
        tokens_separator _ separator, ih]
  | run first rest alphanum ih =>
      obtain ⟨sameTaken, sameLeft⟩ := spells.cut_run first.isDigit rest
      rw [List.flatMap_cons, spells.same (isSeparator_of_isAlphanum alphanum),
        List.singleton_append, tokens_run _ alphanum, tokens_run _ alphanum, sameTaken, sameLeft,
        ih]

/-! ### Bytes -/

/-- The bytes of a text, each as the character with its number. -/
def bytewise (text : String) : List Char :=
  (utf8Bytes text).map Char.ofUInt8

theorem toNat_lt_of_isAlphanum {char : Char} (alphanum : char.isAlphanum = true) :
    char.toNat < 128 := by
  rcases Bool.or_eq_true_iff.1 alphanum with alpha | digit
  · rcases Bool.or_eq_true_iff.1 alpha with upper | lower
    · have bound : char.toNat ≤ 'Z'.toNat := UInt32.le_iff_toNat_le.1 (of_decide_eq_true upper).2
      exact Nat.lt_of_le_of_lt bound (by decide)
    · have bound : char.toNat ≤ 'z'.toNat :=
        UInt32.le_iff_toNat_le.1 (of_decide_eq_true (Bool.and_eq_true_iff.1 lower).2)
      exact Nat.lt_of_le_of_lt bound (by decide)
  · have bound : char.toNat ≤ '9'.toNat := (Char.isDigit_iff_toNat.1 digit).2
    exact Nat.lt_of_le_of_lt bound (by decide)

/-- Characters beyond ASCII separate. -/
theorem isSeparator_of_le {char : Char} (beyond : 128 ≤ char.toNat) : isSeparator char = true := by
  have notAlphanum : ¬char.isAlphanum = true := by
    intro alphanum
    have ascii := toNat_lt_of_isAlphanum alphanum
    omega
  have notTilde : char ≠ '~' := by
    rintro rfl
    exact absurd beyond (by decide)
  have notCaret : char ≠ '^' := by
    rintro rfl
    exact absurd beyond (by decide)
  simp [isSeparator, notAlphanum, notTilde, notCaret]

/-- An ASCII character is its only byte, and the bytes of any other one are beyond ASCII. -/
theorem utf8EncodeChar_cases (char : Char) :
    (String.utf8EncodeChar char).map Char.ofUInt8 = [char] ∨
      128 ≤ char.toNat ∧ ∀ byte ∈ String.utf8EncodeChar char, 128 ≤ byte.toNat := by
  by_cases ascii : char.toNat < 128
  · left
    have size : char.utf8Size = 1 := by
      rw [Char.utf8Size_eq_one_iff, UInt32.le_iff_toNat_le]
      exact Nat.le_of_lt_succ ascii
    rw [String.utf8EncodeChar_eq_singleton size, List.map_singleton]
    congr 1
    apply Char.toNat_inj.1
    have small : char.toNat < 256 := Nat.lt_of_lt_of_le ascii (by decide)
    exact Nat.mod_eq_of_lt small
  · right
    refine ⟨Nat.le_of_not_lt ascii, ?_⟩
    have codes : ¬char.val.toNat < 128 := ascii
    have bound : char.val.toNat < 1114112 := by
      rcases char.valid with low | ⟨_, high⟩ <;> omega
    unfold String.utf8EncodeChar
    generalize char.val.toNat = code at codes bound
    dsimp only
    split_ifs <;> simp <;> omega

theorem spellsSeparators_utf8 :
    SpellsSeparators fun char => (String.utf8EncodeChar char).map Char.ofUInt8 := by
  intro char
  rcases utf8EncodeChar_cases char with same | ⟨beyond, bytes⟩
  · exact .inl same
  · refine .inr ⟨isSeparator_of_le beyond, by simp, ?_⟩
    intro part member
    obtain ⟨byte, byteMember, rfl⟩ := List.mem_map.1 member
    exact isSeparator_of_le (bytes byte byteMember)

/-- **A text and its bytes have the same tokens.** -/
theorem tokens_bytewise (text : String) : tokens (bytewise text) = tokens text.toList := by
  rw [bytewise, utf8Bytes_eq_flatMap, List.map_flatMap, spellsSeparators_utf8.tokens_flatMap]

/-! ## Versions that go on

Behind a version there may stand a tilde with a pre-release, a caret with a
snapshot, or a dot with a further segment. None of these characters belongs to a
run, so the tokens of the whole are those of the version followed by those of
the rest (`tokens_append`), whatever the version ends with. A shared front is then
a shared list of tokens and does not decide anything (`compareChars_append`), and
what is left to compare is the end of the list and the tokens behind it.

So a pre-release stands before its version, a snapshot behind it and in front of
every further segment, and versions with a common front compare by what comes
after the dot (`compare_continued`).
-/

/-! ### Tokens of a text in two parts -/

/-- The text does not go on with a run that was begun in front of it. -/
def StartsAfresh (text : List Char) : Prop :=
  ∀ first ∈ text.head?, first.isAlphanum = false

theorem startsAfresh_nil : StartsAfresh [] :=
  nofun

theorem startsAfresh_cons {first : Char} (other : first.isAlphanum = false) (rest : List Char) :
    StartsAfresh (first :: rest) := by
  rintro _ ⟨⟩
  exact other

theorem not_inRun_of_not_isAlphanum {char : Char} (numeric : Bool)
    (other : char.isAlphanum = false) : inRun numeric char = false := by
  obtain ⟨notAlpha, notDigit⟩ := Bool.or_eq_false_iff.1 other
  cases numeric with
  | true => exact notDigit
  | false => exact notAlpha

/-- A run ends in front of a text that starts afresh. -/
theorem StartsAfresh.cut_run {rest : List Char} (afresh : StartsAfresh rest) (numeric : Bool)
    (text : List Char) :
    (text ++ rest).takeWhile (inRun numeric) = text.takeWhile (inRun numeric) ∧
      (text ++ rest).dropWhile (inRun numeric) = text.dropWhile (inRun numeric) ++ rest := by
  have noRun : rest.takeWhile (inRun numeric) = [] ∧ rest.dropWhile (inRun numeric) = rest := by
    cases rest with
    | nil => exact ⟨rfl, rfl⟩
    | cons first more =>
        have ends : ¬inRun numeric first = true :=
          Bool.eq_false_iff.1 (not_inRun_of_not_isAlphanum numeric (afresh first rfl))
        exact ⟨List.takeWhile_cons_of_neg ends, List.dropWhile_cons_of_neg ends⟩
  rw [List.takeWhile_append, List.dropWhile_append, noRun.1, noRun.2, List.append_nil]
  constructor
  · split
    next whole => exact (List.takeWhile_prefix (inRun numeric)).eq_of_length whole |>.symm
    next => rfl
  · split
    next exhausted => rw [List.isEmpty_iff.1 exhausted, List.nil_append]
    next => rfl

/-- **The tokens of a text are those of its parts** when the second part starts afresh. -/
theorem tokens_append {rest : List Char} (afresh : StartsAfresh rest) (text : List Char) :
    tokens (text ++ rest) = tokens text ++ tokens rest := by
  induction text using tokens_induction with
  | nil => rw [tokens_nil, List.nil_append, List.nil_append]
  | tilde more ih => rw [List.cons_append, tokens_tilde, tokens_tilde, ih, List.cons_append]
  | caret more ih => rw [List.cons_append, tokens_caret, tokens_caret, ih, List.cons_append]
  | separator first more separator ih =>
      rw [List.cons_append, tokens_separator _ separator, tokens_separator _ separator, ih]
  | run first more alphanum ih =>
      obtain ⟨sameTaken, sameLeft⟩ := afresh.cut_run first.isDigit more
      rw [List.cons_append, tokens_run _ alphanum, tokens_run _ alphanum, sameTaken, sameLeft, ih,
        List.cons_append]

/-! ### Comparing behind a shared front -/

/-- Token lists compare by what stands behind their common front. -/
theorem compareTokens_append (shared left right : List Token) :
    compareTokens (shared ++ left) (shared ++ right) = compareTokens left right := by
  induction shared with
  | nil => rfl
  | cons token rest ih =>
      have same : token.compare token = .eq := by
        rw [← Token.compareWithEnd_some]
        exact Std.ReflCmp.compare_self
      rw [List.cons_append, List.cons_append, compareTokens, same, ih]
      rfl

/-- **A shared front does not decide**, when what stands behind it starts afresh. -/
theorem compareChars_append {left right : List Char} (leftAfresh : StartsAfresh left)
    (rightAfresh : StartsAfresh right) (shared : List Char) :
    compareChars (shared ++ left) (shared ++ right) = compareChars left right := by
  rw [compareChars_eq_compareTokens, compareChars_eq_compareTokens, tokens_append leftAfresh,
    tokens_append rightAfresh, compareTokens_append]

/-- A text compares with its own front the way its rest does with nothing. -/
theorem compareChars_append_left {rest : List Char} (afresh : StartsAfresh rest)
    (front : List Char) : compareChars (front ++ rest) front = compareChars rest [] := by
  have same := compareChars_append afresh startsAfresh_nil front
  rwa [List.append_nil] at same

theorem compareChars_append_right {rest : List Char} (afresh : StartsAfresh rest)
    (front : List Char) : compareChars front (front ++ rest) = compareChars [] rest := by
  have same := compareChars_append startsAfresh_nil afresh front
  rwa [List.append_nil] at same

/-! ### Tildes, carets and dots -/

theorem tokens_dot (rest : List Char) : tokens ('.' :: rest) = tokens rest :=
  tokens_separator rest (by decide)

theorem startsAfresh_tilde (rest : List Char) : StartsAfresh ('~' :: rest) :=
  startsAfresh_cons (by decide) rest

theorem startsAfresh_caret (rest : List Char) : StartsAfresh ('^' :: rest) :=
  startsAfresh_cons (by decide) rest

theorem startsAfresh_dot (rest : List Char) : StartsAfresh ('.' :: rest) :=
  startsAfresh_cons (by decide) rest

/-- A pre-release is older than its version. -/
theorem compareChars_tilde (version pre : List Char) :
    compareChars (version ++ '~' :: pre) version = .lt := by
  rw [compareChars_append_left (startsAfresh_tilde pre), compareChars_eq_compareTokens,
    tokens_tilde, tokens_nil]
  rfl

/-- A snapshot is newer than its version. -/
theorem compareChars_caret (version post : List Char) :
    compareChars version (version ++ '^' :: post) = .lt := by
  rw [compareChars_append_right (startsAfresh_caret post), compareChars_eq_compareTokens,
    tokens_caret, tokens_nil]
  rfl

/-- The first byte of the text is an ASCII letter or digit. -/
def StartsRun (text : String) : Prop :=
  ∃ first ∈ (bytewise text).head?, first.isAlphanum = true

namespace StartsRun

variable {next : String} (starts : StartsRun next)

include starts

/-- What starts a run is newer than the end of a text, and newer than a caret. -/
theorem two_lt_rank : 2 < Token.rank (tokens next.toList).head? := by
  obtain ⟨first, member, alphanum⟩ := starts
  obtain ⟨rest, shape⟩ := List.head?_eq_some_iff.1 member
  rw [← tokens_bytewise, shape, tokens_run rest alphanum, List.head?_cons, runToken]
  split <;> simp [Token.rank]

/-- A further segment makes a version newer. -/
theorem compareChars_dot (version : List Char) :
    compareChars version (version ++ '.' :: next.toList) = .lt := by
  rw [compareChars_append_right (startsAfresh_dot _), compareChars_eq_compareTokens, tokens_nil,
    tokens_dot]
  exact compareTokens_of_rank_lt (Nat.lt_of_succ_lt starts.two_lt_rank)

/-- A further segment makes a version newer than its snapshots. -/
theorem compareChars_caret_dot (version post : List Char) :
    compareChars (version ++ '^' :: post) (version ++ '.' :: next.toList) = .lt := by
  rw [compareChars_append (startsAfresh_caret post) (startsAfresh_dot _),
    compareChars_eq_compareTokens, tokens_caret, tokens_dot]
  exact compareTokens_of_rank_lt starts.two_lt_rank

end StartsRun

/-- What follows a dot compares as if there were nothing in front of the dot. -/
theorem compareChars_dot_dot (version left right : List Char) :
    compareChars (version ++ '.' :: left) (version ++ '.' :: right) = compareChars left right := by
  rw [compareChars_append (startsAfresh_dot left) (startsAfresh_dot right),
    compareChars_eq_compareTokens, compareChars_eq_compareTokens, tokens_dot, tokens_dot]

/-- **How versions that go on compare.** A pre-release is older than its version and
a snapshot is newer. A further segment makes a version newer than itself and than any
snapshot of it. Versions with a common front compare by what follows the dot. -/
theorem compare_continued :
    (∀ version pre, Version.compare (version ++ "~" ++ pre) version = .lt) ∧
    (∀ version post, Version.compare version (version ++ "^" ++ post) = .lt) ∧
    (∀ version post next, StartsRun next →
      Version.compare (version ++ "^" ++ post) (version ++ "." ++ next) = .lt) ∧
    (∀ version next, StartsRun next → Version.compare version (version ++ "." ++ next) = .lt) ∧
    ∀ version left right, Version.compare (version ++ "." ++ left) (version ++ "." ++ right) =
      Version.compare left right := by
  have joined (version mark rest : String) :
      (version ++ mark ++ rest).toList = version.toList ++ (mark.toList ++ rest.toList) := by
    rw [String.toList_append, String.toList_append, List.append_assoc]
  simp only [Version.compare, joined]
  refine ⟨fun version pre => ?_, fun version post => ?_, fun version post next starts => ?_,
    fun version next starts => ?_, fun version left right => ?_⟩
  · exact compareChars_tilde _ _
  · exact compareChars_caret _ _
  · exact starts.compareChars_caret_dot _ _
  · exact starts.compareChars_dot _
  · exact compareChars_dot_dot _ _ _

/-- A version that ends in separators, one of them beyond ASCII, and continuations
that have markers of their own. A text that starts with a marker starts no run. -/
theorem compare_continued_untidyVersion :
    StartsRun "0rc" ∧ ¬StartsRun "~1" ∧
    Version.compare "1.é-~^~" "1.é-" = .lt ∧
    Version.compare "1.é-" "1.é-^.7" = .lt ∧
    Version.compare "1.é-^.7" "1.é-.0rc" = .lt ∧
    Version.compare "1.é-" "1.é-.0rc" = .lt ∧
    Version.compare "1.é-.~1" "1.é-.0rc" = Version.compare "~1" "0rc" := by
  have starts : StartsRun "0rc" := ⟨'0', by decide, by decide⟩
  have startsNot : ¬StartsRun "~1" := by
    rintro ⟨first, member, alphanum⟩
    obtain rfl := Option.some.inj member
    cases alphanum
  exact ⟨starts, startsNot, compare_continued.1 "1.é-" "^~", compare_continued.2.1 "1.é-" ".7",
    compare_continued.2.2.1 "1.é-" ".7" "0rc" starts, compare_continued.2.2.2.1 "1.é-" "0rc" starts,
    compare_continued.2.2.2.2 "1.é-" "~1" "0rc"⟩

/-- A marker behind the dot is no further segment. -/
example : Version.compare "1" "1.~1" = .gt := by decide +kernel

/-! ## The comparison, turn by turn

What a turn settles is the order of the two texts, and what it leaves to the
rest is the order of the rest (`compareChars_eq_order_turn`). So every
comparison ends, and with that order (`exists_ends`, `Ends.sound`). The ending
at an empty run is never reached: behind the separators a text that starts with
no marker starts with a digit or a letter, and that is the kind of run looked
for.

Together with the order of token lists this describes the comparison of two version
strings, whether they are read by characters or by bytes (`compare_orders_tokens`).
-/

/-! ### Runs -/

/-- Where a run starts, runs are compared. -/
theorem turnAtRuns_eq {numeric : Bool} {leftFirst rightFirst : Char}
    {leftRest rightRest : List Char} (started : inRun numeric leftFirst = true) :
    turnAtRuns numeric (leftFirst :: leftRest) (rightFirst :: rightRest) =
      if inRun numeric rightFirst then
        match compareRuns numeric (leftFirst :: leftRest.takeWhile (inRun numeric))
          (rightFirst :: rightRest.takeWhile (inRun numeric)) with
        | .eq => .goesOn (leftRest.dropWhile (inRun numeric)) (rightRest.dropWhile (inRun numeric))
        | order => .ends .otherRun order
      else .ends .otherKind (if numeric then .gt else .lt) := by
  unfold turnAtRuns
  rw [List.takeWhile_cons_of_pos started, List.dropWhile_cons_of_pos started]
  by_cases sameKind : inRun numeric rightFirst = true
  · rw [List.takeWhile_cons_of_pos sameKind, List.dropWhile_cons_of_pos sameKind, if_pos sameKind]
    rfl
  · rw [List.takeWhile_cons_of_neg sameKind, if_neg sameKind]
    rfl

theorem inRun_of_alphanum {first : Char} (alphanum : first.isAlphanum = true) :
    inRun first.isDigit first = true :=
  inRun_of_mem [] alphanum first List.mem_cons_self

/-! ### One turn -/

/-- The order that a turn settles, or leaves to the rest of the texts. -/
def Turn.order : Turn → Ordering
  | .ends _ order => order
  | .goesOn left right => compareChars left right

/-- A turn looks at the same fronts as the walk and cuts the same runs from them. -/
theorem compareChars_eq_order_turn (left right : List Char) :
    compareChars left right = (turn left right).order := by
  rw [compareChars, turn]
  generalize leftShape : left.dropWhile isSeparator = leftFront
  generalize rightShape : right.dropWhile isSeparator = rightFront
  split
  case h_12 leftFirst leftRest rightFirst rightRest _ notTilde notTilde' _ notCaret notCaret' =>
    have alphanum := isAlphanum_of_dropWhile leftShape notTilde notCaret
    simp only [*, turnAtRuns_eq (inRun_of_alphanum alphanum)]
    split
    next =>
      cases compareRuns leftFirst.isDigit
        (leftFirst :: leftRest.takeWhile (inRun leftFirst.isDigit))
        (rightFirst :: rightRest.takeWhile (inRun leftFirst.isDigit)) <;> rfl
    next => split <;> rfl
  all_goals simp only [*, Turn.order]

/-- A turn does not end at an empty run, and what it leaves to read is shorter. -/
def Turn.Sound (left : List Char) : Turn → Prop
  | .ends ending _ => ending ≠ .emptyRun
  | .goesOn leftRest _ => leftRest.length < left.length

theorem sound_turn (left right : List Char) : (turn left right).Sound left := by
  rw [turn]
  generalize leftShape : left.dropWhile isSeparator = leftFront
  generalize right.dropWhile isSeparator = rightFront
  split
  case h_1 | h_4 => exact length_lt_of_dropWhile leftShape
  case h_12 leftFirst leftRest rightFirst rightRest _ notTilde _ _ notCaret _ =>
    rw [turnAtRuns_eq (inRun_of_alphanum (isAlphanum_of_dropWhile leftShape notTilde notCaret))]
    split
    next =>
      split
      next =>
        exact Nat.lt_of_le_of_lt (List.dropWhile_sublist _).length_le
          (length_lt_of_dropWhile leftShape)
      next => exact nofun
    next => exact nofun
  all_goals exact nofun

/-! ### The whole comparison -/

/-- **A comparison that ends settles the order, and never at an empty run.** -/
theorem Ends.sound {left right : List Char} {ending : Ending} {order : Ordering}
    (ended : Ends left right ending order) :
    order = compareChars left right ∧ ending ≠ .emptyRun := by
  induction ended with
  | @now left right ending order ends =>
      have sound := sound_turn left right
      rw [ends] at sound
      rw [compareChars_eq_order_turn, ends]
      exact ⟨rfl, sound⟩
  | @later left right leftRest rightRest ending order going _ ih =>
      obtain ⟨same, sound⟩ := ih
      rw [compareChars_eq_order_turn, going]
      exact ⟨same, sound⟩

/-- Every comparison ends. -/
theorem exists_ends (left right : List Char) : ∃ ending order, Ends left right ending order := by
  induction size : left.length using Nat.strongRecOn generalizing left right with
  | ind bound ih =>
      have sound := sound_turn left right
      cases outcome : turn left right with
      | ends ending order => exact ⟨ending, order, .now outcome⟩
      | goesOn leftRest rightRest =>
          rw [outcome] at sound
          have shorter : leftRest.length < bound := size ▸ sound
          obtain ⟨ending, order, ended⟩ := ih _ shorter leftRest rightRest rfl
          exact ⟨ending, order, .later outcome ended⟩

/-- What the comparison of two texts comes to. -/
structure ComparesTokens (left right : List Char) : Prop where
  /-- The order is lexicographic on tokens, the end of the list among them. -/
  lexicographic : compareChars left right =
    List.compareLex Token.compareWithEnd (withEnd (tokens left)) (withEnd (tokens right))
  equal_iff : compareChars left right = .eq ↔ tokens left = tokens right
  ends : ∃ ending, Ends left right ending (compareChars left right)
  /-- There is no other order to end with, and the first text never lacks the run. -/
  sound : ∀ {ending order}, Ends left right ending order →
    order = compareChars left right ∧ ending ≠ .emptyRun

/-- **Comparing version strings is comparing their tokens**, and whether a text is read by
characters or by bytes makes no difference to either. -/
theorem compare_orders_tokens :
    (∀ left right : List Char, ComparesTokens left right) ∧
      ∀ left right : String,
        tokens (bytewise left) = tokens left.toList ∧
          compareChars (bytewise left) (bytewise right) = Version.compare left right := by
  refine ⟨fun left right => ?_, fun left right => ?_⟩
  · refine { lexicographic := ?_, equal_iff := ?_, ends := ?_, sound := Ends.sound }
    · rw [compareChars_eq_compareTokens, compareTokens_eq_compareLex]
    · rw [compareChars_eq_compareTokens, compareTokens_eq_eq_iff]
    · obtain ⟨ending, order, ended⟩ := exists_ends left right
      exact ⟨ending, ended.sound.1 ▸ ended⟩
  · refine ⟨tokens_bytewise left, ?_⟩
    rw [Version.compare, compareChars_eq_compareTokens, compareChars_eq_compareTokens,
      tokens_bytewise, tokens_bytewise]

end CveTriage.Version
