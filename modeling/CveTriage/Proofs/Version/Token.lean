import CveTriage.Text
import CveTriage.Version
import Mathlib.Algebra.Group.Nat.Defs

/-!
# The comparison is the order of tokens

Version strings are compared as texts. What decides the comparison is what the texts mean:
the numbers that numerals denote, and the tokens of the strings.
-/

set_option autoImplicit false

namespace CveTriage.Version

open Std (TransCmp)

/-! ## Comparing numerals without reading them

Version strings may contain numerals of any length, so they are compared as
texts: without their leading zeros the longer one is larger, and equally long
ones compare digit by digit. That is the order of the numbers that they denote
(`compareNumerals_eq_compare_value`).

Two facts about positional notation carry the proof. A numeral is below the
power of ten with as many zeros as it has digits (`value_lt_pow_length`), and
it reaches the power with one zero less when its first digit is not zero
(`pow_length_le_value`).
-/

section Numeral

open Text.Decimal (value)

/-! ### Positional notation -/

/-- The number that a digit denotes. -/
def digitValue (digit : Char) : Nat :=
  digit.toNat - '0'.toNat

theorem digitValue_lt_ten {digit : Char} (isDigit : digit.isDigit = true) :
    digitValue digit < 10 := by
  have range := Char.isDigit_iff_toNat.1 isDigit
  have nine : '9'.toNat = '0'.toNat + 9 := rfl
  unfold digitValue
  omega

/-- Digits compare as characters the way their values do. -/
theorem compare_eq_compare_digitValue {left right : Char} (leftDigit : left.isDigit = true)
    (rightDigit : right.isDigit = true) :
    compare left right = compare (digitValue left) (digitValue right) := by
  have leftRange := (Char.isDigit_iff_toNat.1 leftDigit).1
  have rightRange := (Char.isDigit_iff_toNat.1 rightDigit).1
  have less : left < right ↔ digitValue left < digitValue right := by
    rw [Char.lt_def, UInt32.lt_iff_toNat_lt, Char.toNat_val, Char.toNat_val]
    unfold digitValue
    omega
  have same : left = right ↔ digitValue left = digitValue right := by
    rw [← Char.toNat_inj]
    unfold digitValue
    omega
  simp only [compare, compareOfLessAndEq, less, same]

theorem value_nil : value [] = 0 :=
  Nat.ofDigitChars_nil

/-- The first digit counts as often as the power of ten behind it says. -/
theorem value_cons (digit : Char) (rest : List Char) :
    value (digit :: rest) = 10 ^ rest.length * digitValue digit + value rest := by
  rw [value, Nat.ofDigitChars_cons, Nat.ofDigitChars_eq_ofDigitChars_zero]
  simp only [Nat.mul_zero, Nat.zero_add]
  rfl

theorem value_lt_pow_length {digits : List Char}
    (numeral : ∀ digit ∈ digits, digit.isDigit = true) : value digits < 10 ^ digits.length := by
  induction digits with
  | nil => simp [value_nil]
  | cons digit rest ih =>
      have small := digitValue_lt_ten (numeral digit (by simp))
      have tail := ih fun other member => numeral other (by simp [member])
      rw [value_cons, List.length_cons, Nat.pow_succ]
      calc 10 ^ rest.length * digitValue digit + value rest
          < 10 ^ rest.length * digitValue digit + 10 ^ rest.length := by omega
        _ = 10 ^ rest.length * (digitValue digit + 1) := by rw [Nat.mul_succ]
        _ ≤ 10 ^ rest.length * 10 := Nat.mul_le_mul_left _ small

theorem pow_length_le_value {digit : Char} {rest : List Char} (isDigit : digit.isDigit = true)
    (nonzero : digit ≠ '0') : 10 ^ rest.length ≤ value (digit :: rest) := by
  have positive : 1 ≤ digitValue digit := by
    have range := (Char.isDigit_iff_toNat.1 isDigit).1
    have differs : digit.toNat ≠ '0'.toNat := fun same => nonzero (Char.toNat_inj.1 same)
    unfold digitValue
    omega
  rw [value_cons]
  calc 10 ^ rest.length = 10 ^ rest.length * 1 := (Nat.mul_one _).symm
    _ ≤ 10 ^ rest.length * digitValue digit := Nat.mul_le_mul_left _ positive
    _ ≤ 10 ^ rest.length * digitValue digit + value rest := Nat.le_add_right _ _

/-- Leading zeros do not change the value. -/
theorem value_dropWhile_zero (digits : List Char) :
    value (digits.dropWhile (· == '0')) = value digits := by
  induction digits with
  | nil => rfl
  | cons digit rest ih =>
      by_cases zero : digit = '0'
      · subst zero
        simpa [value_cons, digitValue] using ih
      · rw [List.dropWhile_cons_of_neg (by simpa using zero)]

/-! ### The order of numerals -/

/-- Numbers in positional notation compare by their upper part first. -/
theorem compare_mul_add {base upper lower upper' lower' : Nat} (small : lower < base)
    (small' : lower' < base) :
    compare (base * upper + lower) (base * upper' + lower') =
      (compare upper upper').then (compare lower lower') := by
  have below {first second first' second' : Nat} (bound : second < base) (less : first < first') :
      base * first + second < base * first' + second' :=
    calc base * first + second < base * first + base := by omega
      _ = base * (first + 1) := (Nat.mul_succ _ _).symm
      _ ≤ base * first' := Nat.mul_le_mul_left _ less
      _ ≤ base * first' + second' := Nat.le_add_right _ _
  rcases Nat.lt_trichotomy upper upper' with less | rfl | greater
  · rw [Nat.compare_eq_lt.2 less, Nat.compare_eq_lt.2 (below small less)]
    rfl
  · have equal : compare upper upper = .eq := Nat.compare_eq_eq.2 rfl
    rw [equal]
    simp only [Ordering.then, Nat.compare_eq_ite_lt, Nat.add_lt_add_iff_left]
  · rw [Nat.compare_eq_gt.2 greater, Nat.compare_eq_gt.2 (below small' greater)]
    rfl

/-- Equally long numerals compare digit by digit. -/
theorem compareLex_eq_compare_value {left right : List Char}
    (leftNumeral : ∀ digit ∈ left, digit.isDigit = true)
    (rightNumeral : ∀ digit ∈ right, digit.isDigit = true) (long : left.length = right.length) :
    List.compareLex compare left right = compare (value left) (value right) := by
  induction left generalizing right with
  | nil =>
      cases right with
      | nil => rfl
      | cons => simp at long
  | cons digit rest ih =>
      cases right with
      | nil => simp at long
      | cons digit' rest' =>
          have long' : rest.length = rest'.length := by simpa using long
          have numeral : ∀ other ∈ rest, other.isDigit = true :=
            fun other member => leftNumeral other (by simp [member])
          have numeral' : ∀ other ∈ rest', other.isDigit = true :=
            fun other member => rightNumeral other (by simp [member])
          rw [List.compareLex_cons_cons, value_cons, value_cons, ← long',
            compare_mul_add (value_lt_pow_length numeral) (long' ▸ value_lt_pow_length numeral'),
            ih numeral numeral' long',
            compare_eq_compare_digitValue (leftNumeral _ (by simp)) (rightNumeral _ (by simp))]

/-- A numeral without leading zeros is smaller than every longer one. -/
theorem value_lt_value_of_length_lt {left right : List Char}
    (leftNumeral : ∀ digit ∈ left, digit.isDigit = true)
    (rightNumeral : ∀ digit ∈ right, digit.isDigit = true)
    (noZero : right.head? ≠ some '0') (shorter : left.length < right.length) :
    value left < value right := by
  cases right with
  | nil => simp at shorter
  | cons digit rest =>
      have nonzero : digit ≠ '0' := by simpa using noZero
      calc value left < 10 ^ left.length := value_lt_pow_length leftNumeral
        _ ≤ 10 ^ rest.length := Nat.pow_le_pow_right (by decide) (Nat.le_of_lt_succ shorter)
        _ ≤ value (digit :: rest) := pow_length_le_value (rightNumeral _ (by simp)) nonzero

/-- **Numerals compare as texts the way their values do.** -/
theorem compareNumerals_eq_compare_value {left right : List Char}
    (leftNumeral : ∀ digit ∈ left, digit.isDigit = true)
    (rightNumeral : ∀ digit ∈ right, digit.isDigit = true) :
    compareNumerals left right = compare (value left) (value right) := by
  have trimmed {digits : List Char} (numeral : ∀ digit ∈ digits, digit.isDigit = true) :
      ∀ digit ∈ digits.dropWhile (· == '0'), digit.isDigit = true :=
    fun digit member => numeral digit ((List.dropWhile_sublist _).mem member)
  have noZero (digits : List Char) : (digits.dropWhile (· == '0')).head? ≠ some '0' := by
    intro first
    have kept := List.head?_dropWhile_not (· == '0') digits
    simp [first] at kept
  rw [compareNumerals, ← value_dropWhile_zero left, ← value_dropWhile_zero right]
  have leftTrimmed := trimmed leftNumeral
  have rightTrimmed := trimmed rightNumeral
  rcases Nat.lt_trichotomy (left.dropWhile (· == '0')).length
    (right.dropWhile (· == '0')).length with shorter | equal | longer
  · rw [Nat.compare_eq_lt.2 shorter, Nat.compare_eq_lt.2
      (value_lt_value_of_length_lt leftTrimmed rightTrimmed (noZero right) shorter)]
    rfl
  · rw [Nat.compare_eq_eq.2 equal, compareLex_eq_compare_value leftTrimmed rightTrimmed equal]
    rfl
  · rw [Nat.compare_eq_gt.2 longer, Nat.compare_eq_gt.2
      (value_lt_value_of_length_lt rightTrimmed leftTrimmed (noZero left) longer)]
    rfl

end Numeral

/-! ## Version strings compare the way their tokens do

The comparison of version strings walks two texts at once and stops at the
first difference. Here it is shown to be the order of their token lists
(`compareChars_eq_compareTokens`): separators leave no token, a pair of runs of
the same kind compares as the two tokens do, and a pair of different kinds is
decided by the kinds.

That order is lexicographic once the end of a list is a token of its own, one
between the tilde and the caret (`compareTokens_eq_compareLex`). Tokens compare
by their kind and then by what they hold, so their order is a total preorder,
and the order of token lists is one too.
-/

/-! ### The order of tokens -/

namespace Token

/-- Where the kind of a token, or the end of a list, stands in the order. -/
def rank : Option Token → Nat
  | some .tilde => 0
  | none => 1
  | some .caret => 2
  | some (.word _) => 3
  | some (.number _) => 4

/-- The letters of a word; other tokens have none. -/
def letters : Option Token → List Char
  | some (.word letters) => letters
  | _ => []

/-- The value of a number; of other tokens it is zero. -/
def value : Option Token → Nat
  | some (.number value) => value
  | _ => 0

/-- The order of tokens with the end of a list among them: by kind, and then by
what the tokens hold. -/
def compareWithEnd : Option Token → Option Token → Ordering :=
  compareLex (compareOn rank) (compareLex (compareOn letters) (compareOn value))

theorem compareWithEnd_some (left right : Token) :
    compareWithEnd (some left) (some right) = left.compare right := by
  cases left with
  | tilde => cases right <;> rfl
  | caret => cases right <;> rfl
  | word letters =>
      cases right with
      | word letters' => exact Ordering.then_eq
      | _ => rfl
  | number value => cases right <;> rfl

theorem compareWithEnd_none_some (right : Token) :
    compareWithEnd none (some right) = right.compareEnd := by
  cases right <;> rfl

theorem compareWithEnd_some_none (left : Token) :
    compareWithEnd (some left) none = left.compareEnd.swap := by
  cases left <;> rfl

end Token

/-- The tokens of a list and its end. -/
def withEnd (tokens : List Token) : List (Option Token) :=
  tokens.map some ++ [none]

/-- Token lists compare lexicographically with their ends as tokens. -/
theorem compareTokens_eq_compareLex (left right : List Token) :
    compareTokens left right =
      List.compareLex Token.compareWithEnd (withEnd left) (withEnd right) := by
  induction left generalizing right with
  | nil =>
      cases right with
      | nil => rfl
      | cons token rest =>
          simp only [withEnd, List.map_nil, List.nil_append, List.map_cons, List.cons_append,
            List.compareLex_cons_cons, Token.compareWithEnd_none_some, compareTokens]
          cases token <;> rfl
  | cons token rest ih =>
      cases right with
      | nil =>
          simp only [withEnd, List.map_nil, List.nil_append, List.map_cons, List.cons_append,
            List.compareLex_cons_cons, Token.compareWithEnd_some_none, compareTokens]
          cases token <;> rfl
      | cons token' rest' =>
          simp only [withEnd, List.map_cons, List.cons_append, List.compareLex_cons_cons,
            Token.compareWithEnd_some, compareTokens]
          rw [ih]
          rfl

/-- The order of tokens is a total preorder. -/
instance : TransCmp Token.compareWithEnd :=
  inferInstanceAs (TransCmp (compareLex _ (compareLex _ _)))

/-- The order of token lists is a total preorder. -/
instance : TransCmp compareTokens where
  eq_swap {left right} := by
    rw [compareTokens_eq_compareLex, compareTokens_eq_compareLex]
    exact Std.OrientedCmp.eq_swap
  isLE_trans {first second third} := by
    rw [compareTokens_eq_compareLex, compareTokens_eq_compareLex, compareTokens_eq_compareLex]
    exact TransCmp.isLE_trans

/-- A token is given by its kind and what it holds. -/
theorem Token.eq_of_content {left right : Option Token} (ranks : rank left = rank right)
    (sameLetters : letters left = letters right) (sameValue : value left = value right) :
    left = right := by
  rcases left with _ | _ | _ | run | number <;> rcases right with _ | _ | _ | run' | number'
  case some.word.some.word => exact congrArg (fun run => some (Token.word run)) sameLetters
  case some.number.some.number =>
    exact congrArg (fun number => some (Token.number number)) sameValue
  all_goals first | rfl | simp [rank] at ranks

/-- Only equal tokens compare equal. -/
instance : Std.LawfulEqCmp Token.compareWithEnd where
  compare_self := Std.ReflCmp.compare_self
  eq_of_compare equal := by
    obtain ⟨sameRank, sameContent⟩ := compareLex_eq_eq.1 equal
    obtain ⟨sameLetters, sameValue⟩ := compareLex_eq_eq.1 sameContent
    exact Token.eq_of_content (Std.LawfulEqOrd.eq_of_compare sameRank)
      (Std.LawfulEqOrd.eq_of_compare sameLetters) (Std.LawfulEqOrd.eq_of_compare sameValue)

theorem withEnd_inj {left right : List Token} : withEnd left = withEnd right ↔ left = right := by
  rw [withEnd, withEnd, List.append_cancel_right_eq]
  exact List.map_inj_right fun _ _ => Option.some.inj

/-- Only equal lists compare equal. -/
theorem compareTokens_eq_eq_iff {left right : List Token} :
    compareTokens left right = .eq ↔ left = right := by
  rw [compareTokens_eq_compareLex, Std.LawfulEqCmp.compare_eq_iff_eq, withEnd_inj]

/-- Lists whose first tokens, or ends, are of different kinds compare by the kinds. -/
theorem compareTokens_of_rank_lt {left right : List Token}
    (less : Token.rank left.head? < Token.rank right.head?) : compareTokens left right = .lt := by
  cases left with
  | nil =>
      cases right with
      | nil => simp at less
      | cons token rest => cases token <;> first | rfl | simp [Token.rank] at less
  | cons token rest =>
      cases right with
      | nil => cases token <;> first | rfl | simp [Token.rank] at less
      | cons token' rest' =>
          cases token <;> cases token' <;> first | rfl | simp [Token.rank] at less

/-! ### Reading tokens -/

theorem tokens_nil : tokens [] = [] := by
  rw [tokens]

theorem tokens_tilde (rest : List Char) : tokens ('~' :: rest) = .tilde :: tokens rest := by
  rw [tokens, if_pos rfl]

theorem tokens_caret (rest : List Char) : tokens ('^' :: rest) = .caret :: tokens rest := by
  rw [tokens, if_neg (by decide), if_pos rfl]

/-- What a run of digits, or else of letters, is read as. -/
def runToken (numeric : Bool) (run : List Char) : Token :=
  if numeric then .number (Text.Decimal.value run) else .word run

/-- A digit or a letter starts a run, which reaches as far as its kind. -/
theorem tokens_run {first : Char} (rest : List Char) (alphanum : first.isAlphanum = true) :
    tokens (first :: rest) =
      runToken first.isDigit (first :: rest.takeWhile (inRun first.isDigit)) ::
        tokens (rest.dropWhile (inRun first.isDigit)) := by
  have notTilde : first ≠ '~' := by
    rintro rfl
    simp at alphanum
  have notCaret : first ≠ '^' := by
    rintro rfl
    simp at alphanum
  rw [tokens, if_neg notTilde, if_neg notCaret]
  by_cases digit : first.isDigit = true
  · simp only [digit, if_true, runToken]
    rfl
  · have alpha : first.isAlpha = true := by simpa [Char.isAlphanum, digit] using alphanum
    simp only [Bool.not_eq_true] at digit
    simp only [digit, alpha, if_true, runToken]
    rfl

/-- Separators leave no token. -/
theorem tokens_separator {first : Char} (rest : List Char) (separator : isSeparator first = true) :
    tokens (first :: rest) = tokens rest := by
  simp only [isSeparator, Bool.and_eq_true, Bool.not_eq_true', bne_iff_ne, Char.isAlphanum,
    Bool.or_eq_false_iff] at separator
  obtain ⟨⟨⟨notAlpha, notDigit⟩, notTilde⟩, notCaret⟩ := separator
  rw [tokens, if_neg notTilde, if_neg notCaret]
  simp only [notAlpha, notDigit, Bool.false_eq_true, if_false]

/-- A text is read from its front: a marker, a separator or a whole run at a time. -/
@[elab_as_elim]
theorem tokens_induction {motive : List Char → Prop} (nil : motive [])
    (tilde : ∀ rest, motive rest → motive ('~' :: rest))
    (caret : ∀ rest, motive rest → motive ('^' :: rest))
    (separator : ∀ first rest, isSeparator first = true → motive rest → motive (first :: rest))
    (run : ∀ first rest, first.isAlphanum = true →
      motive (rest.dropWhile (inRun first.isDigit)) → motive (first :: rest))
    (text : List Char) : motive text := by
  induction size : text.length using Nat.strongRecOn generalizing text with
  | ind bound ih =>
      cases text with
      | nil => exact nil
      | cons first rest =>
          rw [List.length_cons] at size
          have shorter {left : List Char} (bounded : left.length ≤ rest.length) : motive left :=
            ih left.length (by omega) left rfl
          by_cases separates : isSeparator first = true
          · exact separator first rest separates (shorter Nat.le.refl)
          by_cases isTilde : first = '~'
          · subst isTilde
            exact tilde rest (shorter Nat.le.refl)
          by_cases isCaret : first = '^'
          · subst isCaret
            exact caret rest (shorter Nat.le.refl)
          have alphanum : first.isAlphanum = true := by
            simpa [isSeparator, isTilde, isCaret] using separates
          exact run first rest alphanum (shorter (List.dropWhile_sublist _).length_le)

theorem tokens_dropWhile_isSeparator (text : List Char) :
    tokens (text.dropWhile isSeparator) = tokens text := by
  induction text with
  | nil => rfl
  | cons first rest ih =>
      by_cases separator : isSeparator first = true
      · rw [List.dropWhile_cons_of_pos separator, ih, tokens_separator rest separator]
      · rw [List.dropWhile_cons_of_neg separator]

/-- What is left behind separators starts with a marker, a digit or a letter. -/
theorem isAlphanum_of_dropWhile {text rest : List Char} {first : Char}
    (shape : text.dropWhile isSeparator = first :: rest) (notTilde : first ≠ '~')
    (notCaret : first ≠ '^') : first.isAlphanum = true := by
  have kept := List.head?_dropWhile_not isSeparator text
  simpa [shape, isSeparator, notTilde, notCaret] using kept

/-! ### Comparing texts -/

/-- The kind of the first token of a text without separators in front. -/
def frontRank : List Char → Nat
  | [] => 1
  | first :: _ =>
    if first = '~' then 0 else if first = '^' then 2 else if first.isDigit then 4 else 3

theorem rank_head_tokens (text : List Char) :
    Token.rank (tokens text).head? = frontRank (text.dropWhile isSeparator) := by
  rw [← tokens_dropWhile_isSeparator]
  cases shape : text.dropWhile isSeparator with
  | nil =>
      rw [tokens_nil]
      rfl
  | cons first rest =>
      by_cases tilde : first = '~'
      · subst tilde
        rw [tokens_tilde]
        rfl
      by_cases caret : first = '^'
      · subst caret
        rw [tokens_caret]
        rfl
      rw [tokens_run rest (isAlphanum_of_dropWhile shape tilde caret)]
      simp only [List.head?_cons, frontRank, tilde, caret, if_false, runToken]
      split <;> rfl

theorem not_isDigit_of_isAlpha {char : Char} (alpha : char.isAlpha = true) :
    ¬char.isDigit = true := by
  have behindDigits : '9'.toNat < 'A'.toNat ∧ '9'.toNat < 'a'.toNat := by decide
  rw [Char.isDigit_iff_toNat]
  rcases Bool.or_eq_true_iff.1 alpha with upper | lower
  · have bound : 'A'.toNat ≤ char.toNat := UInt32.le_iff_toNat_le.1 (of_decide_eq_true upper).1
    omega
  · have bound : 'a'.toNat ≤ char.toNat :=
      UInt32.le_iff_toNat_le.1 (of_decide_eq_true (Bool.and_eq_true_iff.1 lower).1)
    omega

/-- The kind of a run is that of every character in it. -/
theorem isDigit_of_inRun {numeric : Bool} {char : Char} (member : inRun numeric char = true) :
    char.isDigit = numeric := by
  cases numeric with
  | true => exact member
  | false => exact Bool.eq_false_iff.2 (not_isDigit_of_isAlpha member)

/-- A digit or a letter belongs to the run that it starts, as does what is taken into it. -/
theorem inRun_of_mem {first : Char} (rest : List Char) (alphanum : first.isAlphanum = true) :
    ∀ char ∈ first :: rest.takeWhile (inRun first.isDigit), inRun first.isDigit char = true := by
  intro char member
  rcases List.mem_cons.1 member with rfl | member
  · cases digit : char.isDigit with
    | true => exact digit
    | false => simpa [Char.isAlphanum, digit, inRun] using alphanum
  · exact List.all_eq_true.1 List.all_takeWhile char member

/-- Runs of one kind compare the way their tokens do. -/
theorem compareRuns_eq_compare {numeric : Bool} {left right : List Char}
    (leftRun : ∀ char ∈ left, inRun numeric char = true)
    (rightRun : ∀ char ∈ right, inRun numeric char = true) :
    compareRuns numeric left right =
      (runToken numeric left).compare (runToken numeric right) := by
  cases numeric with
  | true => exact compareNumerals_eq_compare_value leftRun rightRun
  | false => rfl

theorem frontRank_cons {first : Char} {rest : List Char} (notTilde : first ≠ '~')
    (notCaret : first ≠ '^') : frontRank (first :: rest) = if first.isDigit then 4 else 3 := by
  rw [frontRank, if_neg notTilde, if_neg notCaret]

theorem frontRank_pos {front : List Char} (notTilde : ∀ rest, front = '~' :: rest → False) :
    0 < frontRank front := by
  cases front with
  | nil => exact Nat.one_pos
  | cons first rest =>
      have differs : first ≠ '~' := fun same => notTilde rest (by rw [same])
      rw [frontRank, if_neg differs]
      split
      · exact Nat.two_pos
      · split <;> decide

theorem two_lt_frontRank {front : List Char} (notTilde : ∀ rest, front = '~' :: rest → False)
    (notCaret : ∀ rest, front = '^' :: rest → False) (notEnd : front = [] → False) :
    2 < frontRank front := by
  cases front with
  | nil => exact (notEnd rfl).elim
  | cons first rest =>
      have differs : first ≠ '~' := fun same => notTilde rest (by rw [same])
      have differs' : first ≠ '^' := fun same => notCaret rest (by rw [same])
      rw [frontRank_cons differs differs']
      split <;> decide

/-- Texts whose fronts are of different kinds compare by the kinds. -/
theorem compareTokens_of_frontRank_lt {left right : List Char}
    (less : frontRank (left.dropWhile isSeparator) < frontRank (right.dropWhile isSeparator)) :
    compareTokens (tokens left) (tokens right) = .lt :=
  compareTokens_of_rank_lt (by simpa only [rank_head_tokens] using less)

/-- **The walk over two texts compares their token lists.** Where the walk stops, the
fronts are of different kinds, or nothing is left. -/
theorem compareChars_eq_compareTokens (left right : List Char) :
    compareChars left right = compareTokens (tokens left) (tokens right) := by
  have lt_of_rank {left right : List Char} (less : frontRank (left.dropWhile isSeparator) <
      frontRank (right.dropWhile isSeparator)) :
      .lt = compareTokens (tokens left) (tokens right) :=
    (compareTokens_of_frontRank_lt less).symm
  have gt_of_rank {left right : List Char} (less : frontRank (right.dropWhile isSeparator) <
      frontRank (left.dropWhile isSeparator)) :
      .gt = compareTokens (tokens left) (tokens right) :=
    (Std.OrientedCmp.gt_of_lt (compareTokens_of_frontRank_lt less)).symm
  have shaped {text front : List Char} (shape : text.dropWhile isSeparator = front) :
      tokens text = tokens front := by
    rw [← shape, tokens_dropWhile_isSeparator]
  fun_induction compareChars left right with
  | case1 left right leftRest rightRest leftShape rightShape ih =>
      rw [shaped leftShape, shaped rightShape, tokens_tilde, tokens_tilde, ih]
      rfl
  | case2 left right leftRest leftShape notTilde =>
      exact lt_of_rank (leftShape ▸ frontRank_pos notTilde)
  | case3 left right rightRest rightShape notTilde =>
      exact gt_of_rank (rightShape ▸ frontRank_pos notTilde)
  | case4 left right leftRest rightRest leftShape rightShape ih =>
      rw [shaped leftShape, shaped rightShape, tokens_caret, tokens_caret, ih]
      rfl
  | case5 left right rightRest leftShape rightShape =>
      refine lt_of_rank ?_
      rw [leftShape, rightShape]
      exact Nat.one_lt_two
  | case6 left right leftRest leftShape rightShape =>
      refine gt_of_rank ?_
      rw [leftShape, rightShape]
      exact Nat.one_lt_two
  | case7 left right leftRest leftShape notTilde notCaret notEnd =>
      exact lt_of_rank (leftShape ▸ two_lt_frontRank notTilde notCaret notEnd)
  | case8 left right rightRest rightShape notTilde notCaret notEnd =>
      exact gt_of_rank (rightShape ▸ two_lt_frontRank notTilde notCaret notEnd)
  | case9 left right leftShape rightShape =>
      rw [shaped leftShape, shaped rightShape, tokens_nil]
      rfl
  | case10 left right first rest notTilde notCaret leftShape rightShape =>
      refine lt_of_rank ?_
      rw [leftShape, rightShape]
      exact Nat.lt_of_succ_lt (two_lt_frontRank (by simpa using notTilde)
        (by simpa using notCaret) (by simp))
  | case11 left right first rest notTilde notCaret leftShape rightShape =>
      refine gt_of_rank ?_
      rw [leftShape, rightShape]
      exact Nat.lt_of_succ_lt (two_lt_frontRank (by simpa using notTilde)
        (by simpa using notCaret) (by simp))
  | case12 left right leftFirst leftRest rightFirst rightRest _ notTilde notTilde' _ notCaret
      notCaret' leftShape rightShape numeric sameKind ih =>
      have leftAlphanum := isAlphanum_of_dropWhile leftShape notTilde notCaret
      have rightAlphanum := isAlphanum_of_dropWhile rightShape notTilde' notCaret'
      have kind : rightFirst.isDigit = numeric := isDigit_of_inRun sameKind
      have rightRun := inRun_of_mem rightRest rightAlphanum
      rw [kind] at rightRun
      rw [shaped leftShape, shaped rightShape, tokens_run leftRest leftAlphanum,
        tokens_run rightRest rightAlphanum, kind, compareTokens, ih,
        compareRuns_eq_compare (inRun_of_mem leftRest leftAlphanum) rightRun]
  | case13 left right leftFirst leftRest rightFirst rightRest _ notTilde notTilde' _ notCaret
      notCaret' leftShape rightShape numeric otherKind isNumeric =>
      have notDigit : rightFirst.isDigit ≠ true := by simpa [isNumeric, inRun] using otherKind
      refine gt_of_rank ?_
      rw [leftShape, rightShape, frontRank_cons notTilde notCaret,
        frontRank_cons notTilde' notCaret', if_pos isNumeric, if_neg notDigit]
      decide
  | case14 left right leftFirst leftRest rightFirst rightRest _ notTilde notTilde' _ notCaret
      notCaret' leftShape rightShape numeric otherKind notNumeric =>
      have rightAlphanum := isAlphanum_of_dropWhile rightShape notTilde' notCaret'
      have notAlpha : ¬rightFirst.isAlpha = true := by
        rw [Bool.eq_false_iff.2 notNumeric] at otherKind
        exact otherKind
      have isDigit : rightFirst.isDigit = true := by
        simpa [Char.isAlphanum, notAlpha] using rightAlphanum
      refine lt_of_rank ?_
      rw [leftShape, rightShape, frontRank_cons notTilde notCaret,
        frontRank_cons notTilde' notCaret', if_neg notNumeric, if_pos isDigit]
      decide

end CveTriage.Version
