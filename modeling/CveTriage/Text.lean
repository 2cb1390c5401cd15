/-!
# Characters and numerals

What the other modules ask of texts: where to cut them, which characters are blank, which
number a numeral denotes, and whether there is a binary64 number for it.
-/

set_option autoImplicit false

namespace CveTriage.Text

/-! ## Cutting text at a separator

Version strings are cut at the first colon and at the last dash, releases at
the last dot, option arguments at the first equals sign. Either cut returns what
stands before and after the separator, without it.

Each cut is pinned down by one equivalence: the parts and the separator make
up the text, and the separator does not occur on the side that was searched
(`cutFirst_eq_some_iff`, `cutLast_eq_some_iff`). There is no cut exactly when
the separator does not occur at all (`cutFirst_eq_none_iff`,
`cutLast_eq_none_iff`).
-/

section Cut

variable {separator : Char} {text before after : List Char}

/-- The text before and after the first occurrence of the separator. -/
def cutFirst (separator : Char) : List Char → Option (List Char × List Char)
  | [] => none
  | char :: rest =>
    if char = separator then some ([], rest)
    else (cutFirst separator rest).map fun parts => (char :: parts.1, parts.2)

/-- The text before and after the last occurrence of the separator. -/
def cutLast (separator : Char) : List Char → Option (List Char × List Char)
  | [] => none
  | char :: rest =>
    match cutLast separator rest with
    | some parts => some (char :: parts.1, parts.2)
    | none => if char = separator then some ([], rest) else none

/-- No first occurrence means no occurrence. -/
theorem cutFirst_eq_none_iff : cutFirst separator text = none ↔ separator ∉ text := by
  induction text with
  | nil => simp [cutFirst]
  | cons char rest ih =>
    by_cases same : char = separator
    · simp [cutFirst, same]
    · simp [cutFirst, same, ih, Ne.symm same]

/-- No last occurrence means no occurrence. -/
theorem cutLast_eq_none_iff : cutLast separator text = none ↔ separator ∉ text := by
  induction text with
  | nil => simp [cutLast]
  | cons char rest ih =>
    cases found : cutLast separator rest with
    | some parts =>
      have occurs : separator ∈ rest := by
        refine Decidable.byContradiction fun absent => ?_
        rw [ih.2 absent] at found
        exact absurd found (by simp)
      simp [cutLast, found, occurs]
    | none =>
      by_cases same : char = separator
      · simp [cutLast, found, same]
      · simp [cutLast, found, same, ih.1 found, Ne.symm same]

/-- The first cut keeps the whole text and leaves no separator before it. -/
theorem cutFirst_eq_some_iff :
    cutFirst separator text = some (before, after) ↔
      text = before ++ separator :: after ∧ separator ∉ before := by
  induction text generalizing before with
  | nil => simp [cutFirst]
  | cons char rest ih =>
    by_cases same : char = separator
    · subst same
      cases before with
      | nil => simp [cutFirst, eq_comm]
      | cons head tail => simp +contextual [cutFirst, eq_comm]
    · cases before with
      | nil => simp [cutFirst, same]
      | cons head tail =>
        simp only [cutFirst, same, if_false, Option.map_eq_some_iff, Prod.mk.injEq,
          List.cons.injEq, List.cons_append, List.mem_cons, not_or]
        constructor
        · rintro ⟨⟨first, second⟩, found, ⟨rfl, rfl⟩, rfl⟩
          exact ⟨⟨rfl, (ih.1 found).1⟩, Ne.symm same, (ih.1 found).2⟩
        · rintro ⟨⟨rfl, shape⟩, -, fresh⟩
          exact ⟨(tail, after), ih.2 ⟨shape, fresh⟩, ⟨rfl, rfl⟩, rfl⟩

/-- The last cut keeps the whole text and leaves no separator after it. -/
theorem cutLast_eq_some_iff :
    cutLast separator text = some (before, after) ↔
      text = before ++ separator :: after ∧ separator ∉ after := by
  induction text generalizing before after with
  | nil => simp [cutLast]
  | cons char rest ih =>
    cases found : cutLast separator rest with
    | some parts =>
      obtain ⟨first, second⟩ := parts
      have shape := ih.1 found
      cases before with
      | nil =>
        simp only [cutLast, found, Option.some.injEq, Prod.mk.injEq, reduceCtorEq, false_and,
          List.nil_append, List.cons.injEq, false_iff, not_and, Decidable.not_not]
        rintro ⟨-, rfl⟩
        rw [shape.1]
        simp
      | cons head tail =>
        rw [found] at ih
        simp only [Option.some.injEq, Prod.mk.injEq] at ih
        simp only [cutLast, found, Option.some.injEq, Prod.mk.injEq, List.cons.injEq,
          List.cons_append, and_assoc, ih]
    | none =>
      have absent := cutLast_eq_none_iff.1 found
      cases before with
      | nil =>
        by_cases same : char = separator
        · simp only [cutLast, found, same, if_true, Option.some.injEq, Prod.mk.injEq, true_and,
            List.nil_append, List.cons.injEq]
          exact ⟨fun equal => ⟨equal, equal ▸ absent⟩, fun both => both.1⟩
        · simp [cutLast, found, same]
      | cons head tail =>
        have none_here : ¬(rest = tail ++ separator :: after) := by
          rintro rfl
          simp at absent
        by_cases same : char = separator <;> simp [cutLast, found, same, none_here]

end Cut

/-! ## Blank characters

The characters with the Unicode property `White_Space`, and removal of blanks
at the ends of a text. Core's `Char.isWhitespace` knows only six of them.
-/

/-- Whether the character has the Unicode property `White_Space`. -/
def isBlank (char : Char) : Bool :=
  let code := char.toNat
  (0x09 ≤ code && code ≤ 0x0D) || code == 0x20 || code == 0x85 || code == 0xA0 ||
    code == 0x1680 || (0x2000 ≤ code && code ≤ 0x200A) || code == 0x2028 || code == 0x2029 ||
    code == 0x202F || code == 0x205F || code == 0x3000

/-- The text without its leading blanks. -/
def trimStart (text : List Char) : List Char :=
  text.dropWhile isBlank

/-- The text without its leading and trailing blanks. -/
def trim (text : List Char) : List Char :=
  (trimStart (trimStart text).reverse).reverse

/-! ## Decimal numerals

Epochs are written as decimal numerals. A numeral is a non-empty run of ASCII
digits; leading zeros are allowed when it is read and never written.

Reading undoes writing (`value_digits`), and what is written is a numeral
(`isNumeral_digits`).
-/

namespace Decimal

/-- Whether the text is a non-empty run of ASCII digits. -/
def isNumeral (text : List Char) : Bool :=
  !text.isEmpty && text.all Char.isDigit

/-- The value of a run of digits. -/
def value (digits : List Char) : Nat :=
  Nat.ofDigitChars 10 digits 0

/-- The shortest numeral of a number. -/
def digits (number : Nat) : List Char :=
  Nat.toDigits 10 number

/-- The value of a numeral below the bound, and nothing otherwise. -/
def below? (bound : Nat) (text : List Char) : Option Nat :=
  if isNumeral text ∧ value text < bound then some (value text) else none

/-- The number with as many zeros as given at its end. -/
def shifted (number : Nat) : Nat → Nat
  | 0 => number
  | zeros + 1 => shifted number zeros * 10

@[simp]
theorem value_digits (number : Nat) : value (digits number) = number :=
  Nat.ofDigitChars_toDigits (by decide) (by decide)

theorem digits_ne_nil (number : Nat) : digits number ≠ [] :=
  Nat.toDigits_ne_nil

theorem isDigit_of_mem_digits {number : Nat} {char : Char} (member : char ∈ digits number) :
    char.isDigit :=
  Nat.isDigit_of_mem_toDigits (by decide) (by decide) member

theorem isNumeral_digits (number : Nat) : isNumeral (digits number) := by
  have nonempty := digits_ne_nil number
  simp only [isNumeral, Bool.and_eq_true, Bool.not_eq_true', List.isEmpty_eq_false_iff,
    List.all_eq_true]
  exact ⟨nonempty, fun _ member => isDigit_of_mem_digits member⟩

end Decimal

/-! ## The range of binary64 numbers

A binary64 number has fifty-three significant bits, and the largest finite one
lies just below the 1024th power of two. Numbers are rounded to the nearest
one that can be written, and of two equally near ones the even one is taken.
What is halfway beyond the largest finite number, or farther, has no place.

Everything here is counted in natural numbers.
-/

namespace Binary64

/-- The least magnitude that rounds beyond the largest finite number. -/
def limit : Nat :=
  (1 <<< 1024) - (1 <<< 970)

/-- The nearest number of fifty-three significant bits, followed by zeros. -/
def nearest (number : Nat) : Nat :=
  let unit := 1 <<< (number.log2 - 52)
  let below := number / unit
  let rest := number % unit
  let up := unit < 2 * rest || (unit == 2 * rest && below % 2 == 1)
  if up then (below + 1) * unit else below * unit

/-- Whether the mantissa times a power of ten is too large when it is rounded
once, as an exact number. The number of digits decides unless it is close to
that of the limit, which has 309. -/
def exceeds (mantissa : Nat) (exponent : Int) : Bool :=
  let places : Int := (Decimal.digits mantissa).length + exponent
  if mantissa == 0 || places < 300 then false
  else if 320 < places then true
  else match exponent with
    | .ofNat zeros => limit ≤ Decimal.shifted mantissa zeros
    | .negSucc zeros => Decimal.shifted limit (zeros + 1) ≤ mantissa

/-- Whether the mantissa times a power of ten is too large when mantissa,
power and product are rounded one after the other. Powers beyond the 308th
have no place themselves; negative powers only make the mantissa smaller. -/
def exceedsStepwise (mantissa : Nat) (exponent : Int) : Bool :=
  if mantissa == 0 then false
  else match exponent with
    | .ofNat zeros =>
      308 < zeros || limit ≤ nearest mantissa * nearest (Decimal.shifted 1 zeros)
    | .negSucc _ => false

end Binary64

end CveTriage.Text
