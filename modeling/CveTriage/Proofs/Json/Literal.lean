import CveTriage.Json.Parser

/-!
# Literals are read back

A string literal is written character by character. Most characters stand for
themselves, some have a short escape, and the other control characters are written as the
four digits of a sixteen-bit unit. Such a unit is no half of a surrogate pair, so it stands
for a character whatever unit comes next (`Piece.Denotes`), and the literal of a text is
read as this text (`readString_quote`).

A numeral ends where nothing follows that could continue it (`EndsNumeral`). Integers of
at most sixty-four bits are written as digits without leading zeros and are read back
(`readScalar_intChars`).
-/

set_option autoImplicit false

namespace CveTriage.Json

variable {char : Char} {rest : List Char}

/-! ## Strings -/

theorem hexDigit?_hexChar (digit : Nat) (small : digit < 16) :
    hexDigit? (hexChar digit) = some digit := by
  have all : ∀ digit : Fin 16, hexDigit? (hexChar digit) = some digit.val := by decide
  exact all ⟨digit, small⟩

/-- The piece stands for the character, whatever pieces follow it. -/
def Piece.Denotes (piece : Piece) (char : Char) : Prop :=
  ∀ rest, joinPieces (piece :: rest) = (joinPieces rest).map (char :: ·)

theorem Piece.denotes_char (char : Char) : (Piece.char char).Denotes char :=
  fun _ => rfl

theorem Piece.denotes_codeUnit (unit : Nat) (small : unit < 0xD800) :
    (Piece.codeUnit unit).Denotes (Char.ofNat unit) := by
  have single : isLeading unit = false ∧ isTrailing unit = false := by
    simp only [isLeading, isTrailing, Bool.and_eq_false_iff, decide_eq_false_iff_not]
    omega
  intro rest
  rcases rest with _ | ⟨_ | _, _⟩ <;> simp [joinPieces, single]

theorem scanString_short {escape : Char} (notUnit : escape ≠ 'u')
    (names : shortEscape? escape = some char) :
    scanString ('\\' :: escape :: rest) =
      (scanString rest).map fun found => (.char char :: found.1, found.2) := by
  rw [scanString]
  · cases scanString rest <;> simp [names]
  · intro _ _ _ _ _ same
    exact absurd same notUnit

theorem scanString_unit (small : char.toNat < 0x20) :
    scanString ('\\' :: 'u' :: '0' :: '0' :: hexChar (char.toNat / 16) ::
        hexChar (char.toNat % 16) :: rest) =
      (scanString rest).map fun found => (.codeUnit char.toNat :: found.1, found.2) := by
  have digits : hexUnit? '0' '0' (hexChar (char.toNat / 16)) (hexChar (char.toNat % 16)) =
      some char.toNat := by
    have zero : hexDigit? '0' = some 0 := rfl
    have joined : char.toNat / 16 * 16 + char.toNat % 16 = char.toNat := by omega
    simp [hexUnit?, zero, hexDigit?_hexChar (char.toNat / 16) (by omega),
      hexDigit?_hexChar (char.toNat % 16) (by omega), joined]
  rw [scanString, digits]
  cases scanString rest <;> rfl

theorem scanString_plain (visible : ¬char.toNat < 0x20) (notQuote : char ≠ '"')
    (notEscape : char ≠ '\\') :
    scanString (char :: rest) =
      (scanString rest).map fun found => (.char char :: found.1, found.2) := by
  rw [scanString]
  · cases scanString rest <;> simp [visible, notEscape]
  · exact notQuote
  · intro _ _ _ _ _ same
    exact absurd same notEscape
  · intro _ _ same
    exact absurd same notEscape

/-- A character has a short escape, or is another control character and is written as a
unit, or stands for itself. -/
theorem escapeChar_cases (char : Char) :
    (∃ escape, escapeChar char = ['\\', escape] ∧ escape ≠ 'u' ∧
      shortEscape? escape = some char) ∨
    (char.toNat < 0x20 ∧ escapeChar char =
      ['\\', 'u', '0', '0', hexChar (char.toNat / 16), hexChar (char.toNat % 16)]) ∨
    (¬char.toNat < 0x20 ∧ char ≠ '"' ∧ char ≠ '\\' ∧ escapeChar char = [char]) := by
  by_cases short : char ∈ ['"', '\\', '\x08', '\x0c', '\n', '\r', '\t']
  · simp only [List.mem_cons, List.not_mem_nil, or_false] at short
    rcases short with rfl | rfl | rfl | rfl | rfl | rfl | rfl <;>
      exact .inl ⟨_, rfl, by decide, by decide⟩
  · simp only [List.mem_cons, List.not_mem_nil, or_false, not_or] at short
    obtain ⟨quote, escape, backspace, formFeed, lineFeed, carriageReturn, tab⟩ := short
    rw [escapeChar, if_neg quote, if_neg escape, if_neg backspace, if_neg formFeed,
      if_neg lineFeed, if_neg carriageReturn, if_neg tab]
    by_cases control : char.toNat < 0x20
    · exact .inr (.inl ⟨control, if_pos control⟩)
    · exact .inr (.inr ⟨control, quote, escape, if_neg control⟩)

/-- What is written for a character is read as a piece that stands for it. -/
theorem exists_scanString_escapeChar (char : Char) (rest : List Char) :
    ∃ piece : Piece, piece.Denotes char ∧
      scanString (escapeChar char ++ rest) =
        (scanString rest).map fun found => (piece :: found.1, found.2) := by
  rcases escapeChar_cases char with ⟨escape, written, notUnit, names⟩ | ⟨control, written⟩ |
    ⟨visible, notQuote, notEscape, written⟩ <;> rw [written]
  · exact ⟨_, Piece.denotes_char char, scanString_short notUnit names⟩
  · have denotes := Piece.denotes_codeUnit char.toNat (by omega)
    rw [Char.ofNat_toNat] at denotes
    exact ⟨_, denotes, scanString_unit control⟩
  · exact ⟨_, Piece.denotes_char char, scanString_plain visible notQuote notEscape⟩

/-- **The literal of a text is read as the text.** -/
theorem readString_quote (text : String) (rest : List Char) :
    readString (text.toList.flatMap escapeChar ++ '"' :: rest) = some (some text, rest) := by
  have scanned (chars : List Char) :
      ∃ pieces, scanString (chars.flatMap escapeChar ++ '"' :: rest) = some (pieces, rest) ∧
        joinPieces pieces = some chars := by
    induction chars with
    | nil => exact ⟨[], by simp [scanString], rfl⟩
    | cons char chars ih =>
        obtain ⟨pieces, scanned, joined⟩ := ih
        obtain ⟨piece, denotes, read⟩ :=
          exists_scanString_escapeChar char (chars.flatMap escapeChar ++ '"' :: rest)
        refine ⟨piece :: pieces, ?_, ?_⟩
        · rw [List.flatMap_cons, List.append_assoc, read, scanned]
          rfl
        · rw [denotes, joined]
          rfl
  obtain ⟨pieces, scanned, joined⟩ := scanned text.toList
  rw [readString, scanned, Option.map_some, joined, Option.map_some, String.ofList_toList]

/-! ## Integers -/

/-- Whether a numeral in front of the character would go on with it. -/
def continuesNumeral (char : Char) : Bool :=
  char.isDigit || char == '.' || char == 'e' || char == 'E'

/-- A numeral in front of the text ends there. -/
def EndsNumeral (rest : List Char) : Prop :=
  ∀ char ∈ rest.head?, continuesNumeral char = false

theorem endsNumeral_nil : EndsNumeral [] :=
  nofun

theorem endsNumeral_cons (ends : continuesNumeral char = false) : EndsNumeral (char :: rest) := by
  intro first member
  obtain rfl := Option.some.inj member
  exact ends

theorem exists_digits_eq_cons (number : Nat) :
    ∃ first others, Text.Decimal.digits number = first :: others ∧ first.isDigit = true := by
  obtain ⟨first, others, shape⟩ := List.exists_cons_of_ne_nil (Text.Decimal.digits_ne_nil number)
  have member : first ∈ Text.Decimal.digits number := shape ▸ List.mem_cons_self
  exact ⟨first, others, shape, Text.Decimal.isDigit_of_mem_digits member⟩

/-- Only zero is written with a zero in front. -/
theorem head?_digits_ne {number : Nat} (positive : 0 < number) :
    (Text.Decimal.digits number).head? ≠ some '0' := by
  induction number using Nat.strongRecOn with
  | ind number ih =>
      unfold Text.Decimal.digits at ih ⊢
      by_cases small : number < 10
      · have all : ∀ number : Fin 10, 0 < number.val → number.val.digitChar ≠ '0' := by decide
        rw [Nat.toDigits_of_lt_base small]
        simpa using all ⟨number, small⟩ positive
      · rw [Nat.toDigits_of_base_le (by decide) (by omega),
          List.head?_append, Option.or_of_isSome (by simp)]
        exact ih (number / 10) (by omega) (by omega)

/-- A run of digits is read up to where it ends. -/
theorem readDigits_append {digits : List Char} (nonempty : digits ≠ [])
    (run : ∀ char ∈ digits, char.isDigit = true) (ends : EndsNumeral rest) :
    readDigits (digits ++ rest) = some (digits, rest) := by
  have stops : rest.takeWhile Char.isDigit = [] ∧ rest.dropWhile Char.isDigit = rest := by
    cases rest with
    | nil => exact ⟨rfl, rfl⟩
    | cons first others =>
        have ended := ends first rfl
        simp only [continuesNumeral, Bool.or_eq_false_iff] at ended
        simp [ended.1.1.1]
  rw [readDigits, List.takeWhile_append_of_pos run, List.dropWhile_append_of_pos run, stops.1,
    stops.2, List.append_nil, if_neg nonempty]

theorem readWhole_digits (number : Nat) (ends : EndsNumeral rest) :
    readWhole (Text.Decimal.digits number ++ rest) = some (Text.Decimal.digits number, rest) := by
  rcases Nat.eq_zero_or_pos number with rfl | positive
  · rfl
  · have unpadded := head?_digits_ne positive
    have nonempty := Text.Decimal.digits_ne_nil number
    rw [readWhole]
    · exact readDigits_append nonempty (fun _ => Text.Decimal.isDigit_of_mem_digits) ends
    · intro others same
      have first := congrArg List.head? same
      rw [List.head?_append, Option.or_of_isSome (by simpa using nonempty)] at first
      exact unpadded first

theorem readFraction_of_endsNumeral (ends : EndsNumeral rest) :
    readFraction rest = some ([], rest) := by
  rw [readFraction]
  rintro others rfl
  cases ends '.' rfl

theorem readExponent_of_endsNumeral (ends : EndsNumeral rest) :
    readExponent rest = some (none, rest) := by
  cases rest with
  | nil => rfl
  | cons first others =>
      have ended := ends first rfl
      have other : ¬(first = 'e' ∨ first = 'E') := by
        rintro (rfl | rfl) <;> cases ended
      unfold readExponent
      split <;> simp_all

/-- The digits of a number below the bound are read as an integer with the given sign. -/
theorem readNumeral_digits (negative : Bool) (number : Nat) (small : number < Numeral.bound)
    (signed : negative = true → number ≠ 0) (ends : EndsNumeral rest) :
    readNumeral negative (Text.Decimal.digits number ++ rest) =
      some (.integer (if negative then -number else number), rest) := by
  have value : numeral negative (Text.Decimal.digits number) [] none =
      .integer (if negative then -number else number) := by
    have magnitude : (number : Int) < Numeral.bound := Int.ofNat_lt.2 small
    cases negative <;> simp_all [numeral]
  simp only [readNumeral, readWhole_digits number ends, readFraction_of_endsNumeral ends,
    readExponent_of_endsNumeral ends, Option.bind_eq_bind, Option.bind_some, value,
    Option.pure_def]

theorem readScalar_of_isDigit (digit : char.isDigit = true) :
    readScalar (char :: rest) = readNumeral false (char :: rest) := by
  unfold readScalar
  split
  any_goals rfl
  all_goals
    next same =>
      obtain ⟨rfl, -⟩ := List.cons.inj same
      cases digit

/-- **The numeral of an integer is read as the integer.** -/
theorem readScalar_intChars {value : Int} (small : value.natAbs < Numeral.bound)
    (ends : EndsNumeral rest) :
    readScalar (intChars value ++ rest) = some (.integer value, rest) := by
  cases value with
  | ofNat number =>
      have read := readNumeral_digits false number small nofun ends
      obtain ⟨first, others, shape, digit⟩ := exists_digits_eq_cons number
      have written : intChars (.ofNat number) = first :: others := shape
      rw [written, List.cons_append, readScalar_of_isDigit digit, ← List.cons_append, ← shape]
      exact read
  | negSucc number =>
      exact readNumeral_digits true (number + 1) small (by simp) ends

end CveTriage.Json
