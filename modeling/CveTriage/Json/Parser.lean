import CveTriage.Json.Value

/-!
# Reading JSON

A text is cut into tokens, and a machine with a stack assembles a value from the tokens.
-/

set_option autoImplicit false

namespace CveTriage.Json

/-! ## JSON tokens

Cuts a text into the tokens of JSON: brackets, braces, commas, colons, and
scalars, which are literals, numerals and strings. Blanks between tokens are
space, tab, line feed and carriage return.

A string literal is first read as pieces, a character or the sixteen-bit unit
of a `\u` escape. The units are then paired: a leading surrogate followed at
once by a trailing one stands for one character, any other surrogate leaves the
literal without a text (`joinPieces`).
-/

/-- The tokens that a text is cut into. -/
inductive Token where
  | openArray
  | closeArray
  | openObject
  | closeObject
  | comma
  | colon
  /-- A string literal, with the text that it denotes. -/
  | string (text : Option String)
  /-- A literal or a numeral. -/
  | scalar (value : Json)

/-- Whether the character may stand between two tokens. -/
def isBlank (char : Char) : Bool :=
  char == ' ' || char == '\t' || char == '\n' || char == '\r'

/-! ### Strings -/

/-- A piece of a string literal. -/
inductive Piece where
  /-- A character that stands for itself or is named by a short escape. -/
  | char (value : Char)
  /-- The sixteen-bit unit of a `\u` escape. -/
  | codeUnit (value : Nat)

/-- The value of a hexadecimal digit. -/
def hexDigit? (char : Char) : Option Nat :=
  if '0' ≤ char ∧ char ≤ '9' then some (char.toNat - '0'.toNat)
  else if 'a' ≤ char ∧ char ≤ 'f' then some (char.toNat - 'a'.toNat + 10)
  else if 'A' ≤ char ∧ char ≤ 'F' then some (char.toNat - 'A'.toNat + 10)
  else none

/-- The value of four hexadecimal digits. -/
def hexUnit? (first second third fourth : Char) : Option Nat := do
  let first ← hexDigit? first
  let second ← hexDigit? second
  let third ← hexDigit? third
  let fourth ← hexDigit? fourth
  return ((first * 16 + second) * 16 + third) * 16 + fourth

/-- The character that a short escape names. -/
def shortEscape? : Char → Option Char
  | '"' => some '"'
  | '\\' => some '\\'
  | '/' => some '/'
  | 'b' => some '\x08'
  | 'f' => some '\x0c'
  | 'n' => some '\n'
  | 'r' => some '\r'
  | 't' => some '\t'
  | _ => none

/-- The pieces of a string literal and the text after its closing quote; the
opening quote has been read. Raw control characters are refused. -/
def scanString : List Char → Option (List Piece × List Char)
  | [] => none
  | '"' :: rest => some ([], rest)
  | '\\' :: 'u' :: first :: second :: third :: fourth :: rest => do
    let unit ← hexUnit? first second third fourth
    let (pieces, after) ← scanString rest
    return (.codeUnit unit :: pieces, after)
  | '\\' :: escape :: rest => do
    let char ← shortEscape? escape
    let (pieces, after) ← scanString rest
    return (.char char :: pieces, after)
  | char :: rest =>
    if char.toNat < 0x20 || char == '\\' then none
    else do
      let (pieces, after) ← scanString rest
      return (.char char :: pieces, after)

/-- Whether the unit is the first half of a surrogate pair. -/
def isLeading (unit : Nat) : Bool :=
  0xD800 ≤ unit && unit < 0xDC00

/-- Whether the unit is the second half of a surrogate pair. -/
def isTrailing (unit : Nat) : Bool :=
  0xDC00 ≤ unit && unit < 0xE000

/-- The characters that the pieces denote, unless a surrogate is unpaired. -/
def joinPieces : List Piece → Option (List Char)
  | [] => some []
  | .char value :: rest => (joinPieces rest).map (value :: ·)
  | .codeUnit leading :: .codeUnit trailing :: rest =>
    if isLeading leading then
      if isTrailing trailing then
        (joinPieces rest).map
          (Char.ofNat (0x10000 + (leading - 0xD800) * 0x400 + (trailing - 0xDC00)) :: ·)
      else none
    else if isTrailing leading then none
    else (joinPieces (.codeUnit trailing :: rest)).map (Char.ofNat leading :: ·)
  | .codeUnit unit :: rest =>
    if isLeading unit || isTrailing unit then none
    else (joinPieces rest).map (Char.ofNat unit :: ·)

/-- The text of a string literal, if it denotes one, and the text after it. -/
def readString (text : List Char) : Option (Option String × List Char) :=
  (scanString text).map fun found => ((joinPieces found.1).map String.ofList, found.2)

/-! ### Numerals -/

/-- A run of digits at the front, which must not be empty, and the text after it. -/
def readDigits (text : List Char) : Option (List Char × List Char) :=
  if text.takeWhile Char.isDigit = [] then none
  else some (text.takeWhile Char.isDigit, text.dropWhile Char.isDigit)

/-- The digits before a decimal point: zero, or digits without a leading zero. -/
def readWhole : List Char → Option (List Char × List Char)
  | '0' :: rest => some (['0'], rest)
  | text => readDigits text

/-- The digits after a decimal point, if there is one. -/
def readFraction : List Char → Option (List Char × List Char)
  | '.' :: rest => readDigits rest
  | text => some ([], text)

/-- The digits of an exponent as a number with the given sign. -/
def readExponentDigits (negative : Bool) (text : List Char) : Option (Option Int × List Char) :=
  (readDigits text).map fun found =>
    let value : Int := Nat.ofDigitChars 10 found.1 0
    (some (if negative then -value else value), found.2)

/-- The exponent after an `e`, if there is one. -/
def readExponent : List Char → Option (Option Int × List Char)
  | char :: '-' :: rest =>
    if char = 'e' ∨ char = 'E' then readExponentDigits true rest
    else some (none, char :: '-' :: rest)
  | char :: '+' :: rest =>
    if char = 'e' ∨ char = 'E' then readExponentDigits false rest
    else some (none, char :: '+' :: rest)
  | char :: rest =>
    if char = 'e' ∨ char = 'E' then readExponentDigits false rest else some (none, char :: rest)
  | [] => some (none, [])

/-- The value of a numeral from its parts. -/
def numeral (negative : Bool) (whole fraction : List Char) (exponent : Option Int) : Json :=
  let magnitude : Int := Text.Decimal.value whole
  if fraction.isEmpty && exponent.isNone && magnitude < Numeral.bound &&
      !(negative && magnitude == 0) then
    .integer (if negative then -magnitude else magnitude)
  else .decimal ⟨negative, whole, fraction, exponent.getD 0⟩

/-- A numeral after its sign, and the text after it. -/
def readNumeral (negative : Bool) (text : List Char) : Option (Json × List Char) := do
  let (whole, text) ← readWhole text
  let (fraction, text) ← readFraction text
  let (exponent, text) ← readExponent text
  return (numeral negative whole fraction exponent, text)

/-! ### Tokens -/

/-- The token that a single character makes up. -/
def punctuation? : Char → Option Token
  | '[' => some .openArray
  | ']' => some .closeArray
  | '\x7b' => some .openObject
  | '\x7d' => some .closeObject
  | ',' => some .comma
  | ':' => some .colon
  | _ => none

/-- A literal or a numeral at the front, and the text after it. -/
def readScalar : List Char → Option (Json × List Char)
  | 'n' :: 'u' :: 'l' :: 'l' :: rest => some (.null, rest)
  | 't' :: 'r' :: 'u' :: 'e' :: rest => some (.bool true, rest)
  | 'f' :: 'a' :: 'l' :: 's' :: 'e' :: rest => some (.bool false, rest)
  | '-' :: rest => readNumeral true rest
  | text => readNumeral false text

/-- The first token of a text without leading blanks, and the text after it. -/
def readToken (char : Char) (rest : List Char) : Option (Token × List Char) :=
  match punctuation? char with
  | some token => some (token, rest)
  | none =>
    if char = '"' then (readString rest).map fun found => (.string found.1, found.2)
    else (readScalar (char :: rest)).map fun found => (.scalar found.1, found.2)

/-! ### Every token takes something from the text -/

theorem scanString_length {text : List Char} {pieces : List Piece} {after : List Char}
    (found : scanString text = some (pieces, after)) : after.length < text.length := by
  fun_induction scanString text generalizing pieces after with
  | case1 => simp at found
  | case2 rest => simp_all
  | case3 first second third fourth rest ih =>
    simp only [Option.bind_eq_bind, Option.bind_eq_some_iff] at found
    obtain ⟨unit, -, ⟨inner, tail⟩, scanned, equal⟩ := found
    have shorter := ih scanned
    simp only [Option.pure_def, Option.some.injEq, Prod.mk.injEq] at equal
    simp only [List.length_cons, ← equal.2]
    omega
  | case4 escape rest _ ih =>
    simp only [Option.bind_eq_bind, Option.bind_eq_some_iff] at found
    obtain ⟨char, -, ⟨inner, tail⟩, scanned, equal⟩ := found
    have shorter := ih scanned
    simp only [Option.pure_def, Option.some.injEq, Prod.mk.injEq] at equal
    simp only [List.length_cons, ← equal.2]
    omega
  | case5 => simp at found
  | case6 char rest _ _ _ _ ih =>
    simp only [Option.bind_eq_bind, Option.bind_eq_some_iff] at found
    obtain ⟨⟨inner, tail⟩, scanned, equal⟩ := found
    have shorter := ih scanned
    simp only [Option.pure_def, Option.some.injEq, Prod.mk.injEq] at equal
    simp only [List.length_cons, ← equal.2]
    omega

theorem readDigits_length {text digits after : List Char}
    (found : readDigits text = some (digits, after)) : after.length < text.length := by
  unfold readDigits at found
  split at found
  · simp at found
  · rename_i taken
    simp only [Option.some.injEq, Prod.mk.injEq] at found
    have whole := congrArg List.length
      (List.takeWhile_append_dropWhile (p := Char.isDigit) (l := text))
    rw [List.length_append] at whole
    have positive := List.length_pos_iff.2 taken
    rw [← found.2]
    omega

theorem readWhole_length {text digits after : List Char}
    (found : readWhole text = some (digits, after)) : after.length < text.length := by
  unfold readWhole at found
  split at found
  · simp_all
  · exact readDigits_length found

theorem readFraction_length {text digits after : List Char}
    (found : readFraction text = some (digits, after)) : after.length ≤ text.length := by
  unfold readFraction at found
  split at found
  · exact Nat.le_of_lt (Nat.lt_succ_of_lt (readDigits_length found))
  · simp_all

theorem readExponentDigits_length {negative : Bool} {text after : List Char}
    {exponent : Option Int} (found : readExponentDigits negative text = some (exponent, after)) :
    after.length ≤ text.length := by
  simp only [readExponentDigits, Option.map_eq_some_iff, Prod.mk.injEq] at found
  obtain ⟨⟨digits, tail⟩, scanned, -, rfl⟩ := found
  exact Nat.le_of_lt (readDigits_length scanned)

theorem readExponent_length {text after : List Char} {exponent : Option Int}
    (found : readExponent text = some (exponent, after)) : after.length ≤ text.length := by
  unfold readExponent at found
  split at found
  · split at found
    · have bound := readExponentDigits_length found
      simp only [List.length_cons]
      omega
    · simp_all
  · split at found
    · have bound := readExponentDigits_length found
      simp only [List.length_cons]
      omega
    · simp_all
  · split at found
    · have bound := readExponentDigits_length found
      simp only [List.length_cons]
      omega
    · simp_all
  · simp_all

theorem readNumeral_length {negative : Bool} {text after : List Char} {value : Json}
    (found : readNumeral negative text = some (value, after)) : after.length < text.length := by
  simp only [readNumeral, Option.bind_eq_bind, Option.bind_eq_some_iff] at found
  obtain ⟨⟨whole, first⟩, readFirst, ⟨fraction, second⟩, readSecond, ⟨exponent, third⟩,
    readThird, equal⟩ := found
  have one : first.length < text.length := readWhole_length readFirst
  have two : second.length ≤ first.length := readFraction_length readSecond
  have three : third.length ≤ second.length := readExponent_length readThird
  simp only [Option.pure_def, Option.some.injEq, Prod.mk.injEq] at equal
  rw [← equal.2]
  omega

theorem readScalar_length {text after : List Char} {value : Json}
    (found : readScalar text = some (value, after)) : after.length < text.length := by
  unfold readScalar at found
  split at found
  · simp only [Option.some.injEq, Prod.mk.injEq] at found
    simp only [← found.2, List.length_cons]
    omega
  · simp only [Option.some.injEq, Prod.mk.injEq] at found
    simp only [← found.2, List.length_cons]
    omega
  · simp only [Option.some.injEq, Prod.mk.injEq] at found
    simp only [← found.2, List.length_cons]
    omega
  · exact Nat.lt_succ_of_lt (readNumeral_length found)
  · exact readNumeral_length found

theorem readToken_length {char : Char} {rest after : List Char} {token : Token}
    (found : readToken char rest = some (token, after)) : after.length ≤ rest.length := by
  unfold readToken at found
  split at found
  · simp only [Option.some.injEq, Prod.mk.injEq] at found
    exact found.2 ▸ Nat.le_refl _
  · split at found
    · simp only [readString, Option.map_map, Option.map_eq_some_iff, Function.comp_apply,
        Prod.mk.injEq] at found
      obtain ⟨⟨pieces, tail⟩, scanned, -, rfl⟩ := found
      exact Nat.le_of_lt (scanString_length scanned)
    · simp only [Option.map_eq_some_iff, Prod.mk.injEq] at found
      obtain ⟨⟨value, tail⟩, scanned, -, rfl⟩ := found
      exact Nat.le_of_lt_succ (readScalar_length scanned)

/-- The tokens of a text, if it consists of tokens and blanks. -/
def tokenize : List Char → Option (List Token)
  | [] => some []
  | char :: rest =>
    if isBlank char then tokenize rest
    else
      match _found : readToken char rest with
      | some (token, after) => (tokenize after).map (token :: ·)
      | none => none
termination_by text => text.length
decreasing_by
  · exact Nat.lt_succ_self _
  · exact Nat.lt_succ_of_le (readToken_length _found)

/-! ## Reading JSON text

A value is assembled from its tokens by a machine with a stack: one frame for
every array and object that is still open, innermost first. Each token takes
one step (`step`), so reading is a fold over the tokens and nesting is bounded
by nothing but the text.

A text is a value when the machine ends with a complete value and no open
frame. What follows the value may be blank only.
-/

/-- An array or object that is still open. -/
inductive Frame where
  /-- An array with its items so far, last one first. -/
  | array (items : List Json)
  /-- An object with its members so far, last one first, and the name whose
  value is being read. -/
  | object (members : List (Option String × Json)) (name : Option String)

/-- What the machine is waiting for; the stack holds the open frames. -/
inductive State where
  /-- A value. -/
  | value (stack : List Frame)
  /-- The first item of an array, or its end. -/
  | firstItem (stack : List Frame)
  /-- The first name of an object, or its end. -/
  | firstName (stack : List Frame)
  /-- A further name of an object. -/
  | name (members : List (Option String × Json)) (stack : List Frame)
  /-- The colon after a name. -/
  | colon (members : List (Option String × Json)) (name : Option String) (stack : List Frame)
  /-- Whatever may follow the value that has just been completed. -/
  | after (value : Json) (stack : List Frame)

/-- The step of a token where a value may begin. -/
def beginValue (stack : List Frame) : Token → Option State
  | .openArray => some (.firstItem stack)
  | .openObject => some (.firstName stack)
  | .string text => some (.after (ofString text) stack)
  | .scalar value => some (.after value stack)
  | _ => none

/-- The step of a token after a complete value. -/
def afterValue (value : Json) : List Frame → Token → Option State
  | .array items :: stack, .comma => some (.value (.array (value :: items) :: stack))
  | .array items :: stack, .closeArray =>
    some (.after (.array (value :: items).reverse) stack)
  | .object members name :: stack, .comma => some (.name ((name, value) :: members) stack)
  | .object members name :: stack, .closeObject =>
    some (.after (.object ((name, value) :: members).reverse) stack)
  | _, _ => none

/-- The state after one more token. -/
def step : State → Token → Option State
  | .value stack, token => beginValue stack token
  | .firstItem stack, .closeArray => some (.after (.array []) stack)
  | .firstItem stack, token => beginValue (.array [] :: stack) token
  | .firstName stack, .closeObject => some (.after (.object []) stack)
  | .firstName stack, .string text => some (.colon [] text stack)
  | .name members stack, .string text => some (.colon members text stack)
  | .colon members name stack, .colon => some (.value (.object members name :: stack))
  | .after value stack, token => afterValue value stack token
  | _, _ => none

/-- The value that the tokens make up. -/
def ofTokens? (tokens : List Token) : Option Json :=
  match tokens.foldlM step (.value []) with
  | some (.after value []) => some value
  | _ => none

/-- The value that a text denotes. -/
def parse? (text : String) : Option Json :=
  (tokenize text.toList).bind ofTokens?

end CveTriage.Json
