import CveTriage.Text

/-!
# JSON

A JSON value keeps what decoders may ask about the way in which it was written. The module
has the numerals and the values, what decoders have in common, and the two layouts in
which values are written.
-/

set_option autoImplicit false

namespace CveTriage

/-! ## JSON numerals

A numeral keeps the digits in front of its point, those behind it and its
exponent. Whoever wants the number reads as many digits as make up a
significand below the 64th power of two, and corrects the exponent by the
digits that it leaves out in front of the point and by those that it takes
behind it (`significand`). Digits left out count for nothing else, not even
for rounding.
-/

namespace Json

/-- A numeral as it is written. -/
structure Numeral where
  negative : Bool
  whole : List Char
  fraction : List Char
  /-- The power of ten, zero when none is written. -/
  exponent : Int
deriving DecidableEq

namespace Numeral

/-- What significands stay below. -/
def bound : Nat := 18446744073709551616

/-- Appends digits to a significand until one does not fit, and counts those
that did. -/
def absorb : Nat → List Char → Nat × Nat
  | significand, [] => (significand, 0)
  | significand, digit :: rest =>
    let longer := significand * 10 + (digit.toNat - '0'.toNat)
    if longer < bound then ((absorb longer rest).1, (absorb longer rest).2 + 1)
    else (significand, 0)

/-- The significand of a numeral and the power of ten that goes with it. The
digits behind the point are tried even when some in front of it were left out. -/
def significand (numeral : Numeral) : Nat × Int :=
  let (front, frontTaken) := absorb 0 numeral.whole
  let (all, behindTaken) := absorb front numeral.fraction
  (all, numeral.exponent + numeral.whole.length - frontTaken - behindTaken)

/-- Whether the number is within the range of binary64. -/
def isFinite (numeral : Numeral) : Bool :=
  !Text.Binary64.exceedsStepwise numeral.significand.1 numeral.significand.2

end Numeral

end Json

/-! ## JSON values

A JSON value as it is written, before anybody decides what it stands for.
Object members keep their source order and repeated names are kept, so that a
decoder can refuse a repetition or let the last one win.

Two distinctions matter to decoders and are kept here. An integer is a numeral
without fraction and exponent whose magnitude fits into sixty-four bits; every
other numeral, and the negative zero, is a `decimal`. A string literal whose
escapes leave a surrogate unpaired denotes no text; it is well formed as long
as nobody asks for its text.
-/

/-- A value as it is written, also where it denotes nothing. -/
inductive Json where
  | null
  | bool (value : Bool)
  /-- A numeral without fraction and exponent and with a magnitude of at most
  sixty-four bits, other than the negative zero. -/
  | integer (value : Int)
  /-- Any other numeral. -/
  | decimal (numeral : Json.Numeral)
  /-- A string literal that denotes a text. -/
  | string (value : String)
  /-- A string literal with an unpaired surrogate, which denotes no text. -/
  | unpaired
  | array (items : List Json)
  /-- The members of an object in source order; a name is missing when its
  literal denotes no text. -/
  | object (members : List (Option String × Json))

namespace Json

/-- The value of a string literal, given the text that it denotes. -/
def ofString : Option String → Json
  | some value => .string value
  | none => .unpaired

/-- An object with the given members. -/
def record (members : List (String × Json)) : Json :=
  .object (members.map fun member => (some member.1, member.2))

/-- An array of strings. -/
def strings (values : List String) : Json :=
  .array (values.map .string)

/-- A value, or `null` for none. -/
def optional {α : Type} (encode : α → Json) : Option α → Json
  | some value => encode value
  | none => .null

end Json

/-! ## Decoding JSON values

A decoder maps a value to what it stands for, or to nothing. Decoders are
strict: a value of the wrong kind is refused, `null` stands for nothing only
where that is said, and integers are written without fraction and exponent.

A record is an object with known field names. A known name may occur once,
other names are ignored. A record may also be an array of its fields in order;
missing fields at the end count as absent. Absent fields are refused unless
the field has a default.
-/

namespace Json

variable {α : Type}

/-! ### Values -/

/-- A text that the value denotes. -/
def toText? : Json → Option String
  | .string value => some value
  | _ => none

/-- A natural number below a bound. -/
def toNatBelow? (bound : Nat) : Json → Option Nat
  | .integer (.ofNat value) => if value < bound then some value else none
  | _ => none

/-- The items of an array. -/
def toList? (decode : Json → Option α) : Json → Option (List α)
  | .array items => items.mapM decode
  | _ => none

/-- A value, or `null` for none. -/
def toNullable? (decode : Json → Option α) : Json → Option (Option α)
  | .null => some none
  | value => (decode value).map some

/-- The members of an object whose names all denote texts. -/
def toMembers? : Json → Option (List (String × Json))
  | .object members => members.mapM fun member => member.1.map (·, member.2)
  | _ => none

/-! ### Records -/

/-- The known fields of an object, none of which may occur twice. -/
def namedFields? (names : List String) (value : Json) : Option (List (String × Json)) := do
  let members ← toMembers? value
  let fields := members.filter fun member => names.contains member.1
  if (fields.map Prod.fst).Nodup then some fields else none

/-- The fields of a record with the given field names. -/
def fields? (names : List String) : Json → Option (List (String × Json))
  | .array items => if items.length ≤ names.length then some (names.zip items) else none
  | value => namedFields? names value

/-- A field that must be present. -/
def required? (fields : List (String × Json)) (name : String) (decode : Json → Option α) :
    Option α :=
  (fields.lookup name).bind decode

/-- A field that has a default. -/
def defaulted? (fields : List (String × Json)) (name : String) (decode : Json → Option α)
    (default : α) : Option α :=
  match fields.lookup name with
  | some value => decode value
  | none => some default

/-! ### Values that are kept for later -/

mutual

/-- How many arrays and objects are open at the deepest point of a value. -/
def depth : Json → Nat
  | .array items => depthOfItems items + 1
  | .object members => depthOfMembers members + 1
  | _ => 0

/-- The depth of the deepest item. -/
def depthOfItems : List Json → Nat
  | [] => 0
  | item :: rest => max (depth item) (depthOfItems rest)

/-- The depth of the deepest member. -/
def depthOfMembers : List (Option String × Json) → Nat
  | [] => 0
  | (_, value) :: rest => max (depth value) (depthOfMembers rest)

end

mutual

/-- Whether every string of a value denotes a text and every numeral is within
the range of binary64. -/
def isDenoting : Json → Bool
  | .unpaired => false
  | .decimal numeral => numeral.isFinite
  | .array items => allDenoting items
  | .object members => membersDenoting members
  | _ => true

/-- Whether every item denotes something. -/
def allDenoting : List Json → Bool
  | [] => true
  | item :: rest => isDenoting item && allDenoting rest

/-- Whether every name and every value denotes something. -/
def membersDenoting : List (Option String × Json) → Bool
  | [] => true
  | (name, value) :: rest => name.isSome && isDenoting value && membersDenoting rest

end

end Json

/-! ## Writing JSON text

Two layouts of the same values. The compact one has no blanks at all; the
pretty one puts every item and member on a line of its own, two blanks deeper
than what encloses it, and writes empty arrays and objects in two characters.

Strings escape what has to be escaped and nothing else: the quote, the
backslash and the control characters, five of which have a short escape.
-/

namespace Json

/-- The lower-case hexadecimal digit of a number below sixteen. -/
def hexChar (digit : Nat) : Char :=
  if digit < 10 then Char.ofNat ('0'.toNat + digit) else Char.ofNat ('a'.toNat + (digit - 10))

/-- The characters that stand for one character in a string literal. -/
def escapeChar (char : Char) : List Char :=
  if char = '"' then ['\\', '"']
  else if char = '\\' then ['\\', '\\']
  else if char = '\x08' then ['\\', 'b']
  else if char = '\x0c' then ['\\', 'f']
  else if char = '\n' then ['\\', 'n']
  else if char = '\r' then ['\\', 'r']
  else if char = '\t' then ['\\', 't']
  else if char.toNat < 0x20 then
    ['\\', 'u', '0', '0', hexChar (char.toNat / 16), hexChar (char.toNat % 16)]
  else [char]

/-- The string literal of a text. -/
def quote (text : String) : List Char :=
  '"' :: (text.toList.flatMap escapeChar ++ ['"'])

/-- A literal that denotes no text. -/
def unpairedLiteral : List Char :=
  ['"', '\\', 'u', 'd', '8', '0', '0', '"']

/-- The literal of a member name. -/
def nameChars : Option String → List Char
  | some name => quote name
  | none => unpairedLiteral

/-- The characters of a decimal numeral of an integer. -/
def intChars (value : Int) : List Char :=
  match value with
  | .ofNat magnitude => Nat.toDigits 10 magnitude
  | .negSucc magnitude => '-' :: Nat.toDigits 10 (magnitude + 1)

/-- The characters of a numeral, always with an exponent. -/
def numeralChars (numeral : Numeral) : List Char :=
  let sign := if numeral.negative then ['-'] else []
  let point := if numeral.fraction.isEmpty then [] else ['.']
  sign ++ numeral.whole ++ point ++ numeral.fraction ++ 'e' :: intChars numeral.exponent

/-- The characters of a value that is neither an array nor an object. -/
def scalarChars : Json → List Char
  | .null => ['n', 'u', 'l', 'l']
  | .bool true => ['t', 'r', 'u', 'e']
  | .bool false => ['f', 'a', 'l', 's', 'e']
  | .integer value => intChars value
  | .decimal numeral => numeralChars numeral
  | .string text => quote text
  | .unpaired => unpairedLiteral
  | .array _ => []
  | .object _ => []

/-! ### The compact layout -/

mutual

/-- A value without any blanks. -/
def compactChars : Json → List Char
  | .array items => '[' :: (compactItems items ++ [']'])
  | .object members => '\x7b' :: (compactMembers members ++ ['\x7d'])
  | value => scalarChars value

/-- The items of an array with the commas between them. -/
def compactItems : List Json → List Char
  | [] => []
  | [item] => compactChars item
  | item :: rest => compactChars item ++ ',' :: compactItems rest

/-- The members of an object with the commas between them. -/
def compactMembers : List (Option String × Json) → List Char
  | [] => []
  | [(name, value)] => nameChars name ++ ':' :: compactChars value
  | (name, value) :: rest =>
    nameChars name ++ ':' :: (compactChars value ++ ',' :: compactMembers rest)

end

/-- The text of a value on one line. -/
def compact (value : Json) : String :=
  String.ofList (compactChars value)

/-! ### The pretty layout -/

/-- A line feed and the blanks in front of a line at the given depth. -/
def newLine (depth : Nat) : List Char :=
  '\n' :: List.replicate (2 * depth) ' '

mutual

/-- The characters of a value whose own line is at the given depth. -/
def prettyChars (depth : Nat) : Json → List Char
  | .array [] => ['[', ']']
  | .array items => '[' :: (prettyItems (depth + 1) items ++ newLine depth ++ [']'])
  | .object [] => ['\x7b', '\x7d']
  | .object members => '\x7b' :: (prettyMembers (depth + 1) members ++ newLine depth ++ ['\x7d'])
  | value => scalarChars value

/-- The items of an array, each on a line of its own. -/
def prettyItems (depth : Nat) : List Json → List Char
  | [] => []
  | [item] => newLine depth ++ prettyChars depth item
  | item :: rest => newLine depth ++ prettyChars depth item ++ ',' :: prettyItems depth rest

/-- The members of an object, each on a line of its own. -/
def prettyMembers (depth : Nat) : List (Option String × Json) → List Char
  | [] => []
  | [(name, value)] => newLine depth ++ nameChars name ++ ':' :: ' ' :: prettyChars depth value
  | (name, value) :: rest =>
    newLine depth ++ nameChars name ++ ':' :: ' ' :: (prettyChars depth value ++
      ',' :: prettyMembers depth rest)

end

/-- The text of a value on indented lines. -/
def pretty (value : Json) : String :=
  String.ofList (prettyChars 0 value)

end Json

end CveTriage
