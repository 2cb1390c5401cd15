import CveTriage.Json.Parser
import CveTriage.Time
import CveTriage.Toml.Value

/-!
# Reading TOML

Lines, strings and keys are read from characters, then scalars, then values and the
statements of a document.
-/

set_option autoImplicit false

namespace CveTriage.Toml

/-! ## Lines, strings and keys of TOML

Blanks are spaces and tabs. A line ends with a line feed, perhaps after a
carriage return, and may have a comment before its end. Comments and strings
admit no control characters but the tab.

There are four kinds of strings. A quote begins a basic string, which has
escapes, and an apostrophe a literal one, which has none. Three of either
begin a string of several lines; it ends with three of them, before which two
more belong to the string.

Readers that repeat something are given the text itself as a bound on the
number of repetitions, since every repetition takes at least one character.
-/

/-! ### Lines -/

/-- Whether the character is a blank. -/
def isBlank (char : Char) : Bool :=
  char == ' ' || char == '\t'

/-- The text without the blanks at the front. -/
def skipBlanks (text : List Char) : List Char :=
  text.dropWhile isBlank

/-- Whether comments and literal strings admit the character. -/
def isPrintable (char : Char) : Bool :=
  char == '\t' || (0x20 ≤ char.toNat && char.toNat != 0x7F)

/-- The text after the end of a line. -/
def newline? : List Char → Option (List Char)
  | '\n' :: rest => some rest
  | '\r' :: '\n' :: rest => some rest
  | _ => none

/-- The text without a comment at the front. -/
def skipComment : List Char → List Char
  | '#' :: rest => rest.dropWhile isPrintable
  | text => text

/-- The text after the rest of a line, which may hold blanks and a comment.
The end of the document ends a line too. -/
def endLine? (text : List Char) : Option (List Char) :=
  match skipComment (skipBlanks text) with
  | [] => some []
  | rest => newline? rest

/-- The text after blanks, comments and line ends. -/
def skipLines : List Char → List Char → List Char
  | [], text => text
  | _ :: fuel, text =>
    let rest := skipBlanks text
    match newline? (skipComment rest) with
    | some rest => skipLines fuel rest
    | none => rest

/-- The text after any blanks, comments and line ends at the front. -/
def skipGap (text : List Char) : List Char :=
  skipLines text text

/-! ### Strings -/

/-- The character with the given number, if it is a Unicode scalar value. -/
def scalarChar? (code : Nat) : Option Char :=
  if code < 0xD800 ∨ (0xE000 ≤ code ∧ code < 0x110000) then some (Char.ofNat code) else none

/-- The value of a run of hexadecimal digits. -/
def hexValue? (digits : List Char) : Option Nat :=
  digits.foldlM (fun value char => (Json.hexDigit? char).map (value * 16 + ·)) 0

/-- The character that an escape stands for; the backslash has been read. -/
def readEscape : Reader Char
  | 'b' :: rest => some ('\x08', rest)
  | 't' :: rest => some ('\t', rest)
  | 'n' :: rest => some ('\n', rest)
  | 'f' :: rest => some ('\x0c', rest)
  | 'r' :: rest => some ('\r', rest)
  | '"' :: rest => some ('"', rest)
  | '\\' :: rest => some ('\\', rest)
  | 'u' :: rest => readCode 4 rest
  | 'U' :: rest => readCode 8 rest
  | _ => none
where
  /-- The character whose number has exactly the given number of digits. -/
  readCode (width : Nat) (text : List Char) : Option (Char × List Char) :=
    let digits := text.take width
    if digits.length = width then
      ((hexValue? digits).bind scalarChar?).map (·, text.drop width)
    else none

/-- The characters of a basic string; its opening quote has been read. -/
def readBasic : List Char → Reader (List Char)
  | _, '"' :: rest => some ([], rest)
  | _ :: fuel, '\\' :: rest => do
    let (char, rest) ← readEscape rest
    let (chars, rest) ← readBasic fuel rest
    return (char :: chars, rest)
  | _ :: fuel, char :: rest =>
    if isPrintable char then (readBasic fuel rest).map fun found => (char :: found.1, found.2)
    else none
  | _, _ => none

/-- The characters of a literal string; its opening apostrophe has been read. -/
def readLiteral : Reader (List Char)
  | '\'' :: rest => some ([], rest)
  | char :: rest =>
    if isPrintable char then (readLiteral rest).map fun found => (char :: found.1, found.2)
    else none
  | [] => none

/-- The end of a string of several lines: how many quotes belong to the string
before the three that end it, and the text after them. -/
def endQuotes? (quote : Char) (text : List Char) : Option (Nat × List Char) :=
  let count := ((text.takeWhile (· == quote)).take 5).length
  if count < 3 then none else some (count - 3, text.drop count)

/-- The text after an escaped line end: blanks up to the end of the line, and
then all blanks and line ends. -/
def skipFold? (text : List Char) : Option (List Char) :=
  (newline? (skipBlanks text)).map fun rest => folded rest rest
where
  /-- The text without blanks and line ends at the front. -/
  folded : List Char → List Char → List Char
    | [], text => skipBlanks text
    | _ :: fuel, text =>
      match newline? (skipBlanks text) with
      | some rest => folded fuel rest
      | none => skipBlanks text

/-- The characters of a string of several lines; what opens it has been read.
A line end counts as a line feed, however it is written. -/
def readLines (quote : Char) : List Char → Reader (List Char)
  | [], _ => none
  | _, [] => none
  | _ :: fuel, char :: rest =>
    match endQuotes? quote (char :: rest) with
    | some (count, after) => some (List.replicate count quote, after)
    | none =>
      match newline? (char :: rest) with
      | some rest => more fuel '\n' rest
      | none =>
        if char = '\\' ∧ quote = '"' then
          match skipFold? rest with
          | some rest => readLines quote fuel rest
          | none => (readEscape rest).bind fun found => more fuel found.1 found.2
        else if isPrintable char then more fuel char rest
        else none
where
  /-- One more character in front of what follows. -/
  more (fuel : List Char) (char : Char) (rest : List Char) : Option (List Char × List Char) :=
    (readLines quote fuel rest).map fun found => (char :: found.1, found.2)

/-- The text without a line end at the front. -/
def skipNewline (text : List Char) : List Char :=
  (newline? text).getD text

/-- A string of one line. -/
def readQuoted : Reader String
  | '"' :: rest => (readBasic rest rest).map fun found => (String.ofList found.1, found.2)
  | '\'' :: rest => (readLiteral rest).map fun found => (String.ofList found.1, found.2)
  | _ => none

/-- A string of either form. -/
def readString : Reader String
  | '"' :: '"' :: '"' :: rest => long '"' rest
  | '\'' :: '\'' :: '\'' :: rest => long '\'' rest
  | text => readQuoted text
where
  /-- A string of several lines. -/
  long (quote : Char) (text : List Char) : Option (String × List Char) :=
    let body := skipNewline text
    (readLines quote body body).map fun found => (String.ofList found.1, found.2)

/-! ### Keys -/

/-- Whether a key may hold the character without quotes. -/
def isBare (char : Char) : Bool :=
  char.isAlphanum || char == '_' || char == '-'

/-- A key without dots. -/
def readSimpleKey (text : List Char) : Option (String × List Char) :=
  match readQuoted text with
  | some found => some found
  | none =>
    let key := text.takeWhile isBare
    if key.isEmpty then none else some (String.ofList key, text.dropWhile isBare)

/-- The parts of a dotted key, with the blanks around them. -/
def readKeyParts : List Char → Reader (List String)
  | [], _ => none
  | _ :: fuel, text => do
    let (key, rest) ← readSimpleKey (skipBlanks text)
    match skipBlanks rest with
    | '.' :: rest =>
      let (keys, rest) ← readKeyParts fuel rest
      return (key :: keys, rest)
    | rest => return ([key], rest)

/-- The number of parts and levels that a document may not reach. -/
def nestingLimit : Nat := 80

/-- A key with its dots. -/
def readKey (text : List Char) : Option (List String × List Char) := do
  let (keys, rest) ← readKeyParts text text
  if keys.length < nestingLimit then some (keys, rest) else none

/-! ## Numbers, moments and truth values of TOML

Digits may be separated by single underscores. Decimal numbers have no leading
zeros; hexadecimal, octal and binary integers have a prefix, no sign, and may
have leading zeros. Integers fit into sixty-four bits with a sign.

A date has to exist. A time has seconds, the sixtieth included, and a time
with a date may have an offset.
-/

/-! ### Digits -/

/-- Digits with single underscores between them, without the underscores. -/
def readDigits (isDigit : Char → Bool) : Reader (List Char)
  | [] => none
  | char :: rest =>
    if isDigit char then
      match rest with
      | '_' :: next :: rest =>
        if isDigit next then
          (readDigits isDigit (next :: rest)).map fun found => (char :: found.1, found.2)
        else some ([char], '_' :: next :: rest)
      | next :: rest =>
        if isDigit next then
          (readDigits isDigit (next :: rest)).map fun found => (char :: found.1, found.2)
        else some ([char], next :: rest)
      | [] => some ([char], [])
    else none

/-- A sign, if there is one: whether it is a minus. -/
def readSign : List Char → Bool × List Char
  | '-' :: rest => (true, rest)
  | '+' :: rest => (false, rest)
  | text => (false, text)

/-- Decimal digits without a leading zero, unless zero is all there is. -/
def readWhole : Reader (List Char)
  | '0' :: rest => some (['0'], rest)
  | text => readDigits Char.isDigit text

/-! ### Integers -/

/-- An integer, if it fits into sixty-four bits with a sign. -/
def integer? (value : Int) : Option Toml :=
  if -9223372036854775808 ≤ value ∧ value ≤ 9223372036854775807 then some (.integer value) else none

/-- An integer with a prefix that tells its base. -/
def readBased (base : Nat) (text : List Char) : Option (Toml × List Char) := do
  let digit? (char : Char) : Option Nat := (Json.hexDigit? char).filter (· < base)
  let (digits, rest) ← readDigits (fun char => (digit? char).isSome) text
  let value := digits.foldl (fun value char => value * base + (digit? char).getD 0) 0
  return (← integer? value, rest)

/-- An integer: decimal with an optional sign, or in another base without one. -/
def readInteger : Reader Toml
  | '0' :: 'x' :: rest => readBased 16 rest
  | '0' :: 'o' :: rest => readBased 8 rest
  | '0' :: 'b' :: rest => readBased 2 rest
  | text => do
    let (negative, rest) := readSign text
    let (digits, rest) ← readWhole rest
    let magnitude : Int := Text.Decimal.value digits
    return (← integer? (if negative then -magnitude else magnitude), rest)

/-! ### Floating-point numbers -/

/-- The exponent of a number. -/
def readExponent : Reader Int
  | char :: rest =>
    if char = 'e' ∨ char = 'E' then do
      let (negative, rest) := readSign rest
      let (digits, rest) ← readDigits Char.isDigit rest
      let magnitude : Int := Text.Decimal.value digits
      return (if negative then -magnitude else magnitude, rest)
    else none
  | [] => none

/-- The fraction of a number and its exponent, at least one of which is there. -/
def readTail : Reader (List Char × Int)
  | '.' :: rest => do
    let (fraction, rest) ← readDigits Char.isDigit rest
    match readExponent rest with
    | some (exponent, rest) => return ((fraction, exponent), rest)
    | none => return ((fraction, 0), rest)
  | text => (readExponent text).map fun found => (([], found.1), found.2)

/-- A floating-point number. Positive numbers that are too large are refused. -/
def readFloat (text : List Char) : Option (Toml × List Char) :=
  let (negative, unsigned) := readSign text
  match unsigned with
  | 'i' :: 'n' :: 'f' :: rest | 'n' :: 'a' :: 'n' :: rest => some (.float, rest)
  | unsigned => do
    let (whole, rest) ← readWhole unsigned
    let ((fraction, exponent), rest) ← readTail rest
    let mantissa := Text.Decimal.value (whole ++ fraction)
    if !negative && Text.Binary64.exceeds mantissa (exponent - fraction.length) then none
    else some (.float, rest)

/-! ### Moments -/

/-- A number of exactly the given number of digits and below the given bound. -/
def readFixed (width bound : Nat) (text : List Char) : Option (Nat × List Char) :=
  let digits := text.take width
  if digits.length = width ∧ digits.all Char.isDigit ∧ Text.Decimal.value digits < bound then
    some (Text.Decimal.value digits, text.drop width)
  else none

/-- The text after the given character. -/
def readMark (mark : Char) : List Char → Option (List Char)
  | char :: rest => if char = mark then some rest else none
  | [] => none

/-- The text after a date. -/
def skipDate (text : List Char) : Option (List Char) := do
  let (year, text) ← readFixed 4 10000 text
  let text ← readMark '-' text
  let (month, text) ← readFixed 2 13 text
  let text ← readMark '-' text
  let (day, text) ← readFixed 2 32 text
  if (Date.mk year month day).isValid then some text else none

/-- The text after a fraction of a second, if there is one. -/
def skipFraction : List Char → Option (List Char)
  | '.' :: rest =>
    if (rest.takeWhile Char.isDigit).isEmpty then none else some (rest.dropWhile Char.isDigit)
  | text => some text

/-- The text after a time. -/
def skipTime (text : List Char) : Option (List Char) := do
  let (_, text) ← readFixed 2 24 text
  let text ← readMark ':' text
  let (_, text) ← readFixed 2 60 text
  let text ← readMark ':' text
  let (_, text) ← readFixed 2 61 text
  skipFraction text

/-- The text after an offset, if there is one. -/
def skipOffset (text : List Char) : List Char :=
  match text with
  | 'Z' :: rest | 'z' :: rest => rest
  | '+' :: rest | '-' :: rest => (hours rest).getD text
  | _ => text
where
  /-- The text after hours and minutes. -/
  hours (text : List Char) : Option (List Char) := do
    let (_, text) ← readFixed 2 24 text
    let text ← readMark ':' text
    let (_, text) ← readFixed 2 60 text
    return text

/-- The text after a time that follows a date, if there is one. -/
def skipTimeOfDate : List Char → List Char
  | char :: rest =>
    if char = 'T' ∨ char = 't' ∨ char = ' ' then
      match skipTime rest with
      | some after => skipOffset after
      | none => char :: rest
    else char :: rest
  | [] => []

/-- A date, a time, or both. -/
def readMoment (text : List Char) : Option (Toml × List Char) :=
  match skipDate text with
  | some rest => some (.moment, skipTimeOfDate rest)
  | none => (skipTime text).map fun rest => (.moment, rest)

/-! ### Scalars -/

/-- A value that is neither an array nor a table. -/
def readScalar : Reader Toml
  | 't' :: 'r' :: 'u' :: 'e' :: rest => some (.boolean true, rest)
  | 'f' :: 'a' :: 'l' :: 's' :: 'e' :: rest => some (.boolean false, rest)
  | text =>
    ((readString text).map fun found => (.string found.1, found.2)).or
      ((readMoment text).or ((readFloat text).or (readInteger text)))

/-! ## Reading TOML documents

A document is a sequence of statements, each on a line of its own: a header
opens a table, a double header begins a new table of a series, and a key with
a value sets the key in the table opened last.

Arrays may span lines and may have a comma at the end, inline tables may not.
Neither is nested as deeply as the limit.
-/

/-! ### Values -/

/-- The items of an array up to its closing bracket, given a reader of values. -/
def readItems (readValue : Reader Toml) : List Char → Reader (List Toml)
  | [], _ => none
  | _ :: fuel, text =>
    match skipGap text with
    | ']' :: rest => some ([], rest)
    | text => do
      let (item, rest) ← readValue text
      match skipGap rest with
      | ',' :: rest =>
        let (items, rest) ← readItems readValue fuel rest
        return (item :: items, rest)
      | ']' :: rest => return ([item], rest)
      | _ => none

/-- A key and its value, given a reader of values: the path, the key, the value. -/
def readPair (readValue : Reader Toml) (text : List Char) :
    Option ((List String × String × Toml) × List Char) := do
  let (keys, rest) ← readKey text
  let rest ← readMark '=' rest
  let (value, rest) ← readValue (skipBlanks rest)
  let key ← keys.getLast?
  return ((keys.dropLast, key, value), rest)

/-- The pairs of an inline table up to its closing brace, of which there is at
least one. -/
def readPairs (readValue : Reader Toml) (entries : Entries) : List Char → Reader Entries
  | [], _ => none
  | _ :: fuel, text => do
    let ((path, key, value), rest) ← readPair readValue text
    let entries ← entries.define path key (.value value)
    match skipBlanks rest with
    | ',' :: rest => readPairs readValue entries fuel rest
    | '\x7d' :: rest => return (entries, rest)
    | _ => none

/-- A value that has room for the given number of levels of arrays and tables. -/
def readValue : Nat → Reader Toml
  | levels, '[' :: rest =>
    match levels with
    | 0 => none
    | levels + 1 =>
      (readItems (readValue levels) rest rest).map fun found => (.array found.1, found.2)
  | levels, '\x7b' :: rest =>
    match levels with
    | 0 => none
    | levels + 1 =>
      match skipBlanks rest with
      | '\x7d' :: rest => some (.table [], rest)
      | text => (readPairs (readValue levels) [] text text).map fun found =>
        (.table (entriesToToml found.1), found.2)
  | _, text => readScalar text

/-! ### Statements -/

/-- What has been read of a document. -/
structure Draft where
  root : Entries
  /-- The path of the table opened last. -/
  header : List String

/-- A header after its opening bracket. -/
def readHeader (draft : Draft) (text : List Char) : Option (Draft × List Char) :=
  match text with
  | '[' :: rest => do
    let (keys, rest) ← readKey rest
    let rest ← readMark ']' (← readMark ']' rest)
    let key ← keys.getLast?
    return (⟨← draft.root.openSeries keys.dropLast key, keys⟩, ← endLine? rest)
  | text => do
    let (keys, rest) ← readKey text
    let rest ← readMark ']' rest
    let key ← keys.getLast?
    return (⟨← draft.root.openTable keys.dropLast key, keys⟩, ← endLine? rest)

/-- A key, its value, and the end of the line. -/
def readDefinition (draft : Draft) (text : List Char) : Option (Draft × List Char) := do
  let ((path, key, value), rest) ← readPair (readValue (nestingLimit - 1)) text
  let root ← draft.root.defineIn draft.header path key (.value value)
  return (⟨root, draft.header⟩, ← endLine? rest)

/-- The statements of a document. -/
def readStatements : List Char → Draft → List Char → Option Draft
  | [], draft, text => if (skipBlanks text).isEmpty then some draft else none
  | _ :: fuel, draft, text =>
    match skipBlanks text with
    | [] => some draft
    | '#' :: rest => (endLine? ('#' :: rest)).bind (readStatements fuel draft)
    | '[' :: rest => (readHeader draft rest).bind fun found => readStatements fuel found.1 found.2
    | text =>
      match newline? text with
      | some rest => readStatements fuel draft rest
      | none => (readDefinition draft text).bind fun found => readStatements fuel found.1 found.2

/-- The text without a byte order mark at the front. -/
def skipByteOrderMark : List Char → List Char
  | '\ufeff' :: rest => rest
  | text => text

/-- The table that a document denotes. -/
def parse? (document : String) : Option Toml :=
  let text := skipByteOrderMark document.toList
  (readStatements text ⟨[], []⟩ text).map fun draft =>
    .table (entriesToToml draft.root)

end CveTriage.Toml
