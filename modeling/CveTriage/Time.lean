import CveTriage.Text

/-!
# Time

Instants, the texts that they are written as, and the texts that are read as one.
-/

set_option autoImplicit false

namespace CveTriage

/-! ## Instants

A moment in coordinated universal time, to the nanosecond, as a date of the
proleptic Gregorian calendar and a time of day. The second may be sixty, which
is a leap second.

Offsets from universal time are whole minutes and smaller than a day, so a
local time becomes an instant by a step of at most one day
(`Instant.ofLocal?`).
-/

/-- A date of the proleptic Gregorian calendar. -/
structure Date where
  /-- Year, where the year before year one is zero. -/
  year : Int
  month : Nat
  day : Nat
deriving DecidableEq

/-- Whether the year has a leap day. -/
def isLeapYear (year : Int) : Bool :=
  year % 4 == 0 && (year % 100 != 0 || year % 400 == 0)

/-- The number of days of a month. -/
def daysInMonth (year : Int) (month : Nat) : Nat :=
  if month = 2 then (if isLeapYear year then 29 else 28)
  else if month = 4 ∨ month = 6 ∨ month = 9 ∨ month = 11 then 30
  else 31

namespace Date

/-- Whether the date exists and its year can be represented. -/
def isValid (date : Date) : Bool :=
  -262143 ≤ date.year && date.year ≤ 262142 && 1 ≤ date.month && date.month ≤ 12 &&
    1 ≤ date.day && date.day ≤ daysInMonth date.year date.month

/-- The day after. -/
def next (date : Date) : Date :=
  if date.day < daysInMonth date.year date.month then { date with day := date.day + 1 }
  else if date.month < 12 then ⟨date.year, date.month + 1, 1⟩
  else ⟨date.year + 1, 1, 1⟩

/-- The day before. -/
def previous (date : Date) : Date :=
  if 1 < date.day then { date with day := date.day - 1 }
  else if 1 < date.month then ⟨date.year, date.month - 1, daysInMonth date.year (date.month - 1)⟩
  else ⟨date.year - 1, 12, 31⟩

end Date

/-- A moment in coordinated universal time. -/
structure Instant where
  date : Date
  hour : Nat
  minute : Nat
  /-- Seconds of the minute; sixty in a leap second. -/
  second : Nat
  nanosecond : Nat
deriving DecidableEq

namespace Instant

/-- The start of 1970. -/
def epoch : Instant :=
  ⟨⟨1970, 1, 1⟩, 0, 0, 0, 0⟩

/-- The instant of a local time that is the given number of minutes ahead of
universal time, unless its year cannot be represented. -/
def ofLocal? (localTime : Instant) (minutesAhead : Int) : Option Instant :=
  let minutes : Int := (localTime.hour * 60 + localTime.minute : Nat) - minutesAhead
  let date :=
    if minutes < 0 then localTime.date.previous
    else if 1440 ≤ minutes then localTime.date.next
    else localTime.date
  let minuteOfDay := (minutes % 1440).toNat
  if date.isValid then
    some { localTime with date, hour := minuteOfDay / 60, minute := minuteOfDay % 60 }
  else none

/-! ### The written form -/

/-- A number with leading zeros up to the given width. -/
def padded (width number : Nat) : List Char :=
  let digits := Nat.toDigits 10 number
  List.replicate (width - digits.length) '0' ++ digits

/-- A year: four digits, and a sign before years that need more or are negative. -/
def yearChars (year : Int) : List Char :=
  if year < 0 then '-' :: padded 4 year.natAbs
  else if 9999 < year then '+' :: padded 4 year.natAbs
  else padded 4 year.natAbs

/-- The fraction of a second with the fewest of zero, three, six and nine digits. -/
def fractionChars (nanosecond : Nat) : List Char :=
  if nanosecond = 0 then []
  else if nanosecond % 1000000 = 0 then '.' :: padded 3 (nanosecond / 1000000)
  else if nanosecond % 1000 = 0 then '.' :: padded 6 (nanosecond / 1000)
  else '.' :: padded 9 nanosecond

/-- The characters of the written form. -/
def toChars (instant : Instant) : List Char :=
  yearChars instant.date.year ++ '-' :: padded 2 instant.date.month ++
    '-' :: padded 2 instant.date.day ++ 'T' :: padded 2 instant.hour ++
    ':' :: padded 2 instant.minute ++ ':' :: padded 2 instant.second ++
    fractionChars instant.nanosecond ++ ['Z']

/-- The instant as text, such as `2024-05-01T00:00:00.250Z`. -/
def render (instant : Instant) : String :=
  String.ofList instant.toChars

end Instant

/-! ## Reading instants

The accepted texts are those of RFC 3339 and some more. The date and the time
are separated by a `T` of either case or a blank; blanks may stand between any
two parts, and numbers may have fewer digits than usual. A year may have a
sign, and then any number of digits. Digits of the fraction past the ninth are
dropped.

The offset is `Z`, `UTC`, or a signed number of hours and minutes of two
digits each. It is smaller than a day.
-/

namespace Instant

open CveTriage.Text (isBlank trimStart)

/-- A number of at least one and at most the given number of digits. -/
def readNumber (width : Nat) (text : List Char) : Option (Nat × List Char) :=
  let digits := (text.take width).takeWhile Char.isDigit
  if digits.isEmpty then none
  else some (Nat.ofDigitChars 10 digits 0, text.drop digits.length)

/-- A number of one or two digits after any blanks. -/
def readField (text : List Char) : Option (Nat × List Char) :=
  readNumber 2 (trimStart text)

/-- A year after any blanks: four digits at most, or a sign and any number of digits. -/
def readYear (text : List Char) : Option (Int × List Char) :=
  match trimStart text with
  | '-' :: rest => (readNumber rest.length rest).map fun found => (-found.1, found.2)
  | '+' :: rest => (readNumber rest.length rest).map fun found => (found.1, found.2)
  | rest => (readNumber 4 rest).map fun found => (found.1, found.2)

/-- The given character after any blanks. -/
def readMark (mark : Char) (text : List Char) : Option (List Char) :=
  match trimStart text with
  | char :: rest => if char = mark then some rest else none
  | [] => none

/-- The character between date and time. -/
def readSeparator : List Char → Option (List Char)
  | char :: rest => if char = 'T' ∨ char = 't' ∨ char = ' ' then some rest else none
  | [] => none

/-- The fraction of a second in nanoseconds, if there is one. -/
def readNanosecond : List Char → Option (Nat × List Char)
  | '.' :: rest => do
    let (digits, after) ← readNumber 9 rest
    let places := rest.length - after.length
    return (Text.Decimal.shifted digits (9 - places), after.dropWhile Char.isDigit)
  | text => some (0, text)

/-- A number of exactly two digits. -/
def readTwoDigits : List Char → Option (Nat × List Char)
  | tens :: ones :: rest =>
    if tens.isDigit ∧ ones.isDigit then
      some ((tens.toNat - '0'.toNat) * 10 + (ones.toNat - '0'.toNat), rest)
    else none
  | _ => none

/-- Hours and minutes of an offset as a number of minutes. Colons and blanks
may stand between them. -/
def readOffsetDigits (text : List Char) : Option (Nat × List Char) := do
  let (hours, text) ← readTwoDigits text
  let (minutes, text) ← readTwoDigits (text.dropWhile fun char => char == ':' || isBlank char)
  if hours < 24 ∧ minutes < 60 then some (hours * 60 + minutes, text) else none

/-- The offset from universal time in minutes. -/
def readOffset : List Char → Option (Int × List Char)
  | 'Z' :: rest | 'z' :: rest => some (0, rest)
  | '+' :: rest => (readOffsetDigits rest).map fun found => (found.1, found.2)
  | '-' :: rest | '−' :: rest => (readOffsetDigits rest).map fun found => (-found.1, found.2)
  | first :: second :: third :: rest =>
    if [first, second, third].map Char.toUpper = ['U', 'T', 'C'] then some (0, rest) else none
  | _ => none

/-- Reads an instant from its characters. -/
def ofChars? (text : List Char) : Option Instant := do
  let (year, text) ← readYear text
  let text ← readMark '-' text
  let (month, text) ← readField text
  let text ← readMark '-' text
  let (day, text) ← readField text
  let text ← readSeparator text
  let (hour, text) ← readField text
  let text ← readMark ':' text
  let (minute, text) ← readField text
  let text ← readMark ':' text
  let (second, text) ← readField text
  let (nanosecond, text) ← readNanosecond text
  let (minutesAhead, text) ← readOffset (trimStart text)
  let date : Date := ⟨year, month, day⟩
  if (trimStart text).isEmpty ∧ date.isValid ∧ hour < 24 ∧ minute < 60 ∧ second ≤ 60 then
    ofLocal? ⟨date, hour, minute, second, nanosecond⟩ minutesAhead
  else none

/-- Reads an instant. -/
def parse? (text : String) : Option Instant :=
  ofChars? text.toList

end Instant

end CveTriage
