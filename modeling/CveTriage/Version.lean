/-!
# Version strings

The comparison of two version strings, the token lists that say what the strings mean,
and the comparison once more as a sequence of turns.
-/

set_option autoImplicit false

namespace CveTriage.Version

/-! ## The order of version strings

A version string is read as segments: maximal runs of digits, maximal runs of
ASCII letters, and the markers `~` and `^`. Everything else, non-ASCII text
included, only separates.

Two strings are compared segment by segment. Numbers compare by value and are
newer than letters, letters compare alphabetically, a tilde is older than
anything (even the end of the string), and a caret is newer than the end of
the string but older than any other segment. Of two strings that agree as far
as the shorter one reaches, the longer one is newer.

The comparison walks both strings at once (`compareChars`); it reads no
segment beyond the first one that differs.
-/

/-- Whether the character carries no meaning of its own in a version string. -/
def isSeparator (char : Char) : Bool :=
  !char.isAlphanum && char != '~' && char != '^'

/-- Numerals without leading zeros: the longer one is larger, and equally long
ones compare digit by digit. -/
def compareNumerals (left right : List Char) : Ordering :=
  let left := left.dropWhile (· == '0')
  let right := right.dropWhile (· == '0')
  (compare left.length right.length).then (List.compareLex compare left right)

/-- Compares two runs that start with the given character: as numerals when it
is a digit, and alphabetically otherwise. -/
def compareRuns (numeric : Bool) (left right : List Char) : Ordering :=
  if numeric then compareNumerals left right else List.compareLex compare left right

/-- The characters of the runs that a number, or else a word, consists of. -/
def inRun (numeric : Bool) (char : Char) : Bool :=
  if numeric then char.isDigit else char.isAlpha

/-- What is left to read after the separators at the front. -/
theorem length_lt_of_dropWhile {text rest : List Char} {char : Char}
    (shape : text.dropWhile isSeparator = char :: rest) : rest.length < text.length := by
  have bound : (text.dropWhile isSeparator).length ≤ text.length :=
    (List.dropWhile_sublist isSeparator).length_le
  rw [shape] at bound
  exact bound

/-- The order of two version strings, given as their characters. -/
def compareChars (left right : List Char) : Ordering :=
  match _leftShape : left.dropWhile isSeparator, _rightShape : right.dropWhile isSeparator with
  | '~' :: leftRest, '~' :: rightRest => compareChars leftRest rightRest
  | '~' :: _, _ => .lt
  | _, '~' :: _ => .gt
  | '^' :: leftRest, '^' :: rightRest => compareChars leftRest rightRest
  | [], '^' :: _ => .lt
  | '^' :: _, [] => .gt
  | '^' :: _, _ => .lt
  | _, '^' :: _ => .gt
  | [], [] => .eq
  | [], _ :: _ => .lt
  | _ :: _, [] => .gt
  | leftFirst :: leftRest, rightFirst :: rightRest =>
    let numeric := leftFirst.isDigit
    if inRun numeric rightFirst then
      (compareRuns numeric (leftFirst :: leftRest.takeWhile (inRun numeric))
        (rightFirst :: rightRest.takeWhile (inRun numeric))).then
        (compareChars (leftRest.dropWhile (inRun numeric)) (rightRest.dropWhile (inRun numeric)))
    else if numeric then .gt
    else .lt
termination_by left.length
decreasing_by
  · exact length_lt_of_dropWhile _leftShape
  · exact length_lt_of_dropWhile _leftShape
  · exact Nat.lt_of_le_of_lt (List.dropWhile_sublist _).length_le
      (length_lt_of_dropWhile _leftShape)

/-- The order of two version (or release) strings. -/
protected def compare (left right : String) : Ordering :=
  compareChars left.toList right.toList

/-! ## Version strings as token lists

The meaning of a version string, apart from any way of comparing two of them:
the list of its markers, numbers and words. Separators end a run and leave no
trace, and a number is its value, so leading zeros leave no trace either.

Token lists are ordered lexicographically, with one twist: the end of a list
has a place of its own in the order of tokens. A tilde stands below it, a
caret above it, words above the caret and numbers above all words.
-/

/-- A unit of meaning in a version string. -/
inductive Token where
  /-- A tilde, which marks a pre-release. -/
  | tilde
  /-- A caret, which marks a post-release snapshot. -/
  | caret
  /-- A maximal run of ASCII letters. -/
  | word (letters : List Char)
  /-- A maximal run of ASCII digits, read as a number. -/
  | number (value : Nat)
deriving DecidableEq

/-- The tokens of a version string, in order. -/
def tokens : List Char → List Token
  | [] => []
  | char :: rest =>
    if char = '~' then .tilde :: tokens rest
    else if char = '^' then .caret :: tokens rest
    else if char.isDigit then
      .number (Nat.ofDigitChars 10 (char :: rest.takeWhile Char.isDigit) 0) ::
        tokens (rest.dropWhile Char.isDigit)
    else if char.isAlpha then
      .word (char :: rest.takeWhile Char.isAlpha) :: tokens (rest.dropWhile Char.isAlpha)
    else tokens rest
termination_by text => text.length
decreasing_by
  all_goals
    first
    | exact Nat.lt_succ_self _
    | exact Nat.lt_succ_of_le (List.dropWhile_sublist _).length_le

/-- The order of two tokens. -/
def Token.compare : Token → Token → Ordering
  | .tilde, .tilde => .eq
  | .tilde, _ => .lt
  | _, .tilde => .gt
  | .caret, .caret => .eq
  | .caret, _ => .lt
  | _, .caret => .gt
  | .word left, .word right => List.compareLex Ord.compare left right
  | .word _, .number _ => .lt
  | .number _, .word _ => .gt
  | .number left, .number right => Ord.compare left right

/-- The order of the end of a list and a token: only a tilde stands below the end. -/
def Token.compareEnd : Token → Ordering
  | .tilde => .gt
  | _ => .lt

/-- The lexicographic order of token lists under `~ < end < ^ < words < numbers`. -/
def compareTokens : List Token → List Token → Ordering
  | [], [] => .eq
  | [], right :: _ => right.compareEnd
  | left :: _, [] => left.compareEnd.swap
  | left :: lefts, right :: rights => (left.compare right).then (compareTokens lefts rights)

/-! ## One turn of the comparison

The comparison of two version strings takes turns. A turn drops the separators
in front and looks at the two texts: either something differs there and the
comparison ends, or the same stands in front of both and the comparison goes on
with what is behind it.

The kind of run that a turn looks for is that of the first character of the
first text, and the run is cut from both texts before it is asked whether
anything was cut. So there is an ending for a first text that does not start
with such a run (`Ending.emptyRun`).
-/

/-- Why a comparison ends. -/
inductive Ending where
  /-- One text goes on with a tilde, the other one does not. -/
  | tilde
  /-- One text goes on with a caret, the other one does not. -/
  | caret
  /-- At least one text has nothing but separators left. -/
  | exhausted
  /-- The first text does not start with a run of the kind of its first character. -/
  | emptyRun
  /-- The runs are of different kinds. -/
  | otherKind
  /-- The runs are of one kind and differ. -/
  | otherRun
deriving DecidableEq

/-- What one turn of the comparison comes to. -/
inductive Turn where
  | ends (ending : Ending) (order : Ordering)
  /-- Nothing differs so far; these parts of the texts are left to read. -/
  | goesOn (left right : List Char)
deriving DecidableEq

/-- Two runs and what follows them. The kind of runs that are looked for is that of the
first character of the first text. -/
def turnAtRuns (numeric : Bool) (left right : List Char) : Turn :=
  let leftRun := left.takeWhile (inRun numeric)
  let rightRun := right.takeWhile (inRun numeric)
  if leftRun.isEmpty then .ends .emptyRun .lt
  else if rightRun.isEmpty then .ends .otherKind (if numeric then .gt else .lt)
  else
    match compareRuns numeric leftRun rightRun with
    | .eq => .goesOn (left.dropWhile (inRun numeric)) (right.dropWhile (inRun numeric))
    | order => .ends .otherRun order

/-- One turn of the comparison, from what is left to read of the two texts. -/
def turn (left right : List Char) : Turn :=
  match left.dropWhile isSeparator, right.dropWhile isSeparator with
  | '~' :: leftRest, '~' :: rightRest => .goesOn leftRest rightRest
  | '~' :: _, _ => .ends .tilde .lt
  | _, '~' :: _ => .ends .tilde .gt
  | '^' :: leftRest, '^' :: rightRest => .goesOn leftRest rightRest
  | [], '^' :: _ => .ends .caret .lt
  | '^' :: _, [] => .ends .caret .gt
  | '^' :: _, _ => .ends .caret .lt
  | _, '^' :: _ => .ends .caret .gt
  | [], [] => .ends .exhausted .eq
  | [], _ :: _ => .ends .exhausted .lt
  | _ :: _, [] => .ends .exhausted .gt
  | leftFirst :: leftRest, rightFirst :: rightRest =>
    turnAtRuns leftFirst.isDigit (leftFirst :: leftRest) (rightFirst :: rightRest)

/-- A comparison that has these parts of the texts left to read ends in this way. -/
inductive Ends : List Char → List Char → Ending → Ordering → Prop where
  | now {left right : List Char} {ending : Ending} {order : Ordering} :
      turn left right = .ends ending order → Ends left right ending order
  | later {left right leftRest rightRest : List Char} {ending : Ending} {order : Ordering} :
      turn left right = .goesOn leftRest rightRest → Ends leftRest rightRest ending order →
        Ends left right ending order

end CveTriage.Version
