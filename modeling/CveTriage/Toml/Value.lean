/-!
# TOML

What a document says, how its tables are put together while it is read, and how its
sections are decoded.
-/

set_option autoImplicit false

namespace CveTriage

/-! ## TOML values

What a TOML document says, after tables have been put together from headers
and dotted keys. Nothing here asks which number a floating-point number is, or
which moment a date and a time are, so it is only kept that they are some.
-/

/-- A value of a document, as far as settings can tell values apart. -/
inductive Toml where
  | string (value : String)
  /-- A signed sixty-four-bit integer. -/
  | integer (value : Int)
  | float
  | boolean (value : Bool)
  /-- A date, a time, or both. -/
  | moment
  /-- An array, written with brackets or as a series of headers. -/
  | array (items : List Toml)
  /-- A table; no key occurs twice. -/
  | table (entries : List (String × Toml))

namespace Toml

/-- A reader takes something from the front of a text and returns the rest. -/
abbrev Reader (α : Type) := List Char → Option (α × List Char)

end Toml

/-! ## Putting tables together

A document spreads a table over headers, dotted keys and inline tables. While
it is read, every table remembers how it came to be: by a header of its own,
because a longer header passes through it, or because a dotted key does. This
decides what may still be added to it.

A header may pass through any table, and through the last table of a series.
It may give a body to a table that only longer headers have passed through. A
dotted key may not pass through a table with a header of its own, and adds to
no table but those of dotted keys. No key is set twice.
-/

namespace Toml

/-- How a table came to be. -/
inductive Origin where
  /-- By a header of its own, or as an inline table. -/
  | header
  /-- As a step of a longer header. -/
  | implied
  /-- As a step of a dotted key. -/
  | dotted
deriving DecidableEq

/-- What a key leads to while the document is read. -/
inductive Node where
  | value (value : Toml)
  | table (origin : Origin) (entries : List (String × Node))
  /-- A series of tables, last one first. -/
  | series (tables : List (List (String × Node)))

/-- The entries of a table while the document is read. -/
abbrev Entries := List (String × Node)

namespace Entries

/-- The entries with a key set, in its place if it was set before. -/
def set (entries : Entries) (key : String) (node : Node) : Entries :=
  if (entries.lookup key).isSome then
    entries.map fun entry => if entry.1 = key then (key, node) else entry
  else entries ++ [(key, node)]

/-- Changes the table at the end of a path. The steps are those of a dotted key
or of a header. -/
def alterAt (isDotted : Bool) (alter : Origin → Entries → Option Entries) :
    List String → Origin → Entries → Option Entries
  | [], origin, entries => alter origin entries
  | key :: path, _, entries =>
    match entries.lookup key with
    | none =>
      let origin := if isDotted then Origin.dotted else .implied
      (alterAt isDotted alter path origin []).map fun inner =>
        entries.set key (.table origin inner)
    | some (.table origin inner) =>
      if isDotted ∧ origin = .header then none
      else (alterAt isDotted alter path origin inner).map fun inner =>
        entries.set key (.table origin inner)
    | some (.series (last :: earlier)) =>
      (alterAt isDotted alter path .header last).map fun inner =>
        entries.set key (.series (inner :: earlier))
    | some (.series []) => none
    | some (.value _) => none

/-- Sets a key for the first time. Behind dots it is set in tables of dotted
keys only. -/
def define (path : List String) (key : String) (node : Node) (entries : Entries) :
    Option Entries :=
  alterAt true
    (fun origin entries =>
      if origin = .dotted ↔ path = [] then none
      else if (entries.lookup key).isSome then none
      else some (entries.set key node))
    path .header entries

/-- Gives a table a header of its own. -/
def openTable (path : List String) (key : String) (entries : Entries) : Option Entries :=
  alterAt false
    (fun _ entries =>
      match entries.lookup key with
      | none => some (entries.set key (.table .header []))
      | some (.table .implied inner) => some (entries.set key (.table .header inner))
      | some _ => none)
    path .header entries

/-- Begins a new table of a series. -/
def openSeries (path : List String) (key : String) (entries : Entries) : Option Entries :=
  alterAt false
    (fun _ entries =>
      match entries.lookup key with
      | none => some (entries.set key (.series [[]]))
      | some (.series tables) => some (entries.set key (.series ([] :: tables)))
      | some _ => none)
    path .header entries

/-- Sets a key in the table that the latest header has opened. -/
def defineIn (header path : List String) (key : String) (node : Node) (entries : Entries) :
    Option Entries :=
  alterAt false (fun _ entries => define path key node entries) header .header entries

end Entries

mutual

/-- The value that a node stands for. -/
def Node.toToml : Node → Toml
  | .value value => value
  | .table _ entries => .table (entriesToToml entries)
  | .series tables => .array (tablesToToml tables).reverse

/-- The entries that a table stands for. -/
def entriesToToml : List (String × Node) → List (String × Toml)
  | [] => []
  | (key, node) :: rest => (key, node.toToml) :: entriesToToml rest

/-- The tables that a series stands for, last one first. -/
def tablesToToml : List (List (String × Node)) → List Toml
  | [] => []
  | entries :: rest => .table (entriesToToml entries) :: tablesToToml rest

end

end Toml

/-! ## Decoding TOML values

A decoder maps a value to what it stands for, or to nothing if the value is of
the wrong kind. All fields of a section have defaults, so decoders of sections
only say which fields there are. A section is a table of its fields, or an
array of them in order. Names that a table does not know and items behind the
last field are ignored. A moment counts as a section without fields.
-/

namespace Toml

variable {α : Type}

/-- A text. -/
def toText? : Toml → Option String
  | .string value => some value
  | _ => none

/-- A truth value. -/
def toBool? : Toml → Option Bool
  | .boolean value => some value
  | _ => none

/-- An integer that is not negative. -/
def toNat? : Toml → Option Nat
  | .integer (.ofNat value) => some value
  | _ => none

/-- The fields of a section with the given field names. -/
def fields? (names : List String) : Toml → Option (List (String × Toml))
  | .table entries => some entries
  | .array items => some (names.zip items)
  | .moment => some []
  | _ => none

/-- A field, or its default if it is absent. -/
def defaulted? (fields : List (String × Toml)) (name : String) (decode : Toml → Option α)
    (default : α) : Option α :=
  match fields.lookup name with
  | some value => decode value
  | none => some default

end Toml

end CveTriage
