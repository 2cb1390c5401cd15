import CveTriage.CommandLine.Surroundings

/-!
# Trees of files

A tree of files as a value. A place in it is told by the names that lead to it
from the root.

Paths are walked step by step, and a walk keeps the trail that it has come, so
that a step upwards leads back along it; at the root it stays there. Every
step starts at a directory, also one that leads nowhere. Paths that are too
long, or that have a null character, are not walked at all.

A tree, a place to start from, an environment and a home directory make up
surroundings in which the program can run (`FileTree.surroundings`).
-/

set_option autoImplicit false

namespace CveTriage.CommandLine

/-- The names that lead from the root to a place. -/
abbrev Place := List String

/-- A tree of files. -/
inductive FileTree where
  | file (contents : ByteArray)
  | directory (entries : List (String × FileTree))

namespace FileTree

/-- A directory without entries. -/
def empty : FileTree :=
  .directory []

/-- What is in a directory by name. -/
def entries : FileTree → List (String × FileTree)
  | .directory entries => entries
  | .file _ => []

/-- The tree with something else at a place. Directories that are missing on
the way are added. -/
def insert (tree : FileTree) (place : Place) (new : FileTree) : FileTree :=
  match place with
  | [] => new
  | name :: rest =>
    let inner := ((tree.entries.lookup name).getD empty).insert rest new
    .directory ((name, inner) :: tree.entries.filter fun entry => entry.1 ≠ name)

/-! ## Walking -/

/-- The names of the steps that a walk has come from the root, last one first,
each with what it leads to. -/
abbrev Trail := List (String × Option FileTree)

/-- What a trail leads to. -/
def found? (root : FileTree) : Trail → Option FileTree
  | [] => some root
  | (_, found) :: _ => found

/-- The place at the end of a trail. -/
def Trail.place (trail : Trail) : Place :=
  (trail.map Prod.fst).reverse

/-- The trail to a place. -/
def trailTo (root : FileTree) (place : Place) : Trail :=
  place.foldl
    (fun trail name =>
      (name, (root.found? trail).bind fun tree => tree.entries.lookup name) :: trail) []

/-- One step on. -/
def step (root : FileTree) (trail : Trail) (segment : String) : Except PathError Trail :=
  match root.found? trail with
  | none => .error .missing
  | some (.file _) => .error .notDirectory
  | some (.directory entries) =>
    if segment.isEmpty ∨ segment = "." then .ok trail
    else if segment = ".." then .ok trail.tail
    else if Path.nameLimit < segment.utf8ByteSize then .error .tooLong
    else .ok ((segment, entries.lookup segment) :: trail)

/-- The trail of a walk along the given segments of a path, if the path is fit
to be walked. -/
def follow (root : FileTree) (start : Place) (path : String) (segments : List String) :
    Except PathError Trail :=
  if path.toList.contains '\x00' then
    .error (.refused "file name contained an unexpected NUL byte")
  else if Path.isTooLong path then .error .tooLong
  else if path.isEmpty then .error .missing
  else segments.foldlM root.step (if Path.isAbsolute path then [] else root.trailTo start)

/-- What a path leads to. -/
def find? (root : FileTree) (start : Place) (path : String) : Option FileTree :=
  match root.follow start path (Path.segments path) with
  | .ok trail => root.found? trail
  | .error _ => none

/-- The tree with a new directory. Slashes at the end of the path mean nothing. -/
def makeDirectory (root : FileTree) (start : Place) (path : String) :
    Except PathError FileTree := do
  let trail ← root.follow start path
    ((Path.segments path).reverse.dropWhile String.isEmpty).reverse
  match root.found? trail with
  | some _ => .error .occupied
  | none => .ok (root.insert trail.place empty)

/-- Surroundings in which paths start at a place of the tree. -/
def surroundings (start : Place) (environment : Environment) (home : Option String) :
    Surroundings (StateM FileTree) where
  readText path := return match (← get).find? start path with
    | some (.file contents) => String.fromUTF8? contents
    | _ => none
  listDirectory path := return match (← get).find? start path with
    | some (.directory entries) => some (entries.map Prod.fst)
    | _ => none
  pathExists path := return ((← get).find? start path).isSome
  directoryExists path := return match (← get).find? start path with
    | some (.directory _) => true
    | _ => false
  makeDirectory path := do
    match (← get).makeDirectory start path with
    | .ok tree =>
      set tree
      return .ok ()
    | .error error => return .error error
  environment := return environment
  home := return home

end FileTree
end CveTriage.CommandLine
