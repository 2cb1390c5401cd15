import CveTriage.Feed
import Std.Data.ExtTreeMap

/-!
# Hosts

What an evaluation knows about a host: its request, and the updates within its reach.
-/

set_option autoImplicit false

namespace CveTriage

open Std (ExtTreeMap)

/-! ## Requests

A request describes a host: its packages, the repositories that it has
enabled, its architecture and release, and its active module streams.

An evaluation works on the inventory of the request. There a package string
leads to the identity that it spells, strings that spell none are dropped, and
a module leads to one stream, the last one named. Nothing of the order and the
repetitions of the lists is left.
-/

/-- A host as its owner describes it. -/
structure Request where
  packages : List String
  /-- Labels of the enabled repositories, if the host sends them. -/
  repositories : Option (List String)
  basearch : Option String
  releasever : Option String
  modules : List ModuleStream
deriving DecidableEq

/-- What an evaluation knows about a host. -/
structure Inventory where
  /-- The identities of the packages by package string. -/
  packages : ExtTreeMap String Nevra
  /-- The active stream of every module. -/
  modules : ExtTreeMap String String
  request : Request

namespace Request

/-- The package strings that spell an identity, with the identity. -/
def parsedPackages (request : Request) : List (String × Nevra) :=
  request.packages.filterMap fun package =>
    match Nevra.parse package with
    | .ok nevra => some (package, nevra)
    | .error _ => none

/-- What the request says about the host, made ready for lookups. -/
def inventory (request : Request) : Inventory where
  packages := request.parsedPackages.foldl (fun packages entry => packages.insert entry.1 entry.2) ∅
  modules :=
    request.modules.foldl (fun modules active => modules.insert active.module active.stream) ∅
  request := request

end Request

/-! ## Available updates

Which updates a host could install is found out elsewhere. The evaluation asks
a source of updates about an inventory. One source knows no updates; another
has a list prepared in advance and answers with the entries for the packages
that the host has.
-/

/-- An update that a repository offers. -/
structure AvailableUpdate where
  /-- Package string of the update. -/
  package : String
  erratum : String
  repository : Option String
deriving DecidableEq

/-- Updates by the package string of the installed package. -/
abbrev UpdateList := ExtTreeMap String (List AvailableUpdate)

/-- Something that knows the updates for a host. -/
structure UpdateSource where
  available : Inventory → UpdateList

namespace UpdateSource

/-- The source without any updates. -/
def none : UpdateSource :=
  ⟨fun _ => ∅⟩

/-- The source with a prepared list. -/
def prepared (updates : UpdateList) : UpdateSource :=
  ⟨fun inventory => updates.filter fun package _ => package ∈ inventory.packages⟩

end UpdateSource

end CveTriage
