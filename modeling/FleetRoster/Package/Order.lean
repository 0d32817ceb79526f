import FleetRoster.Package.Identifier
import FleetRoster.Package.Version

/-!
# The order of packages

Updates go by epoch, version and release, then by name, and ignore the architecture. The total
order breaks the remaining ties by architecture and by the written version and release, so that
only equal packages compare equal.
-/

namespace FleetRoster.Package

/-- The order of updates. -/
def compareBuilds (a b : Package) : Ordering :=
  (compare a.epoch.toNat b.epoch.toNat).then <|
    (Version.order a.version b.version).then <|
      (Version.order a.release b.release).then (compare a.name b.name)

/-- The total order. -/
def order (a b : Package) : Ordering :=
  (compareBuilds a b).then <|
    (compare a.arch b.arch).then <|
      (compare a.version b.version).then (compare a.release b.release)

/-- Whether the second package is a newer build of the first. -/
def isUpdatedBy (a b : Package) : Bool :=
  a.name == b.name && compareBuilds a b == .lt

/-- Packages sorted by an order, equal ones in the order in which they came. -/
def sortBy (order : Package → Package → Ordering) (ps : List Package) : List Package :=
  ps.mergeSort fun a b => order a b != .gt

/-- A list without elements that equal the one kept before them. -/
def dropRepeats : List Package → List Package
  | [] => []
  | p :: rest => p :: go p rest
where
  /-- The rest of the list after a kept element. -/
  go : Package → List Package → List Package
    | _, [] => []
    | kept, p :: rest => if p = kept then go kept rest else p :: go p rest

end FleetRoster.Package
