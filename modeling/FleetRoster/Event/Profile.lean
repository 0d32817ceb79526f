import FleetRoster.Digest.Sha256
import FleetRoster.Fault
import FleetRoster.Json.Decode
import FleetRoster.Json.Printer

/-!
# System profiles

What a host reports about itself. Only the package list is understood; everything else is kept as it
came, so that the checksum covers the whole profile.
-/

namespace FleetRoster

open Json (Decoder Value Members DecodeError Sketch Source)

/-- The profile of a host. -/
structure Profile where
  /-- The installed packages, if any are reported. -/
  packages : Option (List String) := none
  /-- The other members in the order of their names. -/
  others : Members := []
  deriving Repr, Inhabited, BEq

namespace Profile

/-- The name of the member that holds the packages. -/
def packagesName : String := "installed_packages"

/-- The members of an object from the first one on; `listed` says whether the packages have been
read. -/
def readMembers (source : Source) :
    List (Option String × Sketch) → Bool → Profile → Except DecodeError Profile
  | [], _, p => .ok p
  | (none, _) :: _, _, _ => .error .syntaxError
  | (some name, s) :: rest, listed, p =>
    if name = packagesName then
      if listed then .error (.mismatch (.duplicateField name))
      else do
        let packages ← (Decoder.list Decoder.text).optional source s
        readMembers source rest true { p with packages }
    else do
      let v ← Decoder.value source s
      readMembers source rest listed { p with others := p.others.insert name v }

/-- A profile is an object; unlike other records it is not read from a sequence. -/
def decode : Decoder Profile
  | source, .object members closed => do
    let inside ← source.enter
    let p ← readMembers inside members false {}
    if closed then pure p else .error .syntaxError
  | _, s => s.unlike (.record "SystemProfile")

/-- The object of a profile: the packages first, then the other members. -/
def toValue (p : Profile) : Value :=
  match p.packages with
  | some packages => .object ((packagesName, .texts packages) :: p.others)
  | none => .object p.others

/-- The reported packages. -/
def packageList (p : Profile) : List String :=
  p.packages.getD []

/-- Checks that the first reported package has a proper identifier. A profile without packages
passes. -/
def check (p : Profile) : Except Fault Unit :=
  match p.packageList with
  | [] => .ok ()
  | first :: _ =>
    match Package.read first with
    | .ok _ => .ok ()
    | .error why => .error (.packages why)

/-- The bytes of which the checksum is taken. -/
def bytes (p : Profile) : List UInt8 :=
  Text.encodeBytes p.toValue.text

/-- The SHA-256 of a profile's JSON text, in hexadecimal digits. -/
def checksum (p : Profile) : String :=
  Text.hexBytes (Digest.sha256 p.bytes)

end Profile

end FleetRoster
