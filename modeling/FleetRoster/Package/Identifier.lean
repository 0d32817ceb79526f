import FleetRoster.Text.Quoted

/-!
# Package identifiers

A package is named by `name-version-release.arch`, with an epoch before the name or before the
version when it is not zero. Neither version nor release holds a dash, and the architecture holds
no dot, so an identifier splits at its last dot and its last two dashes, and in one way only.
-/

namespace FleetRoster

/-- A build of a package. -/
structure Package where
  name : String
  epoch : UInt32
  version : String
  release : String
  arch : String
  deriving DecidableEq, Repr

namespace Package

/-- Why a text is no identifier. -/
inductive ReadError
  /-- The text does not split into the parts of an identifier. -/
  | malformed (text : String)
  /-- The epoch is past thirty-two bits. -/
  | epochTooLarge (epoch text : String)
  deriving DecidableEq, Repr

/-- The wording of an error. -/
def ReadError.message : ReadError → String
  | .malformed text => "unable to parse nevra: " ++ Text.quoted text
  | .epochTooLarge epoch text =>
    "invalid epoch " ++ Text.quoted epoch ++ " in nevra " ++ Text.quoted text

/-- The parts before and after the last occurrence of a character. -/
def splitLast? (c : Char) (cs : List Char) : Option (List Char × List Char) :=
  match cs.reverse.dropWhile (· != c) with
  | [] => none
  | _ :: before => some (before.reverse, (cs.reverse.takeWhile (· != c)).reverse)

/-- An optional epoch with its colon, and the part after it, which holds no colon. -/
def splitEpoch? (cs : List Char) : Option (Option (List Char) × List Char) :=
  match cs.dropWhile (· != ':') with
  | [] => some (none, cs)
  | _ :: part =>
    let epoch := cs.takeWhile (· != ':')
    if !epoch.isEmpty && epoch.all Char.isDigit && part.all (· != ':') then some (some epoch, part)
    else none

/-- Whether a character may stand in an architecture. -/
def isArchChar (c : Char) : Bool :=
  c.isLower || c.isDigit || c == '_'

/-- The number of a run of digits. -/
def digitsValue (ds : List Char) : Nat :=
  ds.foldl (fun n d => n * 10 + (d.toNat - 48)) 0

/-- The texts of the parts: the epoch if there is one, name, version, release and architecture. An
epoch before the name goes before one before the version. -/
def split? (cs : List Char) :
    Option (Option (List Char) × List Char × List Char × List Char × List Char) := do
  let (stem, arch) ← splitLast? '.' cs
  let (front, release) ← splitLast? '-' stem
  let (lead, tail) ← splitLast? '-' front
  let (inner, version) ← splitEpoch? tail
  let (outer, name) ← splitEpoch? lead
  if !arch.isEmpty && arch.all isArchChar && release.all (· != ':') && !version.isEmpty
      && !name.isEmpty then
    some (outer <|> inner, name, version, release, arch)
  else none

/-- The package that a text names. -/
def read (text : String) : Except ReadError Package :=
  match split? text.toList with
  | none => .error (.malformed text)
  | some (epoch, name, version, release, arch) =>
    let number := digitsValue (epoch.getD [])
    if number < Nat.pow 2 32 then
      .ok ⟨String.ofList name, UInt32.ofNat number, String.ofList version, String.ofList release,
        String.ofList arch⟩
    else .error (.epochTooLarge (String.ofList (epoch.getD [])) text)

/-- Epoch, version and release; an epoch of zero is left out. -/
def evr (p : Package) : String :=
  (if p.epoch ≠ 0 then toString p.epoch.toNat ++ ":" else "") ++ p.version ++ "-" ++ p.release

/-- Epoch, version, release and architecture. -/
def evra (p : Package) : String :=
  p.evr ++ "." ++ p.arch

/-- The identifier of a package. -/
def text (p : Package) : String :=
  p.name ++ "-" ++ p.evra

end Package

end FleetRoster
