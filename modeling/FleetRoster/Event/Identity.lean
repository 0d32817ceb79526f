import FleetRoster.Event.Host
import FleetRoster.Text.Base64

/-!
# Identity headers

The header names the organization on whose behalf an event was sent. It is base64, in either
alphabet and with blanks around it or not, of a JSON object that holds the identity.
-/

namespace FleetRoster

open Json (Decoder Record)

/-- On whose behalf an event was sent. -/
structure Identity where
  orgId : Option String := none
  accountNumber : Option String := none
  kind : Option String := none
  deriving DecidableEq, Repr, Inhabited

namespace Identity

/-- The fields of an identity. -/
def record : Record Identity where
  name := "Identity"
  blank := {}
  fields := [
    .of "org_id" .allowed Decoder.text.optional fun x i => { i with orgId := x },
    .of "account_number" .allowed Decoder.text.optional fun x i => { i with accountNumber := x },
    .of "type" .allowed Decoder.text.optional fun x i => { i with kind := x }]

/-- The object around an identity. -/
def envelope : Record Identity where
  name := "IdentityEnvelope"
  blank := {}
  fields := [.of "identity" .refused record.decode fun x _ => x]

/-- The identity of a JSON text. -/
def ofBytes (bytes : List UInt8) : Except Fault Identity :=
  match Json.decode envelope.decode (Text.decodeBytes bytes) with
  | .ok identity => .ok identity
  | .error why => .error (.identity ("json: " ++ why.message))

/-- The identity of a header. -/
def ofHeader (header : String) : Except Fault Identity :=
  match Text.Base64.decodeEither (Text.encodeBytes (Text.trim header)) with
  | .ok bytes => ofBytes bytes
  | .error why => .error (.identity ("base64: " ++ why.message))

/-- The organization, if one is named. -/
def organization (i : Identity) : Option String :=
  nonEmpty i.orgId

end Identity

/-- The organization of an uploaded host: its own, or else the one that the identity header names.
The header is looked at only where the host names none. -/
def HostEvent.organization (e : HostEvent) (h : Host) : Except Fault String :=
  match nonEmpty h.orgId with
  | some org => .ok org
  | none =>
    match e.identity with
    | none => .error .noAccount
    | some header =>
      match Identity.ofHeader header with
      | .error why => .error why
      | .ok identity =>
        match identity.organization with
        | some org => .ok org
        | none => .error .noAccount

end FleetRoster
