import FleetRoster.Event.Profile
import FleetRoster.Json.Timestamp
import FleetRoster.Text.Blank

/-!
# Host events

A notice of the inventory about one host. Nothing in it has to be there: each handler says what it
needs.
-/

namespace FleetRoster

open Calendar (Instant)
open Json (Decoder Field Record Value)

/-- A host as the inventory describes it. -/
structure Host where
  id : Option String := none
  displayName : Option String := none
  orgId : Option String := none
  staleAt : Option Instant := none
  staleWarningAt : Option Instant := none
  culledAt : Option Instant := none
  reporter : Option String := none
  profile : Profile := {}
  deriving Repr, Inhabited

/-- What goes with an event besides the host. -/
structure Metadata where
  requestId : Option String := none
  deriving Repr, Inhabited

/-- A notice about one host. -/
structure HostEvent where
  kind : Option String := none
  id : Option String := none
  timestamp : Option Instant := none
  /-- The identity header, in base64. -/
  identity : Option String := none
  host : Option Host := none
  metadata : Option Metadata := none
  deriving Repr, Inhabited

/-- A text that is not empty. -/
def nonEmpty (text : Option String) : Option String :=
  text.filter fun s => !s.isEmpty

namespace Host

/-- The fields of a host. -/
def record : Record Host where
  name := "Host"
  blank := {}
  fields := [
    .of "id" .allowed Decoder.text.optional fun x h => { h with id := x },
    .of "display_name" .allowed Decoder.text.optional fun x h => { h with displayName := x },
    .of "org_id" .allowed Decoder.text.optional fun x h => { h with orgId := x },
    .of "stale_timestamp" .allowed Decoder.timestamp.optional fun x h => { h with staleAt := x },
    .of "stale_warning_timestamp" .allowed Decoder.timestamp.optional
      fun x h => { h with staleWarningAt := x },
    .of "culled_timestamp" .allowed Decoder.timestamp.optional fun x h => { h with culledAt := x },
    .of "reporter" .allowed Decoder.text.optional fun x h => { h with reporter := x },
    .of "system_profile" .allowed Profile.decode fun x h => { h with profile := x }]

/-- The object of a host. -/
def toValue (h : Host) : Value :=
  .object [
    ("id", .orNull .string h.id),
    ("display_name", .orNull .string h.displayName),
    ("org_id", .orNull .string h.orgId),
    ("stale_timestamp", .orNull .timestamp h.staleAt),
    ("stale_warning_timestamp", .orNull .timestamp h.staleWarningAt),
    ("culled_timestamp", .orNull .timestamp h.culledAt),
    ("reporter", .orNull .string h.reporter),
    ("system_profile", h.profile.toValue)]

/-- The display name, or the inventory id where the name is blank. -/
def displayNameOr (h : Host) (inventoryId : String) : String :=
  match h.displayName with
  | some name => if (Text.trim name).isEmpty then inventoryId else name
  | none => inventoryId

end Host

namespace Metadata

/-- The fields of the metadata. -/
def record : Record Metadata where
  name := "HostMetadata"
  blank := {}
  fields := [.of "request_id" .allowed Decoder.text.optional fun x _ => { requestId := x }]

/-- The object of the metadata. -/
def toValue (m : Metadata) : Value :=
  .object [("request_id", .orNull .string m.requestId)]

end Metadata

namespace HostEvent

/-- The fields of an event. -/
def record : Record HostEvent where
  name := "HostEvent"
  blank := {}
  fields := [
    .of "type" .allowed Decoder.text.optional fun x e => { e with kind := x },
    .of "id" .allowed Decoder.text.optional fun x e => { e with id := x },
    .of "timestamp" .allowed Decoder.timestamp.optional fun x e => { e with timestamp := x },
    .of "b64_identity" .allowed Decoder.text.optional fun x e => { e with identity := x },
    .of "host" .allowed (Decoder.optional Host.record.decode) fun x e => { e with host := x },
    .of "metadata" .allowed (Decoder.optional Metadata.record.decode)
      fun x e => { e with metadata := x }]

/-- An event. -/
def decode : Decoder HostEvent :=
  record.decode

/-- The object of an event. -/
def toValue (e : HostEvent) : Value :=
  .object [
    ("type", .orNull .string e.kind),
    ("id", .orNull .string e.id),
    ("timestamp", .orNull .timestamp e.timestamp),
    ("b64_identity", .orNull .string e.identity),
    ("host", .orNull Host.toValue e.host),
    ("metadata", .orNull Metadata.toValue e.metadata)]

/-- The id of the host, or else the event's own; an empty id is none, and an empty id of the host
hides that of the event. -/
def inventoryId (e : HostEvent) : Option String :=
  nonEmpty ((e.host.bind (·.id)).or e.id)

/-- The request with which the event came. -/
def requestId (e : HostEvent) : Option String :=
  nonEmpty (e.metadata.bind (·.requestId))

end HostEvent

end FleetRoster
