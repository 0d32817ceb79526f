import FleetRoster.Json.Printer
import FleetRoster.Json.Timestamp

/-!
# Audit events

The payload tracker follows each request through the services that work on it. An event says what
became of one host of a request; one without request or organization cannot be followed and is not
sent.
-/

namespace FleetRoster

open Calendar (Instant)
open Json (Decoder Record Value)

/-- What became of one host of a request. -/
structure Audit where
  service : String
  org : Option String
  requestId : Option String
  inventoryId : String
  status : String
  /-- The reason of the status, or the empty text. -/
  detail : String
  date : Option Instant
  deriving DecidableEq, Repr, Inhabited

namespace Audit

/-- The name under which this service reports. -/
def serviceName : String := "hostsync"

/-- What can be reported. -/
inductive Status
  | received
  | processing
  | success
  | error
  deriving DecidableEq, Repr

/-- The text of a status. -/
def Status.text : Status → String
  | received => "received"
  | processing => "processing"
  | success => "success"
  | error => "error"

/-- The event of a host that has arrived. -/
def received (inventoryId : String) (org requestId : Option String) : Audit :=
  ⟨serviceName, org, requestId, inventoryId, Status.received.text, "", none⟩

/-- An event with another status and its reason. -/
def withStatus (e : Audit) (status detail : String) : Audit :=
  { e with status, detail }

/-- Whether an event can be followed: it has a request and an organization, neither empty. -/
def isTracked (e : Audit) : Bool :=
  e.requestId.any (!·.isEmpty) && e.org.any (!·.isEmpty)

/-- The events that can be followed, all with one date. -/
def stamped (events : List Audit) (now : Instant) : List Audit :=
  (events.filter isTracked).map fun e => { e with date := some now }

/-- The fields of an event. -/
def record : Record Audit where
  name := "PayloadTrackerEvent"
  blank := ⟨"", none, none, "", "", "", none⟩
  fields := [
    .of "service" .refused Decoder.text fun x e => { e with service := x },
    .of "org_id" .allowed Decoder.text.optional fun x e => { e with org := x },
    .of "request_id" .allowedInObject Decoder.text.optional fun x e => { e with requestId := x },
    .of "inventory_id" .refused Decoder.text fun x e => { e with inventoryId := x },
    .of "status" .refused Decoder.text fun x e => { e with status := x },
    .of "status_msg" .allowed Decoder.text fun x e => { e with detail := x },
    .of "date" .allowedInObject Decoder.timestamp.optional fun x e => { e with date := x }]

/-- An event. -/
def decode : Decoder Audit :=
  record.decode

/-- The object of an event, without an organization or a reason where there is none. -/
def toValue (e : Audit) : Value :=
  .object <|
    [("service", .string e.service)]
      ++ (e.org.toList.map fun org => ("org_id", .string org))
      ++ [("request_id", .orNull .string e.requestId), ("inventory_id", .string e.inventoryId),
        ("status", .string e.status)]
      ++ (if e.detail.isEmpty then [] else [("status_msg", .string e.detail)])
      ++ [("date", .orNull .timestamp e.date)]

end Audit

end FleetRoster
