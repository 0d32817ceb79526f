import FleetRoster.Json.Printer
import FleetRoster.Json.Timestamp

/-!
# Records of the store

Organizations with their account ids, hosts by account and inventory id, and a marker for each
inventory id that was deleted.
-/

namespace FleetRoster

open Calendar (Instant)
open Json (Decoder Record Value)

/-! ## Sorting -/

/-- A value put into values that are in the order of their numbers, before those with the same
number. -/
def insertByNumber {α : Type} (number : α → Int) (a : α) : List α → List α
  | [] => [a]
  | b :: rest => if number a ≤ number b then a :: b :: rest else b :: insertByNumber number a rest

/-- Values in the order of their numbers; those with the same number stay in their order. -/
def sortByNumber {α : Type} (number : α → Int) (as : List α) : List α :=
  as.foldr (insertByNumber number) []

/-! ## Records -/

/-- An organization with its account id. -/
structure Account where
  id : Int
  org : String
  deriving DecidableEq, Repr, Inhabited

/-- A host of an account. -/
structure SystemRow where
  id : Int
  account : Int
  inventoryId : String
  displayName : String
  checksum : Option String
  /-- Whether the host was deleted; its row is kept. -/
  stale : Bool
  staleAt : Option Instant
  staleWarningAt : Option Instant
  culledAt : Option Instant
  lastUpload : Option Instant
  baseline : Option Int
  deriving DecidableEq, Repr, Inhabited

/-- What an upload writes into the row of its host. -/
structure Upload where
  account : Int
  inventoryId : String
  displayName : String
  checksum : Option String
  staleAt : Option Instant
  staleWarningAt : Option Instant
  culledAt : Option Instant
  lastUpload : Instant
  deriving DecidableEq, Repr, Inhabited

/-- When a host was deleted. -/
structure Marker where
  inventoryId : String
  deletedAt : Instant
  deriving DecidableEq, Repr, Inhabited

namespace Account

/-- The fields of an account. -/
def record : Record Account where
  name := "Account"
  blank := default
  fields := [
    .of "id" .refused Decoder.int32 fun x a => { a with id := x },
    .of "org_id" .refused Decoder.text fun x a => { a with org := x }]

/-- An account. -/
def decode : Decoder Account :=
  record.decode

/-- The object of an account. -/
def toValue (a : Account) : Value :=
  .object [("id", .int a.id), ("org_id", .string a.org)]

end Account

namespace SystemRow

/-- The fields of a system. -/
def record : Record SystemRow where
  name := "SystemRecord"
  blank := default
  fields := [
    .of "id" .refused Decoder.int64 fun x s => { s with id := x },
    .of "account_id" .refused Decoder.int32 fun x s => { s with account := x },
    .of "inventory_id" .refused Decoder.text fun x s => { s with inventoryId := x },
    .of "display_name" .refused Decoder.text fun x s => { s with displayName := x },
    .of "request_checksum" .allowedInObject Decoder.text.optional
      fun x s => { s with checksum := x },
    .of "stale" .refused Decoder.boolean fun x s => { s with stale := x },
    .of "stale_timestamp" .allowedInObject Decoder.timestamp.optional
      fun x s => { s with staleAt := x },
    .of "stale_warning_timestamp" .allowedInObject Decoder.timestamp.optional
      fun x s => { s with staleWarningAt := x },
    .of "culled_timestamp" .allowedInObject Decoder.timestamp.optional
      fun x s => { s with culledAt := x },
    .of "last_upload" .allowedInObject Decoder.timestamp.optional
      fun x s => { s with lastUpload := x },
    .of "baseline_id" .allowedInObject Decoder.int64.optional fun x s => { s with baseline := x }]

/-- A system. -/
def decode : Decoder SystemRow :=
  record.decode

/-- The object of a system. -/
def toValue (s : SystemRow) : Value :=
  .object [
    ("id", .int s.id),
    ("account_id", .int s.account),
    ("inventory_id", .string s.inventoryId),
    ("display_name", .string s.displayName),
    ("request_checksum", .orNull .string s.checksum),
    ("stale", .bool s.stale),
    ("stale_timestamp", .orNull .timestamp s.staleAt),
    ("stale_warning_timestamp", .orNull .timestamp s.staleWarningAt),
    ("culled_timestamp", .orNull .timestamp s.culledAt),
    ("last_upload", .orNull .timestamp s.lastUpload),
    ("baseline_id", .orNull .int s.baseline)]

/-- Whether a row has an account and an inventory id. -/
def hasKey (s : SystemRow) (account : Int) (inventoryId : String) : Bool :=
  s.account == account && s.inventoryId == inventoryId

/-- Whether a row is one of an account that is not stale and on a baseline, or on none. -/
def isActiveOn (s : SystemRow) (account : Int) (baseline : Option Int) : Bool :=
  s.account == account && !s.stale && s.baseline == baseline

/-- A row with what an upload writes. The row is no longer stale and stays on its baseline. -/
def take (s : SystemRow) (u : Upload) : SystemRow :=
  { s with
    displayName := u.displayName
    checksum := u.checksum
    stale := false
    staleAt := u.staleAt
    staleWarningAt := u.staleWarningAt
    culledAt := u.culledAt
    lastUpload := some u.lastUpload }

end SystemRow

namespace Marker

/-- The fields of a marker. -/
def record : Record Marker where
  name := "DeletedSystem"
  blank := default
  fields := [
    .of "inventory_id" .refused Decoder.text fun x m => { m with inventoryId := x },
    .of "when_deleted" .refused Decoder.timestamp fun x m => { m with deletedAt := x }]

/-- A marker. -/
def decode : Decoder Marker :=
  record.decode

/-- The object of a marker. -/
def toValue (m : Marker) : Value :=
  .object [("inventory_id", .string m.inventoryId), ("when_deleted", .timestamp m.deletedAt)]

/-- Whether a marker is younger than so many nanoseconds. -/
def isRecent (m : Marker) (now : Instant) (threshold : Int) : Bool :=
  now.since m.deletedAt < threshold

end Marker

end FleetRoster
