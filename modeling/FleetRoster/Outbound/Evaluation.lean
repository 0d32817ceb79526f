import FleetRoster.Json.Printer
import FleetRoster.Json.Timestamp

/-!
# Evaluation messages

The evaluator is told which systems of which account to evaluate. Systems are collected by account,
the accounts in ascending order and the systems of one in the order in which they came, and cut into
messages of a limited size.
-/

namespace FleetRoster

open Calendar (Instant)
open Json (Decoder Record Value)

/-- A system addressed by its account. -/
structure Target where
  inventoryId : String
  account : Int
  deriving DecidableEq, Repr, Inhabited

/-- A stored upload that waits for evaluation. -/
structure Item where
  inventoryId : String
  account : Int
  org : String
  requestId : String
  deriving DecidableEq, Repr, Inhabited

/-- A message to the evaluator. -/
structure Evaluation where
  timestamp : Instant
  account : Int
  org : Option String
  systems : List String
  requests : List String
  deriving DecidableEq, Repr, Inhabited

/-- A number put into an ascending list, unless it is there. -/
def insertAscending (n : Int) : List Int → List Int
  | [] => [n]
  | m :: rest =>
    if n < m then n :: m :: rest
    else if n = m then m :: rest
    else m :: insertAscending n rest

/-- The distinct numbers of a list in ascending order. -/
def ascending (ns : List Int) : List Int :=
  ns.foldl (fun sorted n => insertAscending n sorted) []

/-- A list cut into pieces of one size, of which the last may be smaller; a size of zero counts as
one. -/
def pieces {α : Type} (size : Nat) : List α → List (List α)
  | [] => []
  | a :: rest => (a :: rest.take (size - 1)) :: pieces size (rest.drop (size - 1))
termination_by as => as.length
decreasing_by simp only [List.length_drop, List.length_cons]; omega

namespace Evaluation

/-- The messages for stored uploads. A message names the first organization that any upload of its
account names, and the requests in the order of the systems. -/
def ofItems (items : List Item) (batchSize : Nat) (now : Instant) : List Evaluation :=
  (ascending (items.map (·.account))).flatMap fun account =>
    let group := items.filter (·.account == account)
    let org := (group.find? fun item => !item.org.isEmpty).map (·.org)
    (pieces batchSize group).map fun piece =>
      ⟨now, account, org, piece.map (·.inventoryId), piece.map (·.requestId)⟩

/-- The messages for systems that are evaluated on request. They name neither an organization nor
requests. -/
def ofTargets (targets : List Target) (batchSize : Nat) (now : Instant) : List Evaluation :=
  (ascending (targets.map (·.account))).flatMap fun account =>
    (pieces batchSize (targets.filter (·.account == account))).map fun piece =>
      ⟨now, account, none, piece.map (·.inventoryId), []⟩

/-- The fields of a message. -/
def record : Record Evaluation where
  name := "PlatformEvent"
  blank := ⟨default, 0, none, [], []⟩
  fields := [
    .of "timestamp" .refused Decoder.timestamp fun x m => { m with timestamp := x },
    .of "account_id" .refused Decoder.int32 fun x m => { m with account := x },
    .of "org_id" .allowed Decoder.text.optional fun x m => { m with org := x },
    .of "system_ids" .allowed (Decoder.list Decoder.text) fun x m => { m with systems := x },
    .of "request_ids" .allowed (Decoder.list Decoder.text) fun x m => { m with requests := x }]

/-- A message. -/
def decode : Decoder Evaluation :=
  record.decode

/-- The object of a message, without an organization or requests where there are none. -/
def toValue (m : Evaluation) : Value :=
  .object <|
    [("timestamp", .timestamp m.timestamp), ("account_id", .int m.account)]
      ++ (m.org.toList.map fun org => ("org_id", .string org))
      ++ [("system_ids", .texts m.systems)]
      ++ (if m.requests.isEmpty then [] else [("request_ids", .texts m.requests)])

end Evaluation

end FleetRoster
