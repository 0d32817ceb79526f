import FleetRoster.Fault
import FleetRoster.Store.Basic

/-!
# Calls of the store

What a client may ask of the store, each call with the type of its answer. A call is answered whole
or refused whole; while the store is out, every call is refused.
-/

namespace FleetRoster.Store

open Calendar (Instant)

/-- A call of the store. -/
inductive Call
  | upsertAccount (org : String)
  | upsertSystem (upload : Upload)
  | getDeleted (inventoryId : String)
  | upsertDeleted (inventoryId : String) (time : Instant)
  | markStale (inventoryId : String) (time : Instant)
  | pruneDeleted (time : Instant)
  | systemsForBaseline (account : Int) (baseline : Option Int)
  deriving DecidableEq, Repr

namespace Call

/-- The name under which a refused call is reported. -/
def name : Call → String
  | upsertAccount _ => "upsert_account"
  | upsertSystem _ => "upsert_system"
  | getDeleted _ => "get_deleted"
  | upsertDeleted _ _ => "upsert_deleted"
  | markStale _ _ => "mark_stale"
  | pruneDeleted _ => "prune_deleted"
  | systemsForBaseline _ _ => "systems_for_baseline"

/-- The type of a call's answer. -/
def Answer : Call → Type
  | upsertAccount _ => Int
  | upsertSystem _ => SystemRow
  | getDeleted _ => Option Marker
  | upsertDeleted _ _ => Unit
  | markStale _ _ => Nat
  | pruneDeleted _ => Nat
  | systemsForBaseline _ _ => List Target

/-- The fault of a refused call. -/
def refusal (c : Call) : Fault :=
  .store (c.name ++ ": connection refused")

end Call

/-- Answers a call. -/
def answer (s : Store) : (c : Call) → Store × c.Answer
  | .upsertAccount org => s.upsertAccount org
  | .upsertSystem upload => s.upsertSystem upload
  | .getDeleted inventoryId => (s, s.marker? inventoryId)
  | .upsertDeleted inventoryId time => (s.upsertMarker inventoryId time, ())
  | .markStale inventoryId time => s.markStale inventoryId time
  | .pruneDeleted time => s.pruneMarkers time
  | .systemsForBaseline account baseline => (s, s.systemsForBaseline account baseline)

end FleetRoster.Store
