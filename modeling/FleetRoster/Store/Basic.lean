import FleetRoster.Outbound.Evaluation
import FleetRoster.Store.Record

/-!
# The store

The rows that the listener owns. An organization has one account, an account one row for an
inventory id, and an inventory id one marker. Accounts and systems are numbered from one on in the
order in which they were first written, which is also the order of the lists; neither is ever
removed. The tables in memory keep the same rows under keys of their own and in no order; these are
in `FleetRoster.Store.Tables`.
-/

namespace FleetRoster

open Calendar (Instant)

/-- The rows of the store. -/
structure Store where
  accounts : List Account := []
  /-- The number of the last account. -/
  lastAccount : Nat := 0
  systems : List SystemRow := []
  /-- The number of the last system. -/
  lastSystem : Nat := 0
  markers : List Marker := []
  deriving DecidableEq, Repr, Inhabited

namespace Store

/-! ## Accounts -/

/-- The account of an organization. -/
def account? (s : Store) (org : String) : Option Account :=
  s.accounts.find? fun a => a.org == org

/-- The id of an organization's account, which is made if there is none. -/
def upsertAccount (s : Store) (org : String) : Store × Int :=
  match s.account? org with
  | some a => (s, a.id)
  | none =>
    let id := s.lastAccount + 1
    ({ s with accounts := s.accounts ++ [⟨id, org⟩], lastAccount := id }, id)

/-! ## Systems -/

/-- The row of an inventory id in an account. -/
def system? (s : Store) (account : Int) (inventoryId : String) : Option SystemRow :=
  s.systems.find? fun r => r.hasKey account inventoryId

/-- Writes an upload into the row of its host, which is made if there is none. -/
def upsertSystem (s : Store) (u : Upload) : Store × SystemRow :=
  match s.system? u.account u.inventoryId with
  | some r =>
    let written := r.take u
    let systems := s.systems.map fun x =>
      if x.hasKey u.account u.inventoryId then written else x
    ({ s with systems }, written)
  | none =>
    let id := s.lastSystem + 1
    let blank : SystemRow := { (default : SystemRow) with
      id, account := u.account, inventoryId := u.inventoryId }
    let written := blank.take u
    ({ s with systems := s.systems ++ [written], lastSystem := id }, written)

/-- Marks every row of an inventory id stale and says how many there are. -/
def markStale (s : Store) (inventoryId : String) (time : Instant) : Store × Nat :=
  let systems := s.systems.map fun r =>
    if r.inventoryId == inventoryId then
      { r with stale := true, staleAt := some time, culledAt := some time }
    else r
  ({ s with systems }, s.systems.countP fun r => r.inventoryId == inventoryId)

/-- Puts a row on a baseline, or on none, and says whether there is such a row. -/
def setBaseline (s : Store) (account : Int) (inventoryId : String) (baseline : Option Int) :
    Store × Bool :=
  match s.system? account inventoryId with
  | none => (s, false)
  | some _ =>
    let systems := s.systems.map fun r =>
      if r.hasKey account inventoryId then { r with baseline } else r
    ({ s with systems }, true)

/-- The systems of an account that are not stale and on one baseline, or on none, in the order of
their ids. -/
def systemsForBaseline (s : Store) (account : Int) (baseline : Option Int) : List Target :=
  let rows := s.systems.filter (·.isActiveOn account baseline)
  (sortByNumber (·.id) rows).map fun r => ⟨r.inventoryId, r.account⟩

/-! ## Markers -/

/-- The marker of an inventory id. -/
def marker? (s : Store) (inventoryId : String) : Option Marker :=
  s.markers.find? fun m => m.inventoryId == inventoryId

/-- Sets the marker of an inventory id. -/
def upsertMarker (s : Store) (inventoryId : String) (time : Instant) : Store :=
  match s.marker? inventoryId with
  | none => { s with markers := s.markers ++ [⟨inventoryId, time⟩] }
  | some _ =>
    let markers := s.markers.map fun m =>
      if m.inventoryId == inventoryId then ⟨inventoryId, time⟩ else m
    { s with markers }

/-- Removes the markers from before an instant and says how many there were. -/
def pruneMarkers (s : Store) (time : Instant) : Store × Nat :=
  ({ s with markers := s.markers.filter fun m => !m.deletedAt.before time },
    s.markers.countP fun m => m.deletedAt.before time)

end Store

end FleetRoster
