import FleetRoster.Store.Call

/-!
# Keyed tables

The store in memory keeps each record under a key of its own choice, apart from the fields of the
record, and finds records by these keys. Its tables have no order: what reads all of a table sorts
what it reads.
-/

namespace FleetRoster

open Calendar (Instant)

/-- Records, each under a key. -/
structure Table (κ α : Type) where
  entries : List (κ × α) := []
  deriving DecidableEq, Repr, Inhabited

namespace Table

variable {κ α : Type}

/-- The records without their keys. -/
def rows (t : Table κ α) : List α :=
  t.entries.map (·.2)

/-- Changes the records with some property where they are, and counts them. -/
def amend (p : α → Bool) (change : α → α) : List (κ × α) → List (κ × α) × Nat
  | [] => ([], 0)
  | (key, a) :: rest =>
    let (amended, count) := amend p change rest
    if p a then ((key, change a) :: amended, count + 1) else ((key, a) :: amended, count)

/-- The entries whose records have some property. -/
def retain (t : Table κ α) (p : α → Bool) : Table κ α :=
  ⟨t.entries.filter fun e => p e.2⟩

variable [DecidableEq κ]

/-- The record under a key. -/
def get? (t : Table κ α) (key : κ) : Option α :=
  (t.entries.find? fun e => e.1 = key).map (·.2)

/-- Puts a record under a key, in the place of the one that is there. -/
def put (t : Table κ α) (key : κ) (a : α) : Table κ α :=
  ⟨(key, a) :: t.entries.filter fun e => e.1 ≠ key⟩

end Table

/-- The tables of the store, and the last numbers that were given out. -/
structure Tables where
  /-- The accounts under their organizations. -/
  accounts : Table String Account := {}
  lastAccount : Nat := 0
  /-- The hosts under their accounts and inventory ids. -/
  systems : Table (Int × String) SystemRow := {}
  lastSystem : Nat := 0
  /-- The markers under their inventory ids. -/
  markers : Table String Marker := {}
  deriving DecidableEq, Repr, Inhabited

namespace Tables

/-! ## Writing -/

/-- The id of an organization's account, which is made if there is none. -/
def upsertAccount (t : Tables) (org : String) : Tables × Int :=
  match t.accounts.get? org with
  | some existing => (t, existing.id)
  | none =>
    let id := t.lastAccount + 1
    ({ t with lastAccount := id, accounts := t.accounts.put org ⟨id, org⟩ }, id)

/-- Writes an upload under the key of its host. The row keeps the number and the baseline of the one
that is there. -/
def upsertSystem (t : Tables) (u : Upload) : Tables × SystemRow :=
  let key := (u.account, u.inventoryId)
  let (last, id, baseline) : Nat × Int × Option Int :=
    match t.systems.get? key with
    | some existing => (t.lastSystem, existing.id, existing.baseline)
    | none => (t.lastSystem + 1, ((t.lastSystem + 1 : Nat) : Int), none)
  let written : SystemRow := {
    id, baseline
    account := u.account
    inventoryId := u.inventoryId
    displayName := u.displayName
    checksum := u.checksum
    stale := false
    staleAt := u.staleAt
    staleWarningAt := u.staleWarningAt
    culledAt := u.culledAt
    lastUpload := some u.lastUpload }
  ({ t with lastSystem := last, systems := t.systems.put key written }, written)

/-- Puts the host under a key on a baseline, or on none, and says whether there is one. -/
def setBaseline (t : Tables) (account : Int) (inventoryId : String) (baseline : Option Int) :
    Tables × Bool :=
  match t.systems.get? (account, inventoryId) with
  | some r =>
    ({ t with systems := t.systems.put (account, inventoryId) { r with baseline } }, true)
  | none => (t, false)

/-- Marks every row with an inventory id stale and says how many there are. -/
def markStale (t : Tables) (inventoryId : String) (time : Instant) : Tables × Nat :=
  let (entries, count) := Table.amend (fun r => r.inventoryId == inventoryId)
    (fun r => { r with stale := true, staleAt := some time, culledAt := some time })
    t.systems.entries
  ({ t with systems := ⟨entries⟩ }, count)

/-- Sets the marker under an inventory id. -/
def upsertMarker (t : Tables) (inventoryId : String) (time : Instant) : Tables :=
  { t with markers := t.markers.put inventoryId ⟨inventoryId, time⟩ }

/-- Removes the markers from before an instant and says how many fewer there are. -/
def pruneMarkers (t : Tables) (time : Instant) : Tables × Nat :=
  let kept := t.markers.retain fun m => !m.deletedAt.before time
  ({ t with markers := kept }, t.markers.entries.length - kept.entries.length)

/-! ## Reading -/

/-- The accounts in the order of their ids. -/
def accountList (t : Tables) : List Account :=
  sortByNumber (·.id) t.accounts.rows

/-- The hosts in the order of their ids. -/
def systemList (t : Tables) : List SystemRow :=
  sortByNumber (·.id) t.systems.rows

/-- The systems of an account that are not stale and on one baseline, or on none, in the order of
their ids. -/
def systemsForBaseline (t : Tables) (account : Int) (baseline : Option Int) : List Target :=
  let rows := t.systems.rows.filter (·.isActiveOn account baseline)
  (sortByNumber (·.id) rows).map fun r => ⟨r.inventoryId, r.account⟩

/-! ## Calls -/

/-- Answers a call. -/
def answer (t : Tables) : (c : Store.Call) → Tables × c.Answer
  | .upsertAccount org => t.upsertAccount org
  | .upsertSystem upload => t.upsertSystem upload
  | .getDeleted inventoryId => (t, t.markers.get? inventoryId)
  | .upsertDeleted inventoryId time => (t.upsertMarker inventoryId time, ())
  | .markStale inventoryId time => t.markStale inventoryId time
  | .pruneDeleted time => t.pruneMarkers time
  | .systemsForBaseline account baseline => (t, t.systemsForBaseline account baseline)

/-- A call, which is refused while the store is out. -/
def call (t : Tables) (out : Bool) (c : Store.Call) : Tables × Except Fault c.Answer :=
  if out then (t, .error c.refusal)
  else
    let (answered, answer) := t.answer c
    (answered, .ok answer)

end Tables

end FleetRoster
