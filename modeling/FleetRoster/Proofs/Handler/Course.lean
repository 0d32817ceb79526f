import FleetRoster.Handler.Dispatch
import FleetRoster.Proofs.Handler.Books

/-!
# The course of an event

What a handler makes of an event, told in the books: what it did to them, which readings of the clock
it took, which uploads it queued and how it ended. A handler can be refused by the store at every
call, so a course may break off early; an upload is queued only after its row was written, and then
nothing can go wrong any more.
-/

namespace FleetRoster

open Calendar (Instant)
open Json (Value)

/-! ## What an event is about -/

/-- An event for the handlers. -/
structure Job where
  about : Log.Context
  kind : EventKind
  message : Value

/-- What an upload reports. -/
structure Report where
  host : Host
  inventoryId : String
  org : String
  requestId : Option String

/-- The report of an upload event, if it names a host, its id and its organization. -/
def HostEvent.report? (e : HostEvent) : Option Report :=
  match e.host, e.inventoryId with
  | some host, some inventoryId =>
    match e.organization host with
    | .ok org => some ⟨host, inventoryId, org, e.requestId⟩
    | .error _ => none
  | _, _ => none

/-- The report of a message, if it is an upload. -/
def EventKind.report? (kind : EventKind) (message : Value) : Option Report :=
  match kind.lane with
  | .upload => (HostEvent.ofMessage message).toOption.bind (·.report?)
  | _ => none

/-- The inventory id of a message, if it is a deletion. -/
def EventKind.deletion? (kind : EventKind) (message : Value) : Option String :=
  match kind.lane with
  | .delete => (HostEvent.ofMessage message).toOption.bind (·.inventoryId)
  | _ => none

/-- The report of an event, if it is an upload. -/
def Job.report? (job : Job) : Option Report :=
  job.kind.report? job.message

/-- The inventory id of an event, if it is a deletion. -/
def Job.deletion? (job : Job) : Option String :=
  job.kind.deletion? job.message

namespace Report

/-- What a report writes into the row of its host. -/
def upload (r : Report) (account : Int) (time : Instant) : Upload where
  account := account
  inventoryId := r.inventoryId
  displayName := r.host.displayNameOr r.inventoryId
  checksum := some r.host.profile.checksum
  staleAt := r.host.staleAt
  staleWarningAt := r.host.staleWarningAt
  culledAt := r.host.culledAt
  lastUpload := time

/-- What a report queues for evaluation. -/
def item (r : Report) (account : Int) : Item :=
  ⟨r.inventoryId, account, r.org, r.requestId.getD ""⟩

end Report

/-! ## What a handler does besides -/

/-- The reading of the clock that was taken. -/
def Deed.reading? : Deed → Option Instant
  | ⟨.now, time⟩ => some time
  | _ => none

/-- The upload that was queued. -/
def Deed.item? : Deed → Option Item
  | ⟨.buffer item _, _⟩ => some item
  | _ => none

/-- The readings of the clock that were taken, the first one first. -/
def readingsOf (deeds : List Deed) : List Instant :=
  deeds.filterMap Deed.reading?

/-- The uploads that were queued, the first one first. -/
def itemsOf (deeds : List Deed) : List Item :=
  deeds.filterMap Deed.item?

@[simp]
theorem readingsOf_append (deeds more : List Deed) :
    readingsOf (deeds ++ more) = readingsOf deeds ++ readingsOf more :=
  List.filterMap_append

@[simp]
theorem itemsOf_append (deeds more : List Deed) :
    itemsOf (deeds ++ more) = itemsOf deeds ++ itemsOf more :=
  List.filterMap_append

/-! ## Courses -/

namespace Books

/-- The account of an organization is remembered, or it is looked up and then remembered. -/
inductive Resolves (b : Books) (org : String) : Int → Books → Prop
  | known {account : Int} (found : b.known org = some account) : b.Resolves org account b
  | made (unknown : b.known org = none) :
      b.Resolves org (b.store.upsertAccount org).2
        ({ b with store := (b.store.upsertAccount org).1 }.remembering org
          (b.store.upsertAccount org).2)

/-- The books with a row written. -/
def writing (b : Books) (u : Upload) : Books :=
  { b with store := (b.store.upsertSystem u).1 }

/-- The books with a marker set. -/
def marking (b : Books) (inventoryId : String) (time : Instant) : Books :=
  { b with store := b.store.upsertMarker inventoryId time }

/-- The books with the rows of a host marked stale. -/
def staling (b : Books) (inventoryId : String) (time : Instant) : Books :=
  { b with store := (b.store.markStale inventoryId time).1 }

/-- The books with the markers from before an instant cleared away. -/
def pruning (b : Books) (limit : Instant) : Books :=
  { b with store := (b.store.pruneMarkers limit).1 }

/-- What the guard of an upload makes of the marker of its host, with the readings it takes. -/
inductive Guard (threshold : Nat) (b : Books) (inventoryId : String) :
    List Instant → Ending (Option Marker) → Prop
  | refused (why : Fault) : Guard threshold b inventoryId [] (.failed why)
  | unmarked (absent : b.store.marker? inventoryId = none) :
      Guard threshold b inventoryId [] (.done none)
  | past {m : Marker} {time : Instant} (found : b.store.marker? inventoryId = some m)
      (old : m.isRecent time threshold = false) : Guard threshold b inventoryId [time] (.done none)
  | recent {m : Marker} {time : Instant} (found : b.store.marker? inventoryId = some m)
      (young : m.isRecent time threshold = true) :
      Guard threshold b inventoryId [time] (.done (some m))

end Books

/-- An ending without an effect on the rows: a fault, or an event that was skipped or rejected. -/
def Ending.IsIdle : Ending Outcome → Prop
  | .failed _ => True
  | .done .skipped => True
  | .done (.rejected _) => True
  | _ => False

/-- The courses that an event can take from the books `b`: the readings that were taken, the uploads
that were queued, the ending and the books in the end. -/
inductive Course (threshold : Nat) (job : Job) (b : Books) :
    List Instant → List Item → Ending Outcome → Books → Prop
  /-- Nothing came of the event. -/
  | idle (readings : List Instant) {ending : Ending Outcome} (idle : ending.IsIdle) :
      Course threshold job b readings [] ending b
  /-- The host was deleted not long before. -/
  | ignored {r : Report} {m : Marker} {time : Instant} (reported : job.report? = some r)
      (found : b.store.marker? r.inventoryId = some m) (young : m.isRecent time threshold = true) :
      Course threshold job b [time] [] (.done .recentlyDeleted) b
  /-- The account was resolved, but the row was not written. -/
  | resolved {r : Report} {account : Int} {b' : Books} (readings : List Instant) (why : Fault)
      (reported : job.report? = some r) (resolves : b.Resolves r.org account b') :
      Course threshold job b readings [] (.failed why) b'
  /-- The row was written and the upload queued. -/
  | filed {r : Report} {account : Int} {b' : Books} {guarded : List Instant} {time : Instant}
      (reported : job.report? = some r)
      (guard : b.Guard threshold r.inventoryId guarded (.done none))
      (resolves : b.Resolves r.org account b') :
      Course threshold job b (guarded ++ [time]) [r.item account] (.done (.evaluated account))
        (b'.writing (r.upload account time))
  /-- The marker was set, but no row was marked. -/
  | marked {inventoryId : String} {time : Instant} (why : Fault)
      (reported : job.deletion? = some inventoryId) :
      Course threshold job b [time] [] (.failed why) (b.marking inventoryId time)
  /-- The rows were marked, and old markers cleared away or not. -/
  | deleted {inventoryId : String} {time limit : Instant} {b' : Books} (rows : Nat)
      (reported : job.deletion? = some inventoryId)
      (back : time.earlier? threshold = some limit)
      (cleared : b' = (b.marking inventoryId time).staling inventoryId time ∨
        b' = ((b.marking inventoryId time).staling inventoryId time).pruning limit) :
      Course threshold job b [time] [] (.done (.deleted rows)) b'
  /-- The rows were marked, and the threshold reached back too far. -/
  | crashed {inventoryId : String} {time : Instant} (reported : job.deletion? = some inventoryId)
      (back : time.earlier? threshold = none) :
      Course threshold job b [time] [] .crashed
        ((b.marking inventoryId time).staling inventoryId time)

/-! ## What a course keeps -/

namespace Books

variable {b b' : Books} {org : String} {account : Int}

namespace Resolves

theorem systems (resolves : b.Resolves org account b') : b'.store.systems = b.store.systems := by
  cases resolves with
  | known found => rfl
  | made unknown => exact b.store.upsertAccount_systems org

theorem markers (resolves : b.Resolves org account b') : b'.store.markers = b.store.markers := by
  cases resolves with
  | known found => rfl
  | made unknown => exact b.store.upsertAccount_markers org

theorem lastSystem (resolves : b.Resolves org account b') :
    b'.store.lastSystem = b.store.lastSystem := by
  cases resolves with
  | known found => rfl
  | made unknown => exact b.store.upsertAccount_lastSystem org

/-- An account that is there stays as it is. -/
theorem keepsAccount (resolves : b.Resolves org account b') {other : String} {a : Account}
    (found : b.store.account? other = some a) : b'.store.account? other = some a := by
  cases resolves with
  | known _ => exact found
  | made unknown => exact Store.account?_upsertAccount_of_some found

/-- The account that was resolved is the account of the organization. -/
theorem account? (resolves : b.Resolves org account b') (sound : b.IsSound) :
    b'.store.account? org = some ⟨account, org⟩ := by
  cases resolves with
  | known found => exact sound.known found
  | made unknown => exact b.store.account?_upsertAccount org

theorem isSound (resolves : b.Resolves org account b') (sound : b.IsSound) : b'.IsSound := by
  have kept := resolves.account? sound
  cases resolves with
  | known found => exact sound
  | made unknown =>
      constructor
      · exact sound.store.upsertAccount org
      · intro other id found
        rw [known_remembering (b := { b with store := (b.store.upsertAccount org).1 }) unknown]
          at found
        by_cases same : other = org
        · rw [if_pos same] at found
          cases found
          rw [same]
          exact kept
        · rw [if_neg same] at found
          exact Store.account?_upsertAccount_of_some (sound.known found)

end Resolves

theorem IsSound.writing (sound : b.IsSound) (u : Upload) : (b.writing u).IsSound where
  store := sound.store.upsertSystem u
  known found := by
    rw [Books.writing, Store.account?, Store.upsertSystem_accounts]
    exact sound.known found

theorem IsSound.marking (sound : b.IsSound) (inventoryId : String) (time : Instant) :
    (b.marking inventoryId time).IsSound where
  store := sound.store.upsertMarker inventoryId time
  known found := by
    rw [Books.marking, Store.account?, Store.upsertMarker_accounts]
    exact sound.known found

theorem IsSound.staling (sound : b.IsSound) (inventoryId : String) (time : Instant) :
    (b.staling inventoryId time).IsSound where
  store := sound.store.markStale inventoryId time
  known := sound.known

theorem IsSound.pruning (sound : b.IsSound) (limit : Instant) : (b.pruning limit).IsSound where
  store := sound.store.pruneMarkers limit
  known := sound.known

theorem system?_marking (b : Books) (deleted : String) (time : Instant) (account : Int)
    (inventoryId : String) :
    (b.marking deleted time).store.system? account inventoryId =
      b.store.system? account inventoryId :=
  Store.system?_congr (b.store.upsertMarker_systems deleted time)

end Books

namespace Course

variable {threshold : Nat} {job : Job} {b b' : Books} {readings : List Instant}
  {items : List Item} {ending : Ending Outcome}

/-- A course keeps the store sound, whatever accounts are remembered. -/
theorem isSound_store (course : Course threshold job b readings items ending b')
    (sound : b.store.IsSound) : b'.store.IsSound := by
  have resolved : ∀ {org account b'}, b.Resolves org account b' → b'.store.IsSound := by
    rintro org account b' (_ | _)
    · exact sound
    · exact sound.upsertAccount org
  cases course with
  | idle _ _ => exact sound
  | ignored _ _ _ => exact sound
  | resolved _ _ _ resolves => exact resolved resolves
  | filed _ _ resolves => exact (resolved resolves).upsertSystem _
  | marked _ _ => exact sound.upsertMarker _ _
  | deleted _ _ _ cleared =>
      rcases cleared with rfl | rfl
      · exact (sound.upsertMarker _ _).markStale _ _
      · exact ((sound.upsertMarker _ _).markStale _ _).pruneMarkers _
  | crashed _ _ => exact (sound.upsertMarker _ _).markStale _ _

/-- A course keeps the books sound. -/
theorem isSound (course : Course threshold job b readings items ending b') (sound : b.IsSound) :
    b'.IsSound := by
  cases course with
  | idle _ _ => exact sound
  | ignored _ _ _ => exact sound
  | resolved _ _ _ resolves => exact resolves.isSound sound
  | filed _ _ resolves => exact (resolves.isSound sound).writing _
  | marked _ _ => exact sound.marking _ _
  | deleted _ _ _ cleared =>
      rcases cleared with rfl | rfl
      · exact (sound.marking _ _).staling _ _
      · exact ((sound.marking _ _).staling _ _).pruning _
  | crashed _ _ => exact (sound.marking _ _).staling _ _

/-- A course keeps the accounts that are there. -/
theorem keepsAccount (course : Course threshold job b readings items ending b') {org : String}
    {a : Account} (found : b.store.account? org = some a) : b'.store.account? org = some a := by
  have marked : ∀ inventoryId time,
      (b.store.upsertMarker inventoryId time).account? org = some a := by
    intro inventoryId time
    rwa [Store.account?, Store.upsertMarker_accounts]
  cases course with
  | idle _ _ => exact found
  | ignored _ _ _ => exact found
  | resolved _ _ _ resolves => exact resolves.keepsAccount found
  | filed _ _ resolves =>
      rw [Books.writing, Store.account?, Store.upsertSystem_accounts]
      exact resolves.keepsAccount found
  | marked _ _ => exact marked _ _
  | deleted _ _ _ cleared =>
      rcases cleared with rfl | rfl
      · exact marked _ _
      · exact marked _ _
  | crashed _ _ => exact marked _ _

end Course

end FleetRoster
