import FleetRoster.Proofs.Handler.Setbacks
import FleetRoster.Proofs.Roster.Rows

/-!
# Unfinished deletions

A deletion sets its marker before it marks the rows, and the two calls of the store are not tied
together. A deletion that fails before it has set its marker leaves no trace. One that fails
afterwards leaves its marker and nothing else, and until the threshold has passed uploads of a host
that is still active are ignored.
-/

namespace FleetRoster

open Calendar (Instant)

/-- What is left of a deletion that has failed. -/
structure Unfinished (e : Entry HostEvent Outcome) (why : Fault) : Prop where
  systems : e.after.store.systems = e.before.store.systems
  accounts : e.after.store.accounts = e.before.store.accounts
  /-- The remembered accounts are as they were. -/
  remembered : e.after.accounts = e.before.accounts
  /-- So are the counts, the buffer and the topics. -/
  inside : e.before.Inside e.after
  /-- Unless the store refused to mark the rows, it is as it was. -/
  unmarked : (∀ inventoryId time, why ≠ (Store.Call.markStale inventoryId time).refusal) →
    e.after.store = e.before.store
  /-- Where it refused that, the marker of the host has the reading of the deletion. -/
  marked {inventoryId : String} {time : Instant} :
    why = (Store.Call.markStale inventoryId time).refusal →
    ∃ deleted shown, e.event.inventoryId = some deleted ∧ e.readings = [shown] ∧
      e.after.store = e.before.store.upsertMarker deleted shown

/-- A deletion that has not come to its marker leaves no trace. -/
theorem Unfinished.untouched {e : Entry HostEvent Outcome} {why : Fault}
    (inside : e.before.Inside e.after) (books : e.after.books = e.before.books)
    (other : ∀ inventoryId time, why ≠ (Store.Call.markStale inventoryId time).refusal) :
    Unfinished e why := by
  have store : e.after.store = e.before.store := congrArg Books.store books
  constructor
  case systems => rw [store]
  case accounts => rw [store]
  case remembered => exact congrArg Books.accounts books
  case inside => exact inside
  case unmarked =>
    intro _
    exact store
  case marked =>
    intro inventoryId time refused
    exact absurd refused (other inventoryId time)

/-- Whatever is refused, a deletion that fails leaves at most its marker. -/
theorem failed_deletions_leave_markers {threshold : Nat} {about : Log.Context}
    {e : Entry HostEvent Outcome} {why : Fault}
    (takes : (handleDelete threshold about e.event).Takes World.Elapses e.before e.deeds e.after
      e.ending)
    (failed : e.ending = .failed why) : Unfinished e why := by
  rw [failed] at takes
  have inside := (heedful_handleDelete threshold about e.event).inside takes
  have blind : ∀ {w met : World}, w.Elapses met → met.books = w.books :=
    fun elapses => elapses.aside.books
  cases named : e.event.inventoryId with
  | none =>
      have lost : (handleDelete threshold about e.event).Leads Books.Acts e.before.books
          fun _ b ending => ending = .failed (.host "delete event without id") ∧
            b = e.before.books := by
        unfold handleDelete
        rw [named]
        exact ⟨rfl, rfl⟩
      obtain ⟨same, books⟩ := lost.inBooks blind takes
      cases same
      exact .untouched inside books fun _ _ refused => nomatch refused
  | some inventoryId =>
      have setback : e.before.books.Undeleted inventoryId e.readings why e.after.books :=
        (leads_failedDelete threshold about named).inBooks blind takes
      generalize books : e.after.books = after at setback
      generalize read : e.readings = readings at setback
      cases setback with
      | unmarked time =>
          apply Unfinished.untouched inside books
          intro deleted shown
          change Fault.store ("upsert_deleted" ++ ": connection refused") ≠
            Fault.store ("mark_stale" ++ ": connection refused")
          decide
      | marked time =>
          have store : e.after.store = e.before.store.upsertMarker inventoryId time :=
            congrArg Books.store books
          constructor
          case systems => rw [store, Store.upsertMarker_systems]
          case accounts => rw [store, Store.upsertMarker_accounts]
          case remembered => exact congrArg Books.accounts books
          case inside => exact inside
          case unmarked =>
            intro other
            exact absurd rfl (other inventoryId time)
          case marked =>
            intro _ _ _
            exact ⟨inventoryId, time, named, read, store⟩

namespace Sample

/-- The notice that a host was deleted. -/
def notice : HostEvent where
  id := some "h"

/-- The host is uploaded in a world whose store will refuse the second call after that. -/
def filed : Entry Job Outcome :=
  .ofRun (Job.handler threshold) upload { world with outage := fun n => n == 4 }

/-- Then it is deleted, and the store refuses to mark its rows. -/
def unfinished : Entry HostEvent Outcome :=
  .ofRun (handleDelete threshold ⟨"delete", none⟩) notice filed.after

/-- Then it is uploaded again. -/
def turnedAway : Entry Job Outcome :=
  .ofRun (Job.handler threshold) upload unfinished.after

end Sample

/-- A deletion can fail and have an effect: its marker is left behind, the row is not stale, and the
next upload of the host is ignored. -/
theorem failed_deletion_has_effect :
    Sample.unfinished.ending = .failed (.store "mark_stale: connection refused") ∧
      Sample.unfinished.before.store.markers = [] ∧
      Sample.unfinished.after.store.markers = [⟨"h", ⟨1, 0⟩⟩] ∧
      Sample.unfinished.after.store.systems.map (·.stale) = [false] ∧
      Sample.turnedAway.ending = .done .recentlyDeleted :=
  ⟨rfl, rfl, rfl, rfl, rfl⟩

theorem failed_deletion_sample :
    Sample.unfinished.ending = .failed (.store "mark_stale: connection refused") ∧
      Unfinished Sample.unfinished (.store "mark_stale: connection refused") :=
  ⟨rfl, failed_deletions_leave_markers (Flow.takes_runIn World.elapses_after _ _) rfl⟩

end FleetRoster
