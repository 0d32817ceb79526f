import FleetRoster.Proofs.Handler.Traces
import FleetRoster.Proofs.Roster.Deletion

/-!
# Markers over a history

The deletion markers of the store while messages are handled, and the guard of uploads that looks at
them. As long as its host is not deleted again, a marker only gets older: it stays as it is or is
cleared away. If it is recent in the end, it was recent all the time, so the guard has let no upload
of the host pass. Where the host is deleted again, the marker is of one of these deletions, and
within the threshold of any of them the guard lets no upload of the host pass either.
-/

namespace FleetRoster

open Calendar (Instant IsSteady)

variable {threshold : Nat} {inventoryId : String}

/-- The marker of a host is from before an entry, which did not delete the host, or was set in it.
-/
theorem Entry.Follows.marker?_or {e : Entry Job Outcome} {m : Marker}
    (follows : e.Follows threshold) (sound : e.before.store.IsSound)
    (found : e.after.store.marker? inventoryId = some m) :
    (e.before.store.marker? inventoryId = some m ∧ ¬ e.Deletes inventoryId) ∨
      e.event.deletion? = some inventoryId ∧ m.deletedAt ∈ e.readings := by
  unfold Follows at follows
  generalize read : e.readings = readings at follows
  generalize ended : e.ending = ending at follows
  generalize e.items = items at follows
  change e.after.books.store.marker? inventoryId = some m at found
  generalize e.after.books = after at follows found
  have notDeleted : (∀ rows, ending ≠ .done (.deleted rows)) → ¬ e.Deletes inventoryId := by
    rintro other ⟨_, rows, deleted⟩
    exact other rows (ended.symm.trans deleted)
  have kept : ∀ {b : Books}, b.store.markers = e.before.store.markers →
      b.store.marker? inventoryId = some m → e.before.store.marker? inventoryId = some m := by
    intro b same found
    rwa [Store.marker?_congr same] at found
  -- the marker that is set is that of the deletion's host, and no other is touched
  have marked : ∀ deleted time, e.event.deletion? = some deleted →
      (e.before.store.upsertMarker deleted time).marker? inventoryId = some m →
      (e.before.store.marker? inventoryId = some m ∧ ¬ e.Deletes inventoryId) ∨
        e.event.deletion? = some inventoryId ∧ m.deletedAt ∈ [time] := by
    intro deleted time reported found
    rcases Store.marker?_upsertMarker_or found with ⟨was, other⟩ | ⟨rfl, rfl⟩
    · refine .inl ⟨was, ?_⟩
      rintro ⟨alsoReported, _⟩
      cases reported.symm.trans alsoReported
      exact other rfl
    · exact .inr ⟨reported, List.mem_singleton_self _⟩
  cases follows with
  | idle _ idle =>
      refine .inl ⟨found, notDeleted ?_⟩
      rintro rows rfl
      exact idle
  | ignored _ _ _ => exact .inl ⟨found, notDeleted (by rintro rows ⟨⟩)⟩
  | resolved _ _ _ resolves =>
      exact .inl ⟨kept resolves.markers found, notDeleted (by rintro rows ⟨⟩)⟩
  | filed _ _ resolves =>
      refine .inl ⟨kept ?_ found, notDeleted (by rintro rows ⟨⟩)⟩
      rw [Books.writing, Store.upsertSystem_markers]
      exact resolves.markers
  | marked _ reported => exact marked _ _ reported found
  | @deleted deleted time limit _ _ reported _ cleared =>
      rcases cleared with rfl | rfl
      · exact marked _ _ reported found
      · have soundStill := (sound.upsertMarker deleted time).markStale deleted time
        have looked := (Store.marker?_pruneMarkers soundStill.markerIds).symm.trans found
        exact marked _ _ reported (Option.filter_eq_some_iff.mp looked).1
  | crashed reported _ => exact marked _ _ reported found

/-- An upload that was evaluated had passed the guard, at its first reading of the clock if there
was a marker. -/
theorem Entry.Follows.guard_of_writes {e : Entry Job Outcome} {account : Int}
    (follows : e.Follows threshold) (writes : e.Writes account inventoryId) :
    ∃ guarded time, e.readings = guarded ++ [time] ∧
      e.before.books.Guard threshold inventoryId guarded (.done none) := by
  obtain ⟨r, ⟨reported, evaluated⟩, rfl⟩ := writes
  unfold Follows at follows
  rw [evaluated] at follows
  generalize read : e.readings = readings at follows
  generalize e.items = items at follows
  generalize e.after.books = after at follows
  cases follows with
  | idle _ idle => exact idle.elim
  | filed alsoReported guard _ =>
      cases reported.symm.trans alsoReported
      exact ⟨_, _, rfl, guard⟩

namespace Handled

variable {start w : World} {history : List (Entry Job Outcome)}

/-- The marker of a host is from the start, and the host was not deleted since, or a deletion has
set it. -/
theorem marker?_or (handled : Handled (Job.handler threshold) World.Aside start history w)
    (sound : start.store.IsSound) {m : Marker} (found : w.store.marker? inventoryId = some m) :
    (start.store.marker? inventoryId = some m ∧ ∀ e ∈ history, ¬ e.Deletes inventoryId) ∨
      ∃ e ∈ history, e.event.deletion? = some inventoryId ∧ m.deletedAt ∈ e.readings := by
  induction handled with
  | start => exact .inl ⟨found, by simp⟩
  | aside before others ih =>
      have same := congrArg (fun b => b.store.marker? inventoryId) others.books
      exact ih (same.symm.trans found)
  | @event history e before takes ih =>
      have follows := Entry.follows_of_takes takes
      rcases follows.marker?_or (before.isSound_store sound) found with
        ⟨was, kept⟩ | ⟨deletion, read⟩
      · rcases ih was with ⟨first, others⟩ | ⟨d, mem, left⟩
        · refine .inl ⟨first, ?_⟩
          rw [List.forall_mem_append, List.forall_mem_singleton]
          exact ⟨others, kept⟩
        · exact .inr ⟨d, List.mem_append_left _ mem, left⟩
      · exact .inr ⟨e, by simp, deletion, read⟩

/-- By a clock that does not go back, markers are from instants that there can be. -/
theorem isGenuine (handled : Handled (Job.handler threshold) World.Aside start history w)
    (steady : IsSteady start.clock)
    (genuine : ∀ m ∈ start.store.markers, m.deletedAt.IsGenuine) :
    ∀ m ∈ w.store.markers, m.deletedAt.IsGenuine :=
  handled.invariant (fun w => ∀ m ∈ w.books.store.markers, m.deletedAt.IsGenuine) genuine
    (fun aside genuine => aside.books ▸ genuine)
    (fun takes mem genuine m left => by
      rcases (Entry.follows_of_takes takes).mem_markers left with old | ⟨_, read⟩
      · exact genuine m old
      · obtain ⟨n, shown⟩ := handled.read_mem mem read
        exact shown ▸ (steady.ordinary n).isGenuine)

/-- Where the marker of a host is recent in the end and the host was not deleted, it was recent all
the time: no upload of the host was evaluated. -/
theorem unwritten_of_recent (handled : Handled (Job.handler threshold) World.Aside start history w)
    (steady : IsSteady start.clock) (sound : start.store.IsSound)
    (genuine : ∀ m ∈ start.store.markers, m.deletedAt.IsGenuine)
    (undeleted : ∀ e ∈ history, e.event.deletion? ≠ some inventoryId) {m : Marker}
    (found : w.store.marker? inventoryId = some m) {n : Nat} (le : w.readings ≤ n)
    (recent : m.isRecent (start.clock n) threshold = true) (account : Int) :
    ∀ e ∈ history, ¬ e.Writes account inventoryId := by
  intro e mem writes
  obtain ⟨earlier, later, rfl⟩ := List.append_of_mem mem
  obtain ⟨before, takes, after⟩ := handled.cut
  have follows := Entry.follows_of_takes takes
  have soundBefore := before.isSound_store sound
  have foundAfter : e.after.store.marker? inventoryId = some m := by
    rcases after.marker?_or (follows.isSound_store soundBefore) found with
      ⟨was, _⟩ | ⟨d, mem, deletion, _⟩
    · exact was
    · exact absurd deletion (undeleted d (by simp [mem]))
  have foundBefore : e.before.store.marker? inventoryId = some m := by
    rcases follows.marker?_or soundBefore foundAfter with ⟨was, _⟩ | ⟨deletion, _⟩
    · exact was
    · exact absurd deletion (undeleted e (by simp))
  obtain ⟨guarded, time, read, guard⟩ := follows.guard_of_writes writes
  obtain ⟨shown, mem, old⟩ := guard.past_of_done foundBefore
  have readShown : shown ∈ e.readings := by
    rw [read]
    exact List.mem_append_left _ mem
  obtain ⟨k, _, lt, rfl⟩ := before.read takes readShown
  have earlierThan : k ≤ n :=
    Nat.le_of_lt (Nat.lt_of_lt_of_le lt (Nat.le_trans after.ticks.readings le))
  have oldStill := Marker.isRecent_of_le
    (before.isGenuine steady genuine m (Store.mem_of_marker? foundBefore))
    (steady.ordinary k) (steady.ordinary n) (steady.nanos_le earlierThan) old
  rw [recent] at oldStill
  contradiction

/-- Where an entry comes within the threshold of a deletion that holds, by its first reading of the
clock, no upload of the host was evaluated up to then, and neither is this one. -/
theorem unwritten_of_holds {between later : List (Entry Job Outcome)} {e : Entry Job Outcome}
    {deleted time : Instant}
    (handled : Handled (Job.handler threshold) World.Aside start (between ++ e :: later) w)
    (steady : IsSteady start.clock) (held : start.books.Holds inventoryId deleted)
    (past : ∀ n, start.readings ≤ n → deleted.nanos ≤ (start.clock n).nanos)
    (first : e.readings.head? = some time) (soon : time.nanos < deleted.nanos + threshold)
    (account : Int) :
    (∀ x ∈ between, ¬ x.Writes account inventoryId) ∧ ¬ e.Writes account inventoryId := by
  obtain ⟨before, takes, _⟩ := handled.cut
  obtain ⟨n, ge, _, rfl⟩ := before.read takes (List.mem_of_head? first)
  have within : ∀ x ∈ between, ∀ u ∈ x.readings, u.nanos < deleted.nanos + threshold := by
    intro x mem u read
    obtain ⟨k, _, lt, rfl⟩ := before.shows mem read
    exact Int.lt_of_le_of_lt (steady.nanos_le (Nat.le_of_lt (Nat.lt_of_lt_of_le lt ge))) soon
  obtain ⟨holds, quiet⟩ := before.holds steady held past within
  constructor
  · exact fun x mem => (before.follows mem).not_writes (quiet x mem) account
  · intro writes
    obtain ⟨guarded, last, read, guard⟩ :=
      (Entry.follows_of_takes takes).guard_of_writes writes
    -- the guard reads the clock at most once, and before anything else does
    have guarding : ∀ u ∈ guarded, u = start.clock n := by
      cases guard with
      | unmarked _ => simp
      | past _ _ =>
          rw [read] at first
          simpa using first
    apply holds.guard _ _ guard
    · intro u mem
      rw [guarding u mem]
      exact steady.ordinary n
    · intro u mem
      rw [guarding u mem]
      exact soon

end Handled

end FleetRoster
