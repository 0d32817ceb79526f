import FleetRoster.Proofs.Calendar.Nanos
import FleetRoster.Proofs.Store.Sound

/-!
# Markers and their age

Of two markers of a host the later one stands, and a marker is cleared away exactly when it is from
before the limit. Seen by a clock that does not go back, a marker that is no longer recent does not
become so again, nor does one that was cleared away.
-/

namespace FleetRoster

open Calendar (Instant nanosPerSecond secondsPerDay)

namespace Calendar.Instant

/-- An instant that there can be: leap seconds come at the end of a day. -/
def IsGenuine (a : Instant) : Prop :=
  a.nano < nanosPerSecond ∨ a.timeOfDay = secondsPerDay - 1

variable {a b : Instant}

theorem IsOrdinary.isGenuine (ordinary : a.IsOrdinary) : a.IsGenuine :=
  .inl ordinary

/-- The age of a genuine instant is the difference in nanoseconds, also where it is in a leap
second: no second of the day lies after that one. -/
theorem since_of_isGenuine (ordinary : a.IsOrdinary) (genuine : b.IsGenuine) :
    a.since b = a.nanos - b.nanos := by
  rcases genuine with ordinaryB | last
  · exact since_eq ordinary ordinaryB
  · have noLeap : ¬ nanosPerSecond ≤ a.nano := Nat.not_le.mpr ordinary
    have notAfter : ¬ b.timeOfDay < a.timeOfDay := by
      rw [last, timeOfDay]
      simp only [secondsPerDay]
      omega
    simp only [since, noLeap, notAfter, decide_false, Bool.and_false, Bool.false_and,
      Bool.false_eq_true, if_false]
    simp only [nanos, nanosPerSecond]
    omega

end Calendar.Instant

/-- A marker that is no longer recent stays so. -/
theorem Marker.isRecent_of_le {m : Marker} {time later : Instant} {threshold : Int}
    (genuine : m.deletedAt.IsGenuine) (ordinary : time.IsOrdinary)
    (ordinaryLater : later.IsOrdinary)
    (le : time.nanos ≤ later.nanos) (old : m.isRecent time threshold = false) :
    m.isRecent later threshold = false := by
  rw [isRecent, decide_eq_false_iff_not, Instant.since_of_isGenuine ordinary genuine] at old
  rw [isRecent, decide_eq_false_iff_not, Instant.since_of_isGenuine ordinaryLater genuine]
  omega

/-- A marker from before the threshold is not recent, nor is it later. -/
theorem Marker.isRecent_of_before {m : Marker} {time limit later : Instant} {threshold : Nat}
    (ordinaryMarker : m.deletedAt.IsOrdinary) (ordinary : time.IsOrdinary)
    (ordinaryLater : later.IsOrdinary) (back : time.earlier? threshold = some limit)
    (le : time.nanos ≤ later.nanos) (before : m.deletedAt.before limit = true) :
    m.isRecent later threshold = false := by
  obtain ⟨ordinaryLimit, limitAt⟩ := Instant.nanos_of_earlier? ordinary back
  rw [Instant.before_iff ordinaryMarker ordinaryLimit] at before
  rw [isRecent, decide_eq_false_iff_not, Instant.since_eq ordinaryLater ordinaryMarker]
  omega

namespace Store

variable {s : Store} {inventoryId : String} {time : Instant}

/-- The marker that is set last stands. -/
theorem upsertMarker_upsertMarker (s : Store) (inventoryId : String) (time later : Instant) :
    (s.upsertMarker inventoryId time).upsertMarker inventoryId later =
      s.upsertMarker inventoryId later := by
  have found : (s.upsertMarker inventoryId time).marker? inventoryId =
      some ⟨inventoryId, time⟩ := by
    rw [marker?_upsertMarker, if_pos rfl]
  rw [upsertMarker, found]
  unfold upsertMarker
  cases looked : s.marker? inventoryId with
  | none =>
      have others : ∀ m ∈ s.markers, m.inventoryId ≠ inventoryId := by
        simpa [marker?] using looked
      have unchanged : s.markers.map (fun m =>
          if m.inventoryId = inventoryId then (⟨inventoryId, later⟩ : Marker) else m) =
            s.markers := by
        refine (List.map_congr_left fun m mem => ?_).trans s.markers.map_id
        rw [if_neg (others m mem), id]
      simpa using unchanged
  | some m =>
      simp only [List.map_map]
      congr 1
      apply List.map_congr_left
      intro x _
      by_cases same : x.inventoryId = inventoryId <;> simp [same]

/-- A marker that is there after one was set is an older one of another host, or the one that was
set. -/
theorem marker?_upsertMarker_or {deleted : String} {m : Marker}
    (found : (s.upsertMarker deleted time).marker? inventoryId = some m) :
    (s.marker? inventoryId = some m ∧ inventoryId ≠ deleted) ∨
      inventoryId = deleted ∧ m.deletedAt = time := by
  rw [marker?_upsertMarker] at found
  by_cases same : inventoryId = deleted
  · rw [if_pos same] at found
    cases found
    exact .inr ⟨same, rfl⟩
  · rw [if_neg same] at found
    exact .inl ⟨found, same⟩

/-- Where each host has one marker, a marker is found after clearing away exactly if it was found
before and is not from before the limit. -/
theorem marker?_pruneMarkers (ids : (s.markers.map (·.inventoryId)).Nodup) :
    (s.pruneMarkers time).1.marker? inventoryId =
      (s.marker? inventoryId).filter fun m => !m.deletedAt.before time := by
  cases looked : s.marker? inventoryId with
  | none =>
      have others : ∀ m ∈ s.markers, m.inventoryId ≠ inventoryId := by
        simpa [marker?] using looked
      rw [Option.filter_none, marker?, List.find?_eq_none]
      intro m mem
      simpa using others m (mem_pruneMarkers mem)
  | some m =>
      cases before : m.deletedAt.before time with
      | false =>
          rw [Option.filter_some, before]
          exact marker?_pruneMarkers_of_some looked before
      | true =>
          rw [Option.filter_some, before]
          change _ = none
          rw [marker?, List.find?_eq_none]
          intro x mem
          obtain ⟨xMem, late⟩ := List.mem_filter.mp mem
          intro key
          have same : x = m := List.inj_on_of_nodup_map ids xMem (mem_of_marker? looked) (by
            rw [inventoryId_of_marker? looked]
            simpa using key)
          rw [same, before] at late
          contradiction

end Store

end FleetRoster
