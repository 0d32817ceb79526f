import FleetRoster.Store.Call

/-!
# Looking up after a call

What a call of the store makes of the account of an organization, of the row of a host in an account
and of the marker of an inventory id. Each call touches one table, and in it one key or the rows of
one inventory id.
-/

namespace FleetRoster

open Calendar (Instant)

/-- A row after the deletion of its host. -/
def SystemRow.markedStale (r : SystemRow) (time : Instant) : SystemRow :=
  { r with stale := true, staleAt := some time, culledAt := some time }

/-- A row before its first upload. -/
def SystemRow.unwritten (id account : Int) (inventoryId : String) : SystemRow :=
  { (default : SystemRow) with id, account, inventoryId }

theorem SystemRow.hasKey_iff {r : SystemRow} {account : Int} {inventoryId : String} :
    r.hasKey account inventoryId = true ↔
      r.account = account ∧ r.inventoryId = inventoryId := by
  simp [SystemRow.hasKey]

@[simp]
theorem SystemRow.take_hasKey (r : SystemRow) (u : Upload) :
    (r.take u).hasKey = r.hasKey :=
  rfl

namespace Store

variable {s : Store} {org : String} {account : Int} {inventoryId : String}

/-! ## Accounts -/

theorem org_of_account? {a : Account} (found : s.account? org = some a) : a.org = org := by
  simpa using List.find?_some found

theorem mem_of_account? {a : Account} (found : s.account? org = some a) : a ∈ s.accounts :=
  List.mem_of_find?_eq_some found

/-- An account that is there stays as it is. -/
theorem account?_upsertAccount_of_some {other : String} {a : Account}
    (found : s.account? other = some a) :
    (s.upsertAccount org).1.account? other = some a := by
  unfold upsertAccount
  split
  · exact found
  · simp only [account?] at found ⊢
    simp [found]

/-- The id that is given out is that of the organization's account. -/
theorem account?_upsertAccount (s : Store) (org : String) :
    (s.upsertAccount org).1.account? org = some ⟨(s.upsertAccount org).2, org⟩ := by
  unfold upsertAccount
  split
  next a found =>
    have same := org_of_account? found
    subst same
    exact found
  next absent =>
    simp only [account?] at absent ⊢
    simp [absent]

@[simp]
theorem upsertAccount_systems (s : Store) (org : String) :
    (s.upsertAccount org).1.systems = s.systems := by
  unfold upsertAccount
  split <;> rfl

@[simp]
theorem upsertAccount_markers (s : Store) (org : String) :
    (s.upsertAccount org).1.markers = s.markers := by
  unfold upsertAccount
  split <;> rfl

@[simp]
theorem upsertAccount_lastSystem (s : Store) (org : String) :
    (s.upsertAccount org).1.lastSystem = s.lastSystem := by
  unfold upsertAccount
  split <;> rfl

/-! ## Systems -/

theorem hasKey_of_system? {r : SystemRow} (found : s.system? account inventoryId = some r) :
    r.hasKey account inventoryId = true := by
  unfold system? at found
  simpa using List.find?_some found

theorem key_of_system? {r : SystemRow} (found : s.system? account inventoryId = some r) :
    r.account = account ∧ r.inventoryId = inventoryId :=
  SystemRow.hasKey_iff.mp (hasKey_of_system? found)

theorem mem_of_system? {r : SystemRow} (found : s.system? account inventoryId = some r) :
    r ∈ s.systems :=
  List.mem_of_find?_eq_some found

/-- Stores with the same rows find the same rows. -/
theorem system?_congr {s' : Store} (same : s'.systems = s.systems) :
    s'.system? account inventoryId = s.system? account inventoryId := by
  rw [system?, same, system?]

theorem upsertSystem_of_some {u : Upload} {r : SystemRow}
    (found : s.system? u.account u.inventoryId = some r) :
    s.upsertSystem u =
      ({ s with
          systems := s.systems.map fun x =>
            if x.hasKey u.account u.inventoryId then r.take u else x },
        r.take u) := by
  rw [upsertSystem, found]

theorem upsertSystem_of_none {u : Upload} (absent : s.system? u.account u.inventoryId = none) :
    s.upsertSystem u =
      ({ s with
          systems := s.systems ++
            [(SystemRow.unwritten (s.lastSystem + 1) u.account u.inventoryId).take u]
          lastSystem := s.lastSystem + 1 },
        (SystemRow.unwritten (s.lastSystem + 1) u.account u.inventoryId).take u) := by
  rw [upsertSystem, absent]
  rfl

/-- The row that an upload writes. -/
theorem upsertSystem_snd (s : Store) (u : Upload) :
    (s.upsertSystem u).2 =
      ((s.system? u.account u.inventoryId).getD
        (.unwritten (s.lastSystem + 1) u.account u.inventoryId)).take u := by
  cases looked : s.system? u.account u.inventoryId with
  | none => rw [upsertSystem_of_none looked, Option.getD_none]
  | some r => rw [upsertSystem_of_some looked, Option.getD_some]

/-- The row that was written is found under the key of the upload. -/
theorem system?_upsertSystem (s : Store) (u : Upload) :
    (s.upsertSystem u).1.system? u.account u.inventoryId = some (s.upsertSystem u).2 := by
  cases looked : s.system? u.account u.inventoryId with
  | none =>
      have key : (SystemRow.unwritten (s.lastSystem + 1) u.account u.inventoryId).hasKey
          u.account u.inventoryId = true := by
        simp [SystemRow.hasKey, SystemRow.unwritten]
      rw [upsertSystem_of_none looked]
      unfold system? at looked ⊢
      rw [List.find?_append, looked]
      simp [key]
  | some r =>
      have key := hasKey_of_system? looked
      have keep : (fun x : SystemRow => x.hasKey u.account u.inventoryId) ∘
          (fun x => if x.hasKey u.account u.inventoryId then r.take u else x) =
            fun x => x.hasKey u.account u.inventoryId := by
        funext x
        by_cases same : x.hasKey u.account u.inventoryId <;> simp [same, key]
      rw [upsertSystem_of_some looked]
      unfold system? at looked ⊢
      rw [List.find?_map, keep, looked]
      simp [key]

/-- The row that was written is that of the host. -/
theorem upsertSystem_inventoryId (s : Store) (u : Upload) :
    (s.upsertSystem u).2.inventoryId = u.inventoryId :=
  (key_of_system? (s.system?_upsertSystem u)).2

/-- The rows under other keys are not touched. -/
theorem system?_upsertSystem_of_ne (s : Store) (u : Upload)
    (other : ¬ (account = u.account ∧ inventoryId = u.inventoryId)) :
    (s.upsertSystem u).1.system? account inventoryId = s.system? account inventoryId := by
  have apart : ∀ x : SystemRow, x.hasKey u.account u.inventoryId = true →
      x.hasKey account inventoryId = false := by
    intro x key
    rw [Bool.eq_false_iff]
    intro looked
    have written := SystemRow.hasKey_iff.mp key
    have found := SystemRow.hasKey_iff.mp looked
    exact other ⟨found.1.symm.trans written.1, found.2.symm.trans written.2⟩
  cases looked : s.system? u.account u.inventoryId with
  | none =>
      have unlike := apart (.unwritten (s.lastSystem + 1) u.account u.inventoryId)
        (by simp [SystemRow.hasKey, SystemRow.unwritten])
      rw [upsertSystem_of_none looked]
      simp only [system?, List.find?_append]
      simp [unlike]
  | some r =>
      have written := hasKey_of_system? looked
      have keep : (fun x : SystemRow => x.hasKey account inventoryId) ∘
          (fun x => if x.hasKey u.account u.inventoryId then r.take u else x) =
            fun x => x.hasKey account inventoryId := by
        funext x
        by_cases key : x.hasKey u.account u.inventoryId
        · simp [key, apart x key, apart r written]
        · simp [key]
      rw [upsertSystem_of_some looked]
      simp only [system?]
      rw [List.find?_map, keep]
      cases found : s.systems.find? fun x => x.hasKey account inventoryId with
      | none => rfl
      | some x =>
          have key : x.hasKey account inventoryId = true := hasKey_of_system? found
          have unlike : x.hasKey u.account u.inventoryId = false := by
            rw [Bool.eq_false_iff]
            intro same
            rw [apart x same] at key
            contradiction
          simp [unlike]

@[simp]
theorem upsertSystem_accounts (s : Store) (u : Upload) :
    (s.upsertSystem u).1.accounts = s.accounts := by
  unfold upsertSystem
  split <;> rfl

@[simp]
theorem upsertSystem_markers (s : Store) (u : Upload) :
    (s.upsertSystem u).1.markers = s.markers := by
  unfold upsertSystem
  split <;> rfl

/-- Every row of the inventory id is marked, and no other. -/
theorem system?_markStale (s : Store) (deleted : String) (time : Instant) :
    (s.markStale deleted time).1.system? account inventoryId =
      (s.system? account inventoryId).map fun r =>
        if inventoryId = deleted then r.markedStale time else r := by
  have keep : (fun r : SystemRow => r.hasKey account inventoryId) ∘
      (fun r => if r.inventoryId == deleted then
        { r with stale := true, staleAt := some time, culledAt := some time } else r) =
        fun r => r.hasKey account inventoryId := by
    funext r
    by_cases same : r.inventoryId = deleted <;> simp [same, SystemRow.hasKey]
  simp only [system?, markStale]
  rw [List.find?_map, keep]
  cases looked : s.systems.find? fun r => r.hasKey account inventoryId with
  | none => rfl
  | some r =>
      have key := key_of_system? (s := s) looked
      simp [key.2, SystemRow.markedStale]

/-! ## Markers -/

theorem mem_of_marker? {m : Marker} (found : s.marker? inventoryId = some m) :
    m ∈ s.markers :=
  List.mem_of_find?_eq_some found

theorem inventoryId_of_marker? {m : Marker} (found : s.marker? inventoryId = some m) :
    m.inventoryId = inventoryId := by
  simpa using List.find?_some found

/-- Stores with the same markers find the same markers. -/
theorem marker?_congr {s' : Store} (same : s'.markers = s.markers) :
    s'.marker? inventoryId = s.marker? inventoryId := by
  rw [marker?, same, marker?]

@[simp]
theorem upsertMarker_systems (s : Store) (deleted : String) (time : Instant) :
    (s.upsertMarker deleted time).systems = s.systems := by
  unfold upsertMarker
  split <;> rfl

@[simp]
theorem upsertMarker_accounts (s : Store) (deleted : String) (time : Instant) :
    (s.upsertMarker deleted time).accounts = s.accounts := by
  unfold upsertMarker
  split <;> rfl

/-- The marker of the inventory id is the one that was set; the others are not touched. -/
theorem marker?_upsertMarker (s : Store) (deleted : String) (time : Instant) :
    (s.upsertMarker deleted time).marker? inventoryId =
      if inventoryId = deleted then some ⟨deleted, time⟩ else s.marker? inventoryId := by
  unfold upsertMarker
  split
  next absent =>
    simp only [marker?] at absent ⊢
    rw [List.find?_append]
    by_cases same : inventoryId = deleted
    · simp [same, absent]
    · simp [same, Ne.symm same]
  next m found =>
    have keep : (fun m : Marker => m.inventoryId == inventoryId) ∘
        (fun m => if m.inventoryId == deleted then ⟨deleted, time⟩ else m) =
          fun m => m.inventoryId == inventoryId := by
      funext m
      by_cases same : m.inventoryId = deleted <;> simp [same]
    simp only [marker?] at found ⊢
    rw [List.find?_map, keep]
    by_cases same : inventoryId = deleted
    · have key := List.find?_some found
      simp only [same, found, Option.map_some, key, if_true]
    · cases looked : s.markers.find? fun m => m.inventoryId == inventoryId with
      | none => simp [same]
      | some x =>
          have key : x.inventoryId = inventoryId := by simpa using List.find?_some looked
          simp [same, key]

/-- A marker was there before, or it is the one that was set. -/
theorem mem_upsertMarker {deleted : String} {time : Instant} {m : Marker}
    (mem : m ∈ (s.upsertMarker deleted time).markers) :
    m = ⟨deleted, time⟩ ∨ m ∈ s.markers := by
  unfold upsertMarker at mem
  split at mem
  · simpa [or_comm] using mem
  · obtain ⟨x, xMem, rfl⟩ := List.mem_map.mp mem
    by_cases same : x.inventoryId == deleted
    · exact .inl (by simp [same])
    · exact .inr (by simpa [same] using xMem)

/-- A marker that is not from before the instant is not cleared away. -/
theorem marker?_pruneMarkers_of_some {time : Instant} {m : Marker}
    (found : s.marker? inventoryId = some m) (late : m.deletedAt.before time = false) :
    (s.pruneMarkers time).1.marker? inventoryId = some m := by
  simp only [marker?, pruneMarkers] at found ⊢
  rw [List.find?_filter]
  rw [List.find?_eq_some_iff_append] at found ⊢
  obtain ⟨key, earlier, later, split, none⟩ := found
  refine ⟨by simp [late, key], earlier, later, split, fun x mem => ?_⟩
  have unlike := none x mem
  simp only [Bool.not_eq_true'] at unlike ⊢
  simp [unlike]

theorem mem_pruneMarkers {time : Instant} {m : Marker}
    (mem : m ∈ (s.pruneMarkers time).1.markers) : m ∈ s.markers :=
  (List.mem_filter.mp mem).1

end Store

end FleetRoster
