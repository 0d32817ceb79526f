import Mathlib.Data.List.Nodup
import FleetRoster.Proofs.Store.Lookup

/-!
# Sound stores

The tables of a sound store have one row for each of their keys, and the numbers that were given out
are distinct and do not pass the last one. Every call keeps a store sound; it keeps each account as
it is, and each system in place.
-/

namespace FleetRoster

open Calendar (Instant)

/-- The account and the inventory id of a row. -/
def SystemRow.key (r : SystemRow) : Int × String :=
  (r.account, r.inventoryId)

theorem SystemRow.hasKey_iff_key {r : SystemRow} {account : Int} {inventoryId : String} :
    r.hasKey account inventoryId = true ↔ r.key = (account, inventoryId) := by
  rw [SystemRow.hasKey_iff, SystemRow.key, Prod.mk.injEq]

/-- Distinct values stay distinct when an element with a new one is added. -/
theorem nodup_map_snoc {α β : Type} {f : α → β} {as : List α} {a : α} (nodup : (as.map f).Nodup)
    (new : ∀ x ∈ as, f x ≠ f a) : ((as ++ [a]).map f).Nodup := by
  rw [List.map_append, List.nodup_append]
  constructor
  · exact nodup
  · simpa using new

/-- The one element of a list with some property is found by it. -/
theorem find?_of_unique {α : Type} {as : List α} {p : α → Bool} {a : α} (mem : a ∈ as)
    (holds : p a = true) (only : ∀ x ∈ as, p x = true → x = a) : as.find? p = some a := by
  obtain ⟨found, looked⟩ := Option.isSome_iff_exists.mp (List.find?_isSome.mpr ⟨a, mem, holds⟩)
  rw [looked, only found (List.mem_of_find?_eq_some looked) (List.find?_some looked)]

namespace Store

/-- Each key has one row, and the numbers that were given out are distinct. -/
structure IsSound (s : Store) : Prop where
  accountOrgs : (s.accounts.map (·.org)).Nodup
  accountIds : (s.accounts.map (·.id)).Nodup
  accountId_le : ∀ a ∈ s.accounts, a.id ≤ s.lastAccount
  systemKeys : (s.systems.map (·.key)).Nodup
  systemIds : (s.systems.map (·.id)).Nodup
  systemId_le : ∀ r ∈ s.systems, r.id ≤ s.lastSystem
  markerIds : (s.markers.map (·.inventoryId)).Nodup

/-- A store that nothing was written into is sound. -/
theorem isSound_empty : ({} : Store).IsSound := by
  constructor <;> simp

namespace IsSound

variable {s : Store}

/-! ## What soundness says of lookups -/

/-- Two organizations with one account id are the same. -/
theorem org_unique (sound : s.IsSound) {first second : String} {account : Int}
    (foundFirst : s.account? first = some ⟨account, first⟩)
    (foundSecond : s.account? second = some ⟨account, second⟩) : first = second := by
  have same : (⟨account, first⟩ : Account) = ⟨account, second⟩ :=
    List.inj_on_of_nodup_map sound.accountIds (mem_of_account? foundFirst)
      (mem_of_account? foundSecond) rfl
  exact congrArg Account.org same

theorem account?_of_mem (sound : s.IsSound) {a : Account} (mem : a ∈ s.accounts) :
    s.account? a.org = some a := by
  apply find?_of_unique mem (beq_self_eq_true a.org)
  intro x inTable same
  exact List.inj_on_of_nodup_map sound.accountOrgs inTable mem (eq_of_beq same)

/-- Rows with one key are the same. -/
theorem row_unique (sound : s.IsSound) {r r' : SystemRow} (mem : r ∈ s.systems)
    (mem' : r' ∈ s.systems) {account : Int} {inventoryId : String}
    (key : r.hasKey account inventoryId = true) (key' : r'.hasKey account inventoryId = true) :
    r = r' :=
  List.inj_on_of_nodup_map sound.systemKeys mem mem'
    ((SystemRow.hasKey_iff_key.mp key).trans (SystemRow.hasKey_iff_key.mp key').symm)

/-- Every row is the one that is found under its key. -/
theorem system?_of_mem (sound : s.IsSound) {r : SystemRow} (mem : r ∈ s.systems) :
    s.system? r.account r.inventoryId = some r := by
  have key : r.hasKey r.account r.inventoryId = true := SystemRow.hasKey_iff.mpr ⟨rfl, rfl⟩
  apply find?_of_unique mem key
  intro x inTable same
  exact sound.row_unique inTable mem same key

theorem marker?_of_mem (sound : s.IsSound) {m : Marker} (mem : m ∈ s.markers) :
    s.marker? m.inventoryId = some m := by
  apply find?_of_unique mem (beq_self_eq_true m.inventoryId)
  intro x inTable same
  exact List.inj_on_of_nodup_map sound.markerIds inTable mem (eq_of_beq same)

/-- The hosts on a baseline have distinct numbers. -/
theorem nodup_activeIds (sound : s.IsSound) (account : Int) (baseline : Option Int) :
    ((s.systems.filter (·.isActiveOn account baseline)).map (·.id)).Nodup :=
  sound.systemIds.sublist (List.filter_sublist.map _)

/-! ## Calls keep a store sound -/

theorem upsertAccount (sound : s.IsSound) (org : String) : (s.upsertAccount org).1.IsSound := by
  unfold Store.upsertAccount
  split
  · exact sound
  next absent =>
    have new : ∀ a ∈ s.accounts, a.org ≠ org := by
      simpa [account?] using absent
    have fresh : ∀ a ∈ s.accounts, a.id ≠ ((s.lastAccount + 1 : Nat) : Int) := by
      intro a mem
      have := sound.accountId_le a mem
      omega
    constructor
    · exact nodup_map_snoc sound.accountOrgs new
    · exact nodup_map_snoc sound.accountIds fresh
    · intro a mem
      rw [List.mem_append, List.mem_singleton] at mem
      rcases mem with old | rfl
      · have := sound.accountId_le a old
        change a.id ≤ ((s.lastAccount + 1 : Nat) : Int)
        omega
      · simp
    · exact sound.systemKeys
    · exact sound.systemIds
    · exact sound.systemId_le
    · exact sound.markerIds

/-- Rows may change in place, as long as they keep their ids and keys. -/
theorem mapSystems (sound : s.IsSound) {change : SystemRow → SystemRow}
    (keepsKey : ∀ r ∈ s.systems, (change r).key = r.key)
    (keepsId : ∀ r ∈ s.systems, (change r).id = r.id) :
    ({ s with systems := s.systems.map change } : Store).IsSound := by
  constructor
  · exact sound.accountOrgs
  · exact sound.accountIds
  · exact sound.accountId_le
  · rw [List.map_map, List.map_congr_left (g := (·.key)) keepsKey]
    exact sound.systemKeys
  · rw [List.map_map, List.map_congr_left (g := (·.id)) keepsId]
    exact sound.systemIds
  · intro r mem
    obtain ⟨old, oldMem, rfl⟩ := List.mem_map.mp mem
    rw [keepsId old oldMem]
    exact sound.systemId_le old oldMem
  · exact sound.markerIds

/-- An upload of a host that has a row changes that row in place. -/
theorem upsertSystem_fst_of_some (sound : s.IsSound) {u : Upload} {found : SystemRow}
    (looked : s.system? u.account u.inventoryId = some found) :
    (s.upsertSystem u).1 =
      { s with systems := s.systems.map fun r =>
          if r.hasKey u.account u.inventoryId then r.take u else r } := by
  have rows : s.systems.map (fun r =>
      if r.hasKey u.account u.inventoryId then found.take u else r) =
        s.systems.map fun r => if r.hasKey u.account u.inventoryId then r.take u else r := by
    apply List.map_congr_left
    intro r mem
    by_cases key : r.hasKey u.account u.inventoryId
    · rw [if_pos key, if_pos key,
        sound.row_unique mem (mem_of_system? looked) key (hasKey_of_system? looked)]
    · rw [if_neg key, if_neg key]
  rw [upsertSystem_of_some looked, rows]

theorem upsertSystem (sound : s.IsSound) (u : Upload) : (s.upsertSystem u).1.IsSound := by
  cases looked : s.system? u.account u.inventoryId with
  | some found =>
      rw [sound.upsertSystem_fst_of_some looked]
      apply sound.mapSystems
      · intro r _
        split <;> rfl
      · intro r _
        split <;> rfl
  | none =>
      rw [upsertSystem_of_none looked]
      have new : ∀ r ∈ s.systems, r.key ≠ (u.account, u.inventoryId) := by
        intro r mem key
        have unlike := List.find?_eq_none.mp looked r mem
        exact unlike (SystemRow.hasKey_iff_key.mpr key)
      have fresh : ∀ r ∈ s.systems, r.id ≠ ((s.lastSystem + 1 : Nat) : Int) := by
        intro r mem
        have := sound.systemId_le r mem
        omega
      constructor
      · exact sound.accountOrgs
      · exact sound.accountIds
      · exact sound.accountId_le
      · exact nodup_map_snoc sound.systemKeys new
      · exact nodup_map_snoc sound.systemIds fresh
      · intro r mem
        rw [List.mem_append, List.mem_singleton] at mem
        rcases mem with old | rfl
        · have := sound.systemId_le r old
          change r.id ≤ ((s.lastSystem + 1 : Nat) : Int)
          omega
        · simp [SystemRow.take, SystemRow.unwritten]
      · exact sound.markerIds

theorem markStale (sound : s.IsSound) (inventoryId : String) (time : Instant) :
    (s.markStale inventoryId time).1.IsSound := by
  apply sound.mapSystems
  · intro r _
    split <;> rfl
  · intro r _
    split <;> rfl

theorem upsertMarker (sound : s.IsSound) (inventoryId : String) (time : Instant) :
    (s.upsertMarker inventoryId time).IsSound := by
  unfold Store.upsertMarker
  split
  next absent =>
    have new : ∀ m ∈ s.markers, m.inventoryId ≠ inventoryId := by
      simpa [marker?] using absent
    exact { sound with markerIds := nodup_map_snoc sound.markerIds new }
  · have keepsId : ∀ m ∈ s.markers,
        (if m.inventoryId == inventoryId then (⟨inventoryId, time⟩ : Marker) else m).inventoryId =
          m.inventoryId := by
      intro m _
      by_cases same : m.inventoryId = inventoryId <;> simp [same]
    refine { sound with markerIds := ?_ }
    rw [List.map_map, List.map_congr_left (g := (·.inventoryId)) keepsId]
    exact sound.markerIds

theorem pruneMarkers (sound : s.IsSound) (time : Instant) :
    (s.pruneMarkers time).1.IsSound :=
  { sound with markerIds := sound.markerIds.sublist (List.filter_sublist.map _) }

/-- Every call keeps a store sound. -/
theorem answer (sound : s.IsSound) (call : Call) : (s.answer call).1.IsSound := by
  cases call with
  | upsertAccount org => exact sound.upsertAccount org
  | upsertSystem upload => exact sound.upsertSystem upload
  | getDeleted inventoryId => exact sound
  | upsertDeleted inventoryId time => exact sound.upsertMarker inventoryId time
  | markStale inventoryId time => exact sound.markStale inventoryId time
  | pruneDeleted time => exact sound.pruneMarkers time
  | systemsForBaseline account baseline => exact sound

end IsSound

end Store

end FleetRoster
