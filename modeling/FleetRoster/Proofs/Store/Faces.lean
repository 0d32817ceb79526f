import FleetRoster.Proofs.Store.Markers

/-!
# The face of a host

What the store tells of a host when its numbers are left out: its marker, and its rows by
organization, without the numbers that rows and accounts were given. A call of the store changes the
face of one host, or clears markers away from all of them; making an account changes none, since no
row belongs to it yet.
-/

namespace FleetRoster

open Calendar (Instant)

/-- A row without its own number and that of its account. -/
def SystemRow.unnumbered (r : SystemRow) : SystemRow :=
  { r with id := 0, account := 0 }

namespace Store

/-- The row of a host of an organization, without numbers. -/
def row? (s : Store) (org inventoryId : String) : Option SystemRow :=
  (s.account? org).bind fun a => (s.system? a.id inventoryId).map (·.unnumbered)

/-- Whether a host has a row in any account. -/
def knows (s : Store) (inventoryId : String) : Bool :=
  s.systems.any fun r => r.inventoryId == inventoryId

/-- Every row belongs to an account. -/
def IsOwned (s : Store) : Prop :=
  ∀ r ∈ s.systems, ∃ a ∈ s.accounts, a.id = r.account

end Store

/-- What can be seen of a host. -/
@[ext]
structure Face where
  marker : Option Marker
  /-- The rows by organization, without numbers. -/
  row : String → Option SystemRow
  /-- Whether there is a row in any account. -/
  known : Bool

namespace Face

/-- The face after a row was written for an organization. -/
def filed (f : Face) (org : String) (u : Upload) : Face where
  marker := f.marker
  row other := if other = org then
    some (((f.row org).getD (.unwritten 0 0 u.inventoryId)).take u) else f.row other
  known := true

/-- The face with a marker. -/
def marked (f : Face) (m : Marker) : Face :=
  { f with marker := some m }

/-- The face after every row was marked stale. -/
def staled (f : Face) (time : Instant) : Face :=
  { f with row := fun org => (f.row org).map (·.markedStale time) }

/-- The face after markers from before an instant were cleared away. -/
def swept (f : Face) (limit : Instant) : Face :=
  { f with marker := f.marker.filter fun m => !m.deletedAt.before limit }

end Face

namespace Store

/-- What a store shows of a host. -/
def face (s : Store) (inventoryId : String) : Face where
  marker := s.marker? inventoryId
  row org := s.row? org inventoryId
  known := s.knows inventoryId

variable {s : Store} {inventoryId : String}

theorem row?_of_account? {org : String} {account : Int}
    (found : s.account? org = some ⟨account, org⟩) (inventoryId : String) :
    s.row? org inventoryId = (s.system? account inventoryId).map (·.unnumbered) := by
  rw [row?, found]
  rfl

theorem knows_eq_true : s.knows inventoryId = true ↔ ∃ r ∈ s.systems, r.inventoryId = inventoryId := by
  simp [knows]

/-- As many rows are marked stale as there are, so none exactly if the host is not known. -/
theorem markStale_snd_eq_zero (s : Store) (inventoryId : String) (time : Instant) :
    (s.markStale inventoryId time).2 = 0 ↔ s.knows inventoryId = false := by
  simp [markStale, knows, List.countP_eq_zero]

/-! ## Accounts -/

theorem account?_upsertAccount_of_ne {org other : String} (apart : other ≠ org) :
    (s.upsertAccount org).1.account? other = s.account? other := by
  unfold upsertAccount
  split
  · rfl
  · simp only [account?, List.find?_append]
    simp [Ne.symm apart]

theorem upsertAccount_of_some {org : String} {a : Account} (found : s.account? org = some a) :
    s.upsertAccount org = (s, a.id) := by
  rw [upsertAccount, found]

theorem upsertAccount_snd_of_none {org : String} (absent : s.account? org = none) :
    (s.upsertAccount org).2 = ((s.lastAccount + 1 : Nat) : Int) := by
  rw [upsertAccount, absent]

/-- No row belongs to an account that was not given out. -/
theorem system?_of_fresh (sound : s.IsSound) (owned : s.IsOwned) (inventoryId : String) :
    s.system? ((s.lastAccount + 1 : Nat) : Int) inventoryId = none := by
  rw [system?, List.find?_eq_none]
  intro r mem key
  rcases owned r mem with ⟨a, aMem, same⟩
  have given := sound.accountId_le a aMem
  have fresh := (SystemRow.hasKey_iff.mp key).1
  omega

/-- Making an account is not seen by any host. -/
theorem face_upsertAccount (sound : s.IsSound) (owned : s.IsOwned) (org inventoryId : String) :
    (s.upsertAccount org).1.face inventoryId = s.face inventoryId := by
  have row (other : String) :
      (s.upsertAccount org).1.row? other inventoryId = s.row? other inventoryId := by
    by_cases same : other = org
    · subst same
      cases found : s.account? other with
      | some a => rw [upsertAccount_of_some found]
      | none =>
          rw [row?_of_account? (s.account?_upsertAccount other), upsertAccount_snd_of_none found,
            system?_congr (s.upsertAccount_systems other), system?_of_fresh sound owned, row?, found]
          rfl
    · rw [row?, account?_upsertAccount_of_ne same, row?]
      simp only [system?_congr (s.upsertAccount_systems org)]
  have knows : (s.upsertAccount org).1.knows inventoryId = s.knows inventoryId := by
    rw [Store.knows, upsertAccount_systems, Store.knows]
  exact Face.ext (marker?_congr (s.upsertAccount_markers org)) (funext row) knows

theorem IsOwned.upsertAccount (owned : s.IsOwned) (org : String) :
    (s.upsertAccount org).1.IsOwned := by
  unfold Store.upsertAccount
  split
  · exact owned
  · intro r mem
    rcases owned r mem with ⟨a, aMem, same⟩
    exact ⟨a, List.mem_append_left _ aMem, same⟩

/-! ## Systems -/

theorem mem_upsertSystem {u : Upload} {r : SystemRow} (mem : r ∈ (s.upsertSystem u).1.systems) :
    r = (s.upsertSystem u).2 ∨ r ∈ s.systems := by
  cases looked : s.system? u.account u.inventoryId with
  | some found =>
      rw [upsertSystem_of_some looked] at mem ⊢
      rcases List.mem_map.mp mem with ⟨x, xMem, rfl⟩
      by_cases key : x.hasKey u.account u.inventoryId
      · exact .inl (by rw [if_pos key])
      · exact .inr (by rwa [if_neg key])
  | none =>
      rw [upsertSystem_of_none looked] at mem ⊢
      simpa [or_comm] using mem

/-- The rows of other hosts are still there. -/
theorem mem_upsertSystem_of_mem {u : Upload} {r : SystemRow} (mem : r ∈ s.systems)
    (apart : r.inventoryId ≠ u.inventoryId) : r ∈ (s.upsertSystem u).1.systems := by
  cases looked : s.system? u.account u.inventoryId with
  | some found =>
      rw [upsertSystem_of_some looked]
      have other : ¬ r.hasKey u.account u.inventoryId := by
        intro key
        exact apart (SystemRow.hasKey_iff.mp key).2
      exact List.mem_map.mpr ⟨r, mem, if_neg other⟩
  | none =>
      rw [upsertSystem_of_none looked]
      exact List.mem_append_left _ mem

theorem knows_upsertSystem (s : Store) (u : Upload) (inventoryId : String) :
    (s.upsertSystem u).1.knows inventoryId =
      if inventoryId = u.inventoryId then true else s.knows inventoryId := by
  split
  next same =>
    rw [knows_eq_true]
    exact ⟨_, mem_of_system? (s.system?_upsertSystem u),
      (s.upsertSystem_inventoryId u).trans same.symm⟩
  next apart =>
    rw [Bool.eq_iff_iff, knows_eq_true, knows_eq_true]
    constructor
    · rintro ⟨r, mem, about⟩
      rcases mem_upsertSystem mem with rfl | old
      · exact absurd (about.symm.trans (s.upsertSystem_inventoryId u)) apart
      · exact ⟨r, old, about⟩
    · rintro ⟨r, mem, about⟩
      exact ⟨r, mem_upsertSystem_of_mem mem (about ▸ apart), about⟩

theorem account?_upsertSystem (s : Store) (u : Upload) (org : String) :
    (s.upsertSystem u).1.account? org = s.account? org := by
  rw [account?, upsertSystem_accounts, account?]

/-- What an upload writes does not depend on numbers, if these are not looked at. -/
theorem row?_upsertSystem {u : Upload} {org : String}
    (found : s.account? org = some ⟨u.account, org⟩) :
    (s.upsertSystem u).1.row? org u.inventoryId =
      some (((s.row? org u.inventoryId).getD (.unwritten 0 0 u.inventoryId)).take u) := by
  rw [row?_of_account? ((s.account?_upsertSystem u org).trans found), system?_upsertSystem,
    upsertSystem_snd, row?_of_account? found]
  cases s.system? u.account u.inventoryId <;> rfl

/-- The rows of other organizations and other hosts are not touched. -/
theorem row?_upsertSystem_of_ne (sound : s.IsSound) {u : Upload} {org other : String}
    (found : s.account? org = some ⟨u.account, org⟩)
    (apart : other ≠ org ∨ inventoryId ≠ u.inventoryId) :
    (s.upsertSystem u).1.row? other inventoryId = s.row? other inventoryId := by
  rw [row?, account?_upsertSystem, row?]
  cases looked : s.account? other with
  | none => rfl
  | some a =>
      have unlike : ¬ (a.id = u.account ∧ inventoryId = u.inventoryId) := by
        rintro ⟨account, sameHost⟩
        have named := org_of_account? looked
        have foundOther : s.account? other = some ⟨u.account, other⟩ := by
          rw [looked, ← account, ← named]
        have sameOrg := sound.org_unique foundOther found
        rcases apart with otherOrg | otherHost
        · exact otherOrg sameOrg
        · exact otherHost sameHost
      rw [Option.bind_some, Option.bind_some, system?_upsertSystem_of_ne s u unlike]

/-- An upload is seen by its host, for the organization whose account it is written to. -/
theorem face_upsertSystem (sound : s.IsSound) {u : Upload} {org : String}
    (found : s.account? org = some ⟨u.account, org⟩) (inventoryId : String) :
    (s.upsertSystem u).1.face inventoryId =
      if inventoryId = u.inventoryId then (s.face inventoryId).filed org u
      else s.face inventoryId := by
  have marker : (s.upsertSystem u).1.marker? inventoryId = s.marker? inventoryId :=
    marker?_congr (s.upsertSystem_markers u)
  split
  next same =>
    subst same
    have row (other : String) : (s.upsertSystem u).1.row? other u.inventoryId =
        if other = org then
          some (((s.row? org u.inventoryId).getD (.unwritten 0 0 u.inventoryId)).take u)
        else s.row? other u.inventoryId := by
      split
      next own => rw [own, row?_upsertSystem found]
      next apart => exact row?_upsertSystem_of_ne sound found (.inl apart)
    have knows : (s.upsertSystem u).1.knows u.inventoryId = true := by
      rw [knows_upsertSystem, if_pos rfl]
    exact Face.ext marker (funext row) knows
  next apart =>
    have row (other : String) :
        (s.upsertSystem u).1.row? other inventoryId = s.row? other inventoryId :=
      row?_upsertSystem_of_ne sound found (.inr apart)
    have knows : (s.upsertSystem u).1.knows inventoryId = s.knows inventoryId := by
      rw [knows_upsertSystem, if_neg apart]
    exact Face.ext marker (funext row) knows

theorem IsOwned.upsertSystem (owned : s.IsOwned) {u : Upload} {org : String}
    (found : s.account? org = some ⟨u.account, org⟩) : (s.upsertSystem u).1.IsOwned := by
  intro r mem
  rw [upsertSystem_accounts]
  rcases mem_upsertSystem mem with rfl | old
  · exact ⟨_, mem_of_account? found, (key_of_system? (s.system?_upsertSystem u)).1.symm⟩
  · exact owned r old

/-! ## Stale rows -/

theorem knows_markStale (s : Store) (deleted : String) (time : Instant) (inventoryId : String) :
    (s.markStale deleted time).1.knows inventoryId = s.knows inventoryId := by
  simp only [knows, markStale, List.any_map]
  congr 1
  funext r
  by_cases same : r.inventoryId = deleted <;> simp [same]

theorem face_markStale (s : Store) (deleted : String) (time : Instant) (inventoryId : String) :
    (s.markStale deleted time).1.face inventoryId =
      if inventoryId = deleted then (s.face inventoryId).staled time
      else s.face inventoryId := by
  have row (org : String) : (s.markStale deleted time).1.row? org inventoryId =
      (s.row? org inventoryId).map fun r =>
        if inventoryId = deleted then r.markedStale time else r := by
    have accounts : (s.markStale deleted time).1.account? org = s.account? org := rfl
    rw [row?, accounts, row?]
    cases s.account? org with
    | none => rfl
    | some a =>
        rw [Option.bind_some, Option.bind_some, system?_markStale, Option.map_map, Option.map_map]
        congr 1
        funext r
        by_cases same : inventoryId = deleted
        · simp only [Function.comp, if_pos same]
          rfl
        · simp only [Function.comp, if_neg same]
  have knows := s.knows_markStale deleted time inventoryId
  split
  next same =>
    simp only [if_pos same] at row
    exact Face.ext rfl (funext row) knows
  next apart =>
    simp only [if_neg apart, Option.map_id'] at row
    exact Face.ext rfl (funext row) knows

theorem IsOwned.markStale (owned : s.IsOwned) (deleted : String) (time : Instant) :
    (s.markStale deleted time).1.IsOwned := by
  intro r mem
  rcases List.mem_map.mp mem with ⟨old, oldMem, rfl⟩
  rcases owned old oldMem with ⟨a, aMem, same⟩
  refine ⟨a, aMem, same.trans ?_⟩
  split <;> rfl

/-! ## Markers -/

theorem face_upsertMarker (s : Store) (deleted : String) (time : Instant) (inventoryId : String) :
    (s.upsertMarker deleted time).face inventoryId =
      if inventoryId = deleted then (s.face inventoryId).marked ⟨deleted, time⟩
      else s.face inventoryId := by
  have row (org : String) :
      (s.upsertMarker deleted time).row? org inventoryId = s.row? org inventoryId := by
    rw [row?, account?, upsertMarker_accounts, row?, account?]
    simp only [system?_congr (s.upsertMarker_systems deleted time)]
  have knows : (s.upsertMarker deleted time).knows inventoryId = s.knows inventoryId := by
    rw [Store.knows, upsertMarker_systems, Store.knows]
  have marker : (s.upsertMarker deleted time).marker? inventoryId =
      if inventoryId = deleted then some ⟨deleted, time⟩ else s.marker? inventoryId :=
    s.marker?_upsertMarker deleted time
  split
  next same => exact Face.ext (marker.trans (if_pos same)) (funext row) knows
  next apart => exact Face.ext (marker.trans (if_neg apart)) (funext row) knows

theorem IsOwned.upsertMarker (owned : s.IsOwned) (deleted : String) (time : Instant) :
    (s.upsertMarker deleted time).IsOwned := by
  intro r mem
  rw [upsertMarker_systems] at mem
  rw [upsertMarker_accounts]
  exact owned r mem

theorem face_pruneMarkers (sound : s.IsSound) (limit : Instant) (inventoryId : String) :
    (s.pruneMarkers limit).1.face inventoryId = (s.face inventoryId).swept limit :=
  Face.ext (marker?_pruneMarkers sound.markerIds) rfl rfl

end Store

end FleetRoster
