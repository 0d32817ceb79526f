import FleetRoster.Proofs.Store.Constraints
import FleetRoster.Proofs.Store.Order
import FleetRoster.Store.Tables

/-!
# Keyed tables and the rows of the store

The tables of the store in memory hold the rows of the store, each under its own key and in no
particular order. Every call changes both in the same way and is answered alike, so whatever is done
with the tables, and in whichever order their entries stand after it, they are under the constraints
of the store.
-/

namespace FleetRoster

open Calendar (Instant)

/-! ## Tables that hold rows -/

namespace Table

variable {κ α : Type} {key : α → κ} {rows : List α} {t t' : Table κ α} {k : κ} {a b : α}

/-- A table holds some rows, each under its own key, in any order. -/
def Holds (t : Table κ α) (key : α → κ) (rows : List α) : Prop :=
  t.entries.Perm (rows.map fun a => (key a, a))

theorem holds_nil : ({} : Table κ α).Holds key [] :=
  .refl _

/-- A table in another order. -/
def Reorders (t t' : Table κ α) : Prop :=
  t.entries.Perm t'.entries

instance [DecidableEq κ] [DecidableEq α] (t t' : Table κ α) : Decidable (t.Reorders t') :=
  inferInstanceAs (Decidable (t.entries.Perm t'.entries))

theorem Holds.mem_iff (holds : t.Holds key rows) : (k, a) ∈ t.entries ↔ a ∈ rows ∧ key a = k := by
  rw [List.Perm.mem_iff holds]
  constructor
  · intro mem
    obtain ⟨b, there, same⟩ := List.mem_map.mp mem
    cases same
    exact ⟨there, rfl⟩
  · rintro ⟨there, rfl⟩
    exact List.mem_map_of_mem there

theorem Holds.perm_rows (holds : t.Holds key rows) : t.rows.Perm rows := by
  have perm := List.Perm.map (·.2) holds
  rwa [List.map_map, show (fun e : κ × α => e.2) ∘ (fun a => (key a, a)) = id from rfl,
    List.map_id] at perm

theorem Holds.perm_keys (holds : t.Holds key rows) :
    (t.entries.map (·.1)).Perm (rows.map key) := by
  have perm := List.Perm.map (·.1) holds
  rwa [List.map_map] at perm

theorem Holds.length_entries (holds : t.Holds key rows) : t.entries.length = rows.length := by
  rw [List.Perm.length_eq holds, List.length_map]

theorem Holds.reorders (holds : t.Holds key rows) (holds' : t'.Holds key rows) : t.Reorders t' :=
  List.Perm.trans holds (List.Perm.symm holds')

theorem Holds.of_reorders (holds : t.Holds key rows) (reorders : t.Reorders t') :
    t'.Holds key rows :=
  List.Perm.trans (List.Perm.symm reorders) holds

/-! ### Changing some rows -/

theorem amend_eq (p : α → Bool) (change : α → α) (entries : List (κ × α)) :
    amend p change entries =
      (entries.map fun e => (e.1, if p e.2 then change e.2 else e.2),
        entries.countP fun e => p e.2) := by
  induction entries with
  | nil => rfl
  | cons e rest ih =>
      obtain ⟨key, a⟩ := e
      rw [amend, ih, List.map_cons, List.countP_cons]
      by_cases holds : p a <;> simp [holds]

theorem Holds.amend (holds : t.Holds key rows) (p : α → Bool) (change : α → α)
    (keeps : ∀ a, key (change a) = key a) :
    (⟨(Table.amend p change t.entries).1⟩ : Table κ α).Holds key
        (rows.map fun a => if p a then change a else a) ∧
      (Table.amend p change t.entries).2 = rows.countP p := by
  rw [amend_eq]
  constructor
  · refine (List.Perm.map _ holds).trans (.of_eq ?_)
    rw [List.map_map, List.map_map]
    apply List.map_congr_left
    intro a _
    by_cases there : p a <;> simp [there, keeps]
  · rw [List.Perm.countP_eq _ holds, List.countP_map]
    rfl

theorem Holds.retain (holds : t.Holds key rows) (p : α → Bool) :
    (t.retain p).Holds key (rows.filter p) := by
  refine (List.Perm.filter _ holds).trans (.of_eq ?_)
  rw [List.filter_map]
  rfl

/-! ### Keys -/

variable [DecidableEq κ]

/-- Where keys are distinct, the first row with a key is the only one. -/
theorem find?_key_iff (distinct : (rows.map key).Nodup) :
    rows.find? (fun a => key a = k) = some a ↔ a ∈ rows ∧ key a = k := by
  constructor
  · intro found
    exact ⟨List.mem_of_find?_eq_some found, by simpa using List.find?_some found⟩
  · rintro ⟨there, rfl⟩
    apply find?_of_unique there (decide_eq_true rfl)
    intro b alsoThere same
    exact List.inj_on_of_nodup_map distinct alsoThere there (of_decide_eq_true same)

/-- What is under a key is the row with the key. -/
theorem Holds.get?_eq (holds : t.Holds key rows) (distinct : (rows.map key).Nodup) (k : κ) :
    t.get? k = rows.find? fun a => key a = k := by
  have keys : (t.entries.map (·.1)).Nodup := holds.perm_keys.nodup_iff.mpr distinct
  apply Option.ext
  intro a
  rw [get?, Option.map_eq_some_iff, find?_key_iff distinct, ← holds.mem_iff]
  simp only [find?_key_iff keys]
  constructor
  · rintro ⟨⟨_, _⟩, ⟨mem, rfl⟩, rfl⟩
    exact mem
  · intro mem
    exact ⟨(k, a), ⟨mem, rfl⟩, rfl⟩

/-- The row with a key is taken out and another one put in front. -/
theorem perm_replace (distinct : (rows.map key).Nodup) (mem : a ∈ rows) (same : key a = key b) :
    (b :: rows.filter fun x => key x ≠ key b).Perm
      (rows.map fun x => if key x = key b then b else x) := by
  induction rows with
  | nil => cases mem
  | cons x rest ih =>
      rw [List.map_cons, List.nodup_cons] at distinct
      by_cases own : key x = key b
      · -- No other row has the key, so the rest stays as it is.
        have others : ∀ y ∈ rest, key y ≠ key b := by
          intro y there alike
          exact distinct.1 (own ▸ alike ▸ List.mem_map_of_mem there)
        have kept : rest.filter (fun x => key x ≠ key b) = rest := by
          rw [List.filter_eq_self]
          intro y there
          exact decide_eq_true (others y there)
        have unchanged : rest.map (fun x => if key x = key b then b else x) = rest := by
          refine (List.map_congr_left fun y there => ?_).trans rest.map_id
          exact if_neg (others y there)
        rw [List.filter_cons, if_neg (by simp [own]), kept, List.map_cons, unchanged, if_pos own]
      · have further : a ∈ rest := by
          rcases List.mem_cons.mp mem with rfl | further
          · exact absurd same own
          · exact further
        rw [List.filter_cons, if_pos (decide_eq_true own), List.map_cons, if_neg own]
        exact (List.Perm.swap x b _).trans ((ih distinct.2 further).cons x)

theorem Holds.put_cons (holds : t.Holds key rows) (b : α) :
    (t.put (key b) b).Holds key (b :: rows.filter fun x => key x ≠ key b) := by
  refine List.Perm.cons _ ((List.Perm.filter _ holds).trans (.of_eq ?_))
  rw [List.filter_map]
  rfl

/-- A row that is put under a new key is added. -/
theorem Holds.put_new (holds : t.Holds key rows) (new : ∀ x ∈ rows, key x ≠ key b) :
    (t.put (key b) b).Holds key (rows ++ [b]) := by
  have kept : rows.filter (fun x => key x ≠ key b) = rows := by
    rw [List.filter_eq_self]
    intro x there
    exact decide_eq_true (new x there)
  have put := holds.put_cons b
  rw [kept] at put
  exact put.trans ((List.perm_append_singleton b rows).symm.map _)

/-- A row that is put under the key of another one takes its place. -/
theorem Holds.put_old (holds : t.Holds key rows) (distinct : (rows.map key).Nodup)
    (mem : a ∈ rows) (same : key a = key b) :
    (t.put (key b) b).Holds key (rows.map fun x => if key x = key b then b else x) :=
  (holds.put_cons b).trans ((perm_replace distinct mem same).map _)

end Table

/-! ## The tables of a store -/

namespace Tables

variable {t t' : Tables} {s s' : Store}

/-- Tables that hold the rows of a store, and have given out the same numbers. -/
structure Represents (t : Tables) (s : Store) : Prop where
  accounts : t.accounts.Holds (·.org) s.accounts
  lastAccount : t.lastAccount = s.lastAccount
  systems : t.systems.Holds (·.key) s.systems
  lastSystem : t.lastSystem = s.lastSystem
  markers : t.markers.Holds (·.inventoryId) s.markers

/-- Tables whose entries are in another order. -/
structure Reorders (t t' : Tables) : Prop where
  accounts : t.accounts.Reorders t'.accounts
  lastAccount : t'.lastAccount = t.lastAccount
  systems : t.systems.Reorders t'.systems
  lastSystem : t'.lastSystem = t.lastSystem
  markers : t.markers.Reorders t'.markers

theorem Reorders.refl (t : Tables) : t.Reorders t :=
  ⟨.refl _, rfl, .refl _, rfl, .refl _⟩

theorem represents_empty : ({} : Tables).Represents {} :=
  ⟨Table.holds_nil, rfl, Table.holds_nil, rfl, Table.holds_nil⟩

theorem Represents.of_reorders (represents : t.Represents s) (reorders : t.Reorders t') :
    t'.Represents s where
  accounts := represents.accounts.of_reorders reorders.accounts
  lastAccount := reorders.lastAccount.trans represents.lastAccount
  systems := represents.systems.of_reorders reorders.systems
  lastSystem := reorders.lastSystem.trans represents.lastSystem
  markers := represents.markers.of_reorders reorders.markers

/-- Tables that hold the same rows differ in their order only. -/
theorem Represents.reorders (represents : t.Represents s) (represents' : t'.Represents s) :
    t.Reorders t' where
  accounts := represents.accounts.reorders represents'.accounts
  lastAccount := represents'.lastAccount.trans represents.lastAccount.symm
  systems := represents.systems.reorders represents'.systems
  lastSystem := represents'.lastSystem.trans represents.lastSystem.symm
  markers := represents.markers.reorders represents'.markers

/-- An upload of a host whose row stands under its own key. -/
theorem upsertSystem_of_some {u : Upload} {r : SystemRow}
    (found : t.systems.get? (u.account, u.inventoryId) = some r)
    (own : r.key = (u.account, u.inventoryId)) :
    t.upsertSystem u =
      ({ t with systems := t.systems.put (u.account, u.inventoryId) (r.take u) }, r.take u) := by
  obtain ⟨account, inventoryId⟩ := Prod.mk.inj own
  simp only [upsertSystem, found, SystemRow.take, account, inventoryId]

theorem upsertSystem_of_none {u : Upload}
    (absent : t.systems.get? (u.account, u.inventoryId) = none) :
    t.upsertSystem u =
      ({ t with
          systems := t.systems.put (u.account, u.inventoryId)
            ((SystemRow.unwritten (t.lastSystem + 1) u.account u.inventoryId).take u)
          lastSystem := t.lastSystem + 1 },
        (SystemRow.unwritten (t.lastSystem + 1) u.account u.inventoryId).take u) := by
  simp only [upsertSystem, absent]
  rfl

namespace Represents

/-! ### Looking up -/

theorem account? (represents : t.Represents s) (sound : s.IsSound) (org : String) :
    t.accounts.get? org = s.account? org := by
  rw [represents.accounts.get?_eq sound.accountOrgs, Store.account?]
  congr 1

theorem system? (represents : t.Represents s) (sound : s.IsSound) (account : Int)
    (inventoryId : String) :
    t.systems.get? (account, inventoryId) = s.system? account inventoryId := by
  rw [represents.systems.get?_eq sound.systemKeys, Store.system?]
  congr 1
  funext r
  exact Bool.eq_iff_iff.mpr (decide_eq_true_iff.trans SystemRow.hasKey_iff_key.symm)

theorem marker? (represents : t.Represents s) (sound : s.IsSound) (inventoryId : String) :
    t.markers.get? inventoryId = s.marker? inventoryId := by
  rw [represents.markers.get?_eq sound.markerIds, Store.marker?]
  congr 1

/-- Hosts with distinct numbers are sorted in one way, whatever order they are read in. -/
theorem systemsForBaseline (represents : t.Represents s) (sound : s.IsSound) (account : Int)
    (baseline : Option Int) :
    t.systemsForBaseline account baseline = s.systemsForBaseline account baseline := by
  have perm := (represents.systems.perm_rows.filter (·.isActiveOn account baseline)).symm
  rw [Tables.systemsForBaseline, Store.systemsForBaseline,
    sortByNumber_eq_of_perm (sound.nodup_activeIds account baseline) perm]

/-! ### Writing -/

theorem upsertAccount (represents : t.Represents s) (sound : s.IsSound) (org : String) :
    (t.upsertAccount org).1.Represents (s.upsertAccount org).1 ∧
      (t.upsertAccount org).2 = (s.upsertAccount org).2 := by
  have looked := represents.account? sound org
  cases found : s.account? org with
  | some a =>
      rw [found] at looked
      simp only [Tables.upsertAccount, looked, Store.upsertAccount, found]
      exact ⟨represents, trivial⟩
  | none =>
      rw [found] at looked
      have new : ∀ a ∈ s.accounts, a.org ≠ org := by
        simpa [Store.account?] using found
      simp only [Tables.upsertAccount, looked, Store.upsertAccount, found,
        represents.lastAccount]
      exact ⟨{ represents with
        accounts := represents.accounts.put_new (b := ⟨_, org⟩) new
        lastAccount := rfl }, trivial⟩

/-- The row under a key is changed. -/
theorem changeSystem (represents : t.Represents s) (sound : s.IsSound)
    (change : SystemRow → SystemRow) {found : SystemRow} {account : Int} {inventoryId : String}
    (looked : s.system? account inventoryId = some found)
    (own : (change found).key = (account, inventoryId)) :
    ({ t with systems := t.systems.put (account, inventoryId) (change found) } : Tables).Represents
      { s with systems := s.systems.map fun x =>
          if x.hasKey account inventoryId then change x else x } := by
  have mem := Store.mem_of_system? looked
  have there := Store.hasKey_of_system? looked
  have put := represents.systems.put_old sound.systemKeys mem
    ((SystemRow.hasKey_iff_key.mp there).trans own.symm)
  rw [own] at put
  have rows : s.systems.map (fun x =>
      if x.key = (account, inventoryId) then change found else x) =
        s.systems.map fun x => if x.hasKey account inventoryId then change x else x := by
    apply List.map_congr_left
    intro x inTable
    by_cases same : x.hasKey account inventoryId
    · rw [if_pos (SystemRow.hasKey_iff_key.mp same), if_pos same,
        sound.row_unique inTable mem same there]
    · rw [if_neg (mt SystemRow.hasKey_iff_key.mpr same), if_neg same]
  rw [rows] at put
  exact { represents with systems := put }

theorem upsertSystem (represents : t.Represents s) (sound : s.IsSound) (u : Upload) :
    (t.upsertSystem u).1.Represents (s.upsertSystem u).1 ∧
      (t.upsertSystem u).2 = (s.upsertSystem u).2 := by
  have looked := represents.system? sound u.account u.inventoryId
  cases found : s.system? u.account u.inventoryId with
  | some r =>
      obtain ⟨account, inventoryId⟩ := Store.key_of_system? found
      have own : r.key = (u.account, u.inventoryId) := Prod.ext account inventoryId
      rw [upsertSystem_of_some (looked.trans found) own, sound.upsertSystem_fst_of_some found,
        Store.upsertSystem_snd, found, Option.getD_some]
      exact ⟨represents.changeSystem sound (·.take u) found own, rfl⟩
  | none =>
      have new : ∀ r ∈ s.systems, r.key ≠ (u.account, u.inventoryId) := by
        intro r mem key
        exact List.find?_eq_none.mp found r mem (SystemRow.hasKey_iff_key.mpr key)
      rw [upsertSystem_of_none (looked.trans found), Store.upsertSystem_of_none found,
        represents.lastSystem]
      exact ⟨{ represents with
        systems := represents.systems.put_new
          (b := (SystemRow.unwritten (s.lastSystem + 1) u.account u.inventoryId).take u) new
        lastSystem := rfl }, rfl⟩

theorem setBaseline (represents : t.Represents s) (sound : s.IsSound) (account : Int)
    (inventoryId : String) (baseline : Option Int) :
    (t.setBaseline account inventoryId baseline).1.Represents
        (s.setBaseline account inventoryId baseline).1 ∧
      (t.setBaseline account inventoryId baseline).2 =
        (s.setBaseline account inventoryId baseline).2 := by
  have looked := represents.system? sound account inventoryId
  cases found : s.system? account inventoryId with
  | some r =>
      have own : r.key = (account, inventoryId) :=
        SystemRow.hasKey_iff_key.mp (Store.hasKey_of_system? found)
      simp only [Tables.setBaseline, looked, Store.setBaseline, found]
      exact ⟨represents.changeSystem sound (fun x => { x with baseline }) found own, trivial⟩
  | none =>
      simp only [Tables.setBaseline, looked, Store.setBaseline, found]
      exact ⟨represents, trivial⟩

theorem markStale (represents : t.Represents s) (inventoryId : String) (time : Instant) :
    (t.markStale inventoryId time).1.Represents (s.markStale inventoryId time).1 ∧
      (t.markStale inventoryId time).2 = (s.markStale inventoryId time).2 := by
  obtain ⟨systems, count⟩ := represents.systems.amend (fun r => r.inventoryId == inventoryId)
    (fun r => { r with stale := true, staleAt := some time, culledAt := some time })
    fun _ => rfl
  exact ⟨{ represents with systems }, count⟩

theorem upsertMarker (represents : t.Represents s) (sound : s.IsSound) (inventoryId : String)
    (time : Instant) :
    (t.upsertMarker inventoryId time).Represents (s.upsertMarker inventoryId time) := by
  cases found : s.marker? inventoryId with
  | some m =>
      simp only [Store.upsertMarker, found]
      have put := represents.markers.put_old (b := (⟨inventoryId, time⟩ : Marker)) sound.markerIds
        (Store.mem_of_marker? found) (Store.inventoryId_of_marker? found)
      refine { represents with markers := ?_ }
      simp only [beq_iff_eq]
      exact put
  | none =>
      simp only [Store.upsertMarker, found]
      have new : ∀ m ∈ s.markers, m.inventoryId ≠ inventoryId := by
        simpa [Store.marker?] using found
      have put := represents.markers.put_new (b := (⟨inventoryId, time⟩ : Marker)) new
      exact { represents with markers := put }

theorem pruneMarkers (represents : t.Represents s) (time : Instant) :
    (t.pruneMarkers time).1.Represents (s.pruneMarkers time).1 ∧
      (t.pruneMarkers time).2 = (s.pruneMarkers time).2 := by
  have markers := represents.markers.retain fun m => !m.deletedAt.before time
  refine ⟨{ represents with markers }, ?_⟩
  have split := List.length_eq_countP_add_countP (fun m : Marker => m.deletedAt.before time)
    (l := s.markers)
  simp only [Bool.not_eq_true, Bool.decide_eq_false] at split
  simp only [Tables.pruneMarkers, Store.pruneMarkers, markers.length_entries,
    represents.markers.length_entries, ← List.countP_eq_length_filter]
  omega

/-- A call changes both alike and has one answer. -/
theorem answer (represents : t.Represents s) (sound : s.IsSound) (call : Store.Call) :
    (t.answer call).1.Represents (s.answer call).1 ∧ (t.answer call).2 = (s.answer call).2 := by
  cases call with
  | upsertAccount org => exact represents.upsertAccount sound org
  | upsertSystem upload => exact represents.upsertSystem sound upload
  | getDeleted inventoryId => exact ⟨represents, represents.marker? sound inventoryId⟩
  | upsertDeleted inventoryId time => exact ⟨represents.upsertMarker sound inventoryId time, rfl⟩
  | markStale inventoryId time => exact represents.markStale inventoryId time
  | pruneDeleted time => exact represents.pruneMarkers time
  | systemsForBaseline account baseline =>
      exact ⟨represents, represents.systemsForBaseline sound account baseline⟩

theorem accountList (represents : t.Represents s) (numbered : s.IsNumbered) :
    t.accountList = s.accounts :=
  sortByNumber_eq_of_ascending (numbered.accounts ▸ pairwise_numbers _)
    represents.accounts.perm_rows

/-- The rows of a store are those of its tables, sorted. -/
theorem systemList (represents : t.Represents s) (numbered : s.IsNumbered) :
    t.systemList = s.systems :=
  sortByNumber_eq_of_ascending (numbered.systems ▸ pairwise_numbers _)
    represents.systems.perm_rows

end Represents

/-! ## Operations on tables -/

/-- The tables after an operation, where calls may be out. -/
def operate (t : Tables) (out : Bool) : Store.Operation → Tables
  | .call call => (t.call out call).1
  | .setBaseline account inventoryId baseline => (t.setBaseline account inventoryId baseline).1
  | .setFailing _ => t
  | .look => t

/-- What tables can become by operations in a world. Nothing is said of the order in which entries
stand after an operation. -/
inductive Runs : World → Tables → List Store.Operation → Tables → Prop
  | nil (w : World) (t : Tables) : Runs w t [] t
  | cons {w : World} {t next last : Tables} {operation : Store.Operation}
      {rest : List Store.Operation}
      (operated : (t.operate (w.outage w.calls) operation).Reorders next)
      (others : Runs (w.operate operation) next rest last) : Runs w t (operation :: rest) last

theorem Represents.operate {w : World} (represents : t.Represents w.store)
    (sound : w.store.IsSound) (operation : Store.Operation) :
    (t.operate (w.outage w.calls) operation).Represents (w.operate operation).store := by
  cases operation with
  | call call =>
      simp only [Tables.operate, Tables.call, World.operate, World.call]
      split
      · exact represents
      · exact (represents.answer sound call).1
  | setBaseline account inventoryId baseline =>
      exact (represents.setBaseline sound account inventoryId baseline).1
  | setFailing on => exact represents
  | look => exact represents

/-- Tables and rows that are changed by the same operations stay in step. -/
theorem Runs.represents {w : World} {operations : List Store.Operation}
    (runs : Runs w t operations t') (represents : t.Represents w.store)
    (sound : w.store.IsSound) : t'.Represents (w.operateAll operations).store := by
  induction runs with
  | nil w t => exact represents
  | cons operated others ih =>
      exact ih ((represents.operate sound _).of_reorders operated) (sound.operate _)

/-- Tables can be changed by any operations. -/
theorem exists_runs (w : World) (t : Tables) (operations : List Store.Operation) :
    ∃ t', Runs w t operations t' := by
  induction operations generalizing w t with
  | nil => exact ⟨t, .nil w t⟩
  | cons operation rest ih =>
      obtain ⟨t', others⟩ := ih (w.operate operation) (t.operate (w.outage w.calls) operation)
      exact ⟨t', .cons (.refl _) others⟩

/-- The tables of a store that operations have brought about from a blank one. -/
def Keeps (t : Tables) (s : Store) : Prop :=
  ∃ (start : World) (operations : List Store.Operation),
    start.store = {} ∧ (start.operateAll operations).store = s ∧ Runs start {} operations t

theorem Keeps.represents (keeps : t.Keeps s) : t.Represents s := by
  obtain ⟨start, operations, blank, rfl, runs⟩ := keeps
  exact runs.represents (blank ▸ represents_empty) (blank ▸ Store.isSound_empty)

/-! ## Constraints of the tables -/

/-- The tables under their constraints. -/
structure Constraints (t : Tables) : Prop where
  /-- Each record stands under its own key. -/
  accounts : ∀ e ∈ t.accounts.entries, e.1 = e.2.org
  systems : ∀ e ∈ t.systems.entries, e.1 = (e.2.account, e.2.inventoryId)
  markers : ∀ e ∈ t.markers.entries, e.1 = e.2.inventoryId
  /-- No key is there twice. -/
  accountKeys : (t.accounts.entries.map (·.1)).Nodup
  systemKeys : (t.systems.entries.map (·.1)).Nodup
  markerKeys : (t.markers.entries.map (·.1)).Nodup
  /-- Numbers are distinct and do not pass the last one. -/
  accountIds : (t.accounts.rows.map (·.id)).Nodup
  systemIds : (t.systems.rows.map (·.id)).Nodup
  accountRange : ∀ a ∈ t.accounts.rows, 1 ≤ a.id ∧ a.id ≤ t.lastAccount
  systemRange : ∀ r ∈ t.systems.rows, 1 ≤ r.id ∧ r.id ≤ t.lastSystem
  /-- As many numbers were given out as there are accounts and hosts. -/
  accountCount : t.lastAccount = t.accounts.entries.length
  systemCount : t.lastSystem = t.systems.entries.length

theorem Represents.constraints (represents : t.Represents s) (sound : s.IsSound)
    (numbered : s.IsNumbered) : t.Constraints := by
  have rows := numbered.constraints sound
  have accounts := represents.accounts.perm_rows
  have systems := represents.systems.perm_rows
  exact {
    accounts := fun _ mem => (represents.accounts.mem_iff.mp mem).2.symm
    systems := fun _ mem => (represents.systems.mem_iff.mp mem).2.symm
    markers := fun _ mem => (represents.markers.mem_iff.mp mem).2.symm
    accountKeys := represents.accounts.perm_keys.nodup_iff.mpr sound.accountOrgs
    systemKeys := represents.systems.perm_keys.nodup_iff.mpr sound.systemKeys
    markerKeys := represents.markers.perm_keys.nodup_iff.mpr sound.markerIds
    accountIds := (accounts.map _).nodup_iff.mpr sound.accountIds
    systemIds := (systems.map _).nodup_iff.mpr sound.systemIds
    accountRange := fun a mem =>
      represents.lastAccount ▸ rows.accountRange a (accounts.mem_iff.mp mem)
    systemRange := fun r mem =>
      represents.lastSystem ▸ rows.systemRange r (systems.mem_iff.mp mem)
    accountCount := by
      rw [represents.lastAccount, rows.accountCount, represents.accounts.length_entries]
    systemCount := by
      rw [represents.lastSystem, rows.systemCount, represents.systems.length_entries] }

/-- What is left of tables after operations on them. -/
structure Lasts (operations : List Store.Operation) (t t' : Tables) : Prop where
  /-- Accounts stay under their keys as they are. -/
  accounts : ∀ e ∈ t.accounts.entries, e ∈ t'.accounts.entries
  /-- Under each key stays a row with the same number, and with the same baseline unless that was
  set. -/
  systems : ∀ e ∈ t.systems.entries, ∃ r, (e.1, r) ∈ t'.systems.entries ∧ r.id = e.2.id ∧
    ((∀ b, .setBaseline e.1.1 e.1.2 b ∉ operations) → r.baseline = e.2.baseline)

theorem Represents.lasts {operations : List Store.Operation} (represents : t.Represents s)
    (represents' : t'.Represents s') (lasts : Store.Lasts operations s s') :
    Lasts operations t t' where
  accounts := by
    rintro ⟨org, a⟩ mem
    obtain ⟨there, own⟩ := represents.accounts.mem_iff.mp mem
    exact represents'.accounts.mem_iff.mpr ⟨lasts.accounts.subset there, own⟩
  systems := by
    rintro ⟨key, r⟩ mem
    obtain ⟨there, rfl⟩ := represents.systems.mem_iff.mp mem
    obtain ⟨r', there', id, own, kept⟩ := lasts.systems r there
    exact ⟨r', represents'.systems.mem_iff.mpr ⟨there', own⟩, id, kept⟩

/-- What the next call does to tables. -/
structure Conduct (t : Tables) : Prop where
  /-- It marks the rows of a host, and answers how many there are. -/
  marks : ∀ inventoryId time,
    (t.markStale inventoryId time).2 =
        (t.systems.rows.filter (·.inventoryId == inventoryId)).length ∧
      ∀ r ∈ (t.markStale inventoryId time).1.systems.rows,
        r.inventoryId = inventoryId → r.stale = true
  /-- It takes markers out, and answers how many. -/
  clears : ∀ time,
    (t.pruneMarkers time).1.markers.entries.Sublist t.markers.entries ∧
      (t.pruneMarkers time).1.markers.entries.length + (t.pruneMarkers time).2 =
        t.markers.entries.length
  /-- Repeated it changes nothing more, whatever order the entries have got in between. -/
  again : ∀ call t', (t.answer call).1.Reorders t' → t'.Reorders (t'.answer call).1
  /-- Refused it changes nothing. -/
  refused : ∀ out call why, (t.call out call).2 = .error why → (t.call out call).1 = t

theorem refused_call {out : Bool} {call : Store.Call} {why : Fault}
    (refused : (t.call out call).2 = .error why) : (t.call out call).1 = t := by
  unfold Tables.call at refused ⊢
  split
  · rfl
  next up => simp [up] at refused

theorem Represents.conduct (represents : t.Represents s) (sound : s.IsSound) : t.Conduct where
  marks inventoryId time := by
    rw [Tables.markStale, Table.amend_eq]
    constructor
    · rw [← List.countP_eq_length_filter, Table.rows, List.countP_map]
      rfl
    · intro r mem about
      obtain ⟨e, there, rfl⟩ := List.mem_map.mp mem
      obtain ⟨old, _, rfl⟩ := List.mem_map.mp there
      by_cases same : old.2.inventoryId = inventoryId
      · simp [same]
      · simp [same] at about
  clears time := by
    constructor
    · exact List.filter_sublist
    · exact Nat.add_sub_cancel' (List.length_filter_le _ _)
  again call t' reorders := by
    have first := (represents.answer sound call).1.of_reorders reorders
    have second := (first.answer (sound.answer call) call).1
    rw [sound.answer_answer] at second
    exact first.reorders second
  refused _ _ _ refused := refused_call refused

/-- What is true of the tables that keep the store of a world. -/
structure Upholds (t : Tables) (w : World) : Prop where
  constraints : t.Constraints
  lasts : ∀ operations t', Runs w t operations t' → Lasts operations t t'
  conduct : t.Conduct
  /-- They answer as the rows of the store do. -/
  answers : ∀ call, (t.call (w.outage w.calls) call).2 = (w.call call).2
  placed : ∀ account inventoryId baseline, (t.setBaseline account inventoryId baseline).2 =
    (w.store.setBaseline account inventoryId baseline).2
  /-- What is read from them are the rows of the store. -/
  row : ∀ account inventoryId,
    t.systems.get? (account, inventoryId) = w.store.system? account inventoryId
  marker : ∀ inventoryId, t.markers.get? inventoryId = w.store.marker? inventoryId
  accountRows : t.accountList = w.store.accounts
  systemRows : t.systemList = w.store.systems

theorem Represents.upholds {w : World} (represents : t.Represents w.store)
    (sound : w.store.IsSound) (numbered : w.store.IsNumbered) : t.Upholds w where
  constraints := represents.constraints sound numbered
  lasts operations t' runs :=
    represents.lasts (runs.represents represents sound)
      (World.keeps_operateAll sound numbered operations).2.2
  conduct := represents.conduct sound
  answers call := by
    simp only [Tables.call, World.call]
    split
    · rfl
    · exact congrArg Except.ok (represents.answer sound call).2
  placed account inventoryId baseline :=
    (represents.setBaseline sound account inventoryId baseline).2
  row := represents.system? sound
  marker := represents.marker? sound
  accountRows := represents.accountList numbered
  systemRows := represents.systemList numbered

end Tables

/-- Whatever was done with a store that was blank at first, its tables are under their constraints,
what is in them lasts, and the next call keeps to its conduct. The same holds of its keyed tables,
in whichever order their entries have come to stand. -/
theorem Store.constraints_hold {w : World} (reachable : w.store.IsReachable) :
    w.store.Constraints ∧
      (∀ operations, Lasts operations w.store (w.operateAll operations).store) ∧ Conduct w ∧
      (∃ t : Tables, t.Keeps w.store) ∧ ∀ t : Tables, t.Keeps w.store → t.Upholds w := by
  obtain ⟨sound, numbered⟩ := reachable.keeps
  refine ⟨numbered.constraints sound, ?_, World.conduct_of_isSound sound, ?_, ?_⟩
  · intro operations
    exact (World.keeps_operateAll sound numbered operations).2.2
  · obtain ⟨start, operations, blank, same⟩ := reachable
    obtain ⟨t, runs⟩ := Tables.exists_runs start {} operations
    exact ⟨t, start, operations, blank, same, runs⟩
  · intro t keeps
    exact keeps.represents.upholds sound numbered

namespace Store.Sample

/-- The tables after the operations, with the host that was written last at the end. -/
def tables : Tables where
  accounts := ⟨[("o", ⟨1, "o"⟩)]⟩
  lastAccount := 1
  systems := ⟨[
    ((1, "g"), ⟨2, 1, "g", "two", none, false, none, none, none, some ⟨0, 0⟩, none⟩),
    ((1, "h"), ⟨1, 1, "h", "three", none, false, none, none, none, some ⟨2, 0⟩, some 5⟩)]⟩
  lastSystem := 2

theorem keeps_tables : tables.Keeps (world.operateAll operations).store := by
  refine ⟨world, operations, rfl, rfl, ?_⟩
  iterate 8 refine .cons (.refl _) ?_
  exact .cons ⟨by decide, by decide, by decide, by decide, by decide⟩ (.nil _ _)

end Store.Sample

theorem Store.constraints_hold_sample :
    (Sample.world.operateAll Sample.operations).store.Constraints ∧
      (Sample.world.operateAll Sample.operations).store.systems.map
          (fun r => (r.id, r.inventoryId, r.displayName, r.baseline)) =
        [(1, "h", "three", some 5), (2, "g", "two", none)] ∧
      Sample.tables.Upholds (Sample.world.operateAll Sample.operations) ∧
      Sample.tables.systemList.map (·.inventoryId) = ["h", "g"] := by
  obtain ⟨constraints, _, _, _, upholds⟩ :=
    constraints_hold ⟨Sample.world, Sample.operations, rfl, rfl⟩
  exact ⟨constraints, by decide, upholds _ Sample.keeps_tables, by decide⟩

end FleetRoster
