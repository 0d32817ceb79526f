import Mathlib.Data.List.Infix
import FleetRoster.Proofs.Store.Faces
import FleetRoster.Rehearsal.Basic

/-!
# Constraints of the store

Whatever callers do with a store, and whenever it is out in between, its tables have one row for
each key, and the numbers of accounts and hosts are those from one on. No account goes away or
changes, and no row of a host goes away or changes its number, its key or, unless it is put on
another, its baseline. A call that is repeated changes nothing more, and one that is refused changes
nothing.
-/

namespace FleetRoster

open Calendar (Instant)

/-! ## Operations -/

/-- What callers can do with a store. -/
inductive Store.Operation
  | call (call : Store.Call)
  | setBaseline (account : Int) (inventoryId : String) (baseline : Option Int)
  /-- An outage begins or ends. -/
  | setFailing (on : Bool)
  /-- Rows are looked at without a call. -/
  | look

namespace World

/-- The world after an operation on its store. -/
def operate (w : World) : Store.Operation → World
  | .call call => (w.call call).1
  | .setBaseline account inventoryId baseline =>
    { w with store := (w.store.setBaseline account inventoryId baseline).1 }
  | .setFailing on => Rehearsal.setOutage w on .store
  | .look => w

/-- The world after some operations on its store. -/
def operateAll (w : World) (operations : List Store.Operation) : World :=
  operations.foldl operate w

/-- A call is answered by the store, or it is refused and leaves the store as it is. -/
theorem call_cases (w : World) (call : Store.Call) :
    ((w.call call).1.store = (w.store.answer call).1 ∧
        (w.call call).2 = .ok (w.store.answer call).2) ∨
      ((w.call call).1.store = w.store ∧ (w.call call).2 = .error call.refusal) := by
  unfold World.call
  by_cases out : w.outage w.calls
  · rw [if_pos out]
    exact .inr ⟨rfl, rfl⟩
  · rw [if_neg out]
    exact .inl ⟨rfl, rfl⟩

/-- What holds of a store before an operation, and after any call or change of a baseline that the
operation can be, holds after it. -/
theorem store_operate {P : Store → Prop} {w : World} {operation : Store.Operation}
    (before : P w.store) (answered : ∀ call, P (w.store.answer call).1)
    (placed : ∀ account inventoryId baseline,
      operation = .setBaseline account inventoryId baseline →
        P (w.store.setBaseline account inventoryId baseline).1) :
    P (w.operate operation).store := by
  cases operation with
  | call call =>
      rcases w.call_cases call with ⟨store, _⟩ | ⟨store, _⟩
      · rw [operate, store]
        exact answered call
      · rw [operate, store]
        exact before
  | setBaseline account inventoryId baseline => exact placed account inventoryId baseline rfl
  | setFailing on => exact before
  | look => exact before

end World

/-! ## Numbers -/

/-- The numbers from one on. -/
def numbers (last : Nat) : List Int :=
  (List.range last).map fun n => ((n + 1 : Nat) : Int)

theorem numbers_succ (last : Nat) :
    numbers (last + 1) = numbers last ++ [((last + 1 : Nat) : Int)] := by
  rw [numbers, List.range_succ, List.map_append, numbers]
  rfl

theorem pairwise_numbers (last : Nat) : (numbers last).Pairwise (· < ·) := by
  rw [numbers, List.pairwise_map]
  apply List.pairwise_lt_range.imp
  intro m n lt
  omega

theorem mem_numbers {last : Nat} {n : Int} : n ∈ numbers last ↔ 1 ≤ n ∧ n ≤ last := by
  rw [numbers, List.mem_map]
  constructor
  · rintro ⟨k, mem, rfl⟩
    have := List.mem_range.mp mem
    omega
  · intro within
    exact ⟨n.toNat - 1, List.mem_range.mpr (by omega), by omega⟩

namespace Store

variable {s s' : Store} {operation : Operation}

/-! ## Rows in place -/

/-- Rows that are put on a baseline. -/
theorem setBaseline_fst (s : Store) (account : Int) (inventoryId : String)
    (baseline : Option Int) :
    (s.setBaseline account inventoryId baseline).1 =
      { s with systems := s.systems.map fun r =>
          if r.hasKey account inventoryId then { r with baseline } else r } := by
  unfold setBaseline
  split
  next absent =>
    have others : ∀ r ∈ s.systems, r.hasKey account inventoryId = false := by
      simpa [system?] using absent
    have unchanged : s.systems.map (fun r =>
        if r.hasKey account inventoryId then { r with baseline } else r) = s.systems := by
      refine (List.map_congr_left fun r mem => ?_).trans s.systems.map_id
      rw [others r mem]
      rfl
    rw [unchanged]
  next => rfl

/-- How an operation changes the accounts: not at all, or it adds one under the next number. -/
inductive Enrolls (s s' : Store) : Prop
  | same (accounts : s'.accounts = s.accounts) (last : s'.lastAccount = s.lastAccount)
  | added (org : String)
      (accounts : s'.accounts = s.accounts ++ [⟨((s.lastAccount + 1 : Nat) : Int), org⟩])
      (last : s'.lastAccount = s.lastAccount + 1)

/-- How an operation changes the rows of hosts: in place, with their baselines only if it is about
these, or it adds one under the next number. -/
inductive Rewrites (operation : Operation) (s s' : Store) : Prop
  | inPlace (change : SystemRow → SystemRow)
      (id : ∀ r, (change r).id = r.id) (key : ∀ r, (change r).key = r.key)
      (baseline : ∀ r, (∀ b, operation ≠ .setBaseline r.account r.inventoryId b) →
        (change r).baseline = r.baseline)
      (rows : s'.systems = s.systems.map change) (last : s'.lastSystem = s.lastSystem)
  | added (r : SystemRow) (number : r.id = ((s.lastSystem + 1 : Nat) : Int))
      (rows : s'.systems = s.systems ++ [r]) (last : s'.lastSystem = s.lastSystem + 1)

theorem Enrolls.refl (s : Store) : s.Enrolls s :=
  .same rfl rfl

theorem enrolls_upsertAccount (s : Store) (org : String) : s.Enrolls (s.upsertAccount org).1 := by
  unfold upsertAccount
  split
  · exact .refl s
  · exact .added org rfl rfl

theorem enrolls_answer (s : Store) (call : Call) : s.Enrolls (s.answer call).1 := by
  cases call with
  | upsertAccount org => exact s.enrolls_upsertAccount org
  | upsertSystem u =>
      simp only [answer, upsertSystem]
      split <;> exact .same rfl rfl
  | upsertDeleted inventoryId time =>
      simp only [answer, upsertMarker]
      split <;> exact .same rfl rfl
  | _ => exact .same rfl rfl

/-- What an operation makes of the accounts. -/
theorem enrolls_operate (w : World) (operation : Operation) :
    w.store.Enrolls (w.operate operation).store := by
  apply World.store_operate
  · exact .refl _
  · exact w.store.enrolls_answer
  · intro account inventoryId baseline _
    rw [setBaseline_fst]
    exact .same rfl rfl

theorem Rewrites.of_eq (rows : s'.systems = s.systems) (last : s'.lastSystem = s.lastSystem) :
    Rewrites operation s s' :=
  .inPlace id (fun _ => rfl) (fun _ => rfl) (fun _ _ => rfl) (by rw [rows, List.map_id]) last

/-- Some of the rows may change in place. -/
theorem Rewrites.of_some {p : SystemRow → Bool} {f : SystemRow → SystemRow}
    (id : ∀ r, (f r).id = r.id) (key : ∀ r, (f r).key = r.key)
    (baseline : ∀ r, p r = true → (∀ b, operation ≠ .setBaseline r.account r.inventoryId b) →
      (f r).baseline = r.baseline) :
    Rewrites operation s { s with systems := s.systems.map fun r => if p r then f r else r } := by
  refine .inPlace _ ?_ ?_ ?_ rfl rfl
  · intro r
    split
    · exact id r
    · rfl
  · intro r
    split
    · exact key r
    · rfl
  · intro r unset
    split
    next changed => exact baseline r changed unset
    next => rfl

theorem rewrites_answer (sound : s.IsSound) (call : Call) :
    Rewrites operation s (s.answer call).1 := by
  cases call with
  | upsertAccount org => exact .of_eq (s.upsertAccount_systems org) (s.upsertAccount_lastSystem org)
  | upsertSystem u =>
      cases looked : s.system? u.account u.inventoryId with
      | some found =>
          rw [answer, sound.upsertSystem_fst_of_some looked]
          exact .of_some (fun _ => rfl) (fun _ => rfl) (fun _ _ _ => rfl)
      | none =>
          rw [answer, upsertSystem_of_none looked]
          exact .added _ rfl rfl rfl
  | upsertDeleted inventoryId time =>
      simp only [answer, upsertMarker]
      split <;> exact .of_eq rfl rfl
  | markStale inventoryId time => exact .of_some (fun _ => rfl) (fun _ => rfl) (fun _ _ _ => rfl)
  | _ => exact .of_eq rfl rfl

theorem rewrites_setBaseline (s : Store) (account : Int) (inventoryId : String)
    (baseline : Option Int) :
    Rewrites (.setBaseline account inventoryId baseline) s
      (s.setBaseline account inventoryId baseline).1 := by
  rw [setBaseline_fst]
  apply Rewrites.of_some
  · exact fun _ => rfl
  · exact fun _ => rfl
  · intro r own unset
    obtain ⟨rfl, rfl⟩ := SystemRow.hasKey_iff.mp own
    exact absurd rfl (unset baseline)

/-- What an operation makes of the rows of hosts. -/
theorem rewrites_operate {w : World} (sound : w.store.IsSound) (operation : Operation) :
    Rewrites operation w.store (w.operate operation).store := by
  apply World.store_operate
  · exact .of_eq rfl rfl
  · exact rewrites_answer sound
  · rintro account inventoryId baseline rfl
    exact w.store.rewrites_setBaseline account inventoryId baseline

/-! ## What operations keep -/

/-- The numbers of the accounts and of the hosts are those from one on. -/
structure IsNumbered (s : Store) : Prop where
  accounts : s.accounts.map (·.id) = numbers s.lastAccount
  systems : s.systems.map (·.id) = numbers s.lastSystem

/-- A store that nothing was written into has no numbers. -/
theorem isNumbered_empty : ({} : Store).IsNumbered :=
  ⟨rfl, rfl⟩

theorem IsNumbered.step (numbered : s.IsNumbered) (enrolls : s.Enrolls s')
    (rewrites : Rewrites operation s s') : s'.IsNumbered where
  accounts := by
    cases enrolls with
    | same accounts last => rw [accounts, last, numbered.accounts]
    | added org accounts last =>
        rw [accounts, last, List.map_append, numbered.accounts, numbers_succ]
        rfl
  systems := by
    cases rewrites with
    | inPlace change id key baseline rows last =>
        rw [rows, last, List.map_map, ← numbered.systems]
        exact List.map_congr_left fun r _ => id r
    | added r number rows last =>
        rw [rows, last, List.map_append, numbered.systems, numbers_succ, ← number]
        rfl

theorem IsSound.setBaseline (sound : s.IsSound) (account : Int) (inventoryId : String)
    (baseline : Option Int) : (s.setBaseline account inventoryId baseline).1.IsSound := by
  rw [setBaseline_fst]
  apply sound.mapSystems
  · intro r _
    split <;> rfl
  · intro r _
    split <;> rfl

/-- Every operation keeps a store sound. -/
theorem IsSound.operate {w : World} (sound : w.store.IsSound) (operation : Operation) :
    (w.operate operation).store.IsSound := by
  apply World.store_operate
  · exact sound
  · exact sound.answer
  · intro account inventoryId baseline _
    exact sound.setBaseline account inventoryId baseline

/-- What is left of one store in another one, after operations on it. -/
structure Lasts (operations : List Operation) (s s' : Store) : Prop where
  /-- The accounts stay as they are; later ones come after them. -/
  accounts : s.accounts <+: s'.accounts
  /-- Each row keeps its number and its key, and its baseline unless that was set. -/
  systems : ∀ r ∈ s.systems, ∃ r' ∈ s'.systems, r'.id = r.id ∧ r'.key = r.key ∧
    ((∀ b, .setBaseline r.account r.inventoryId b ∉ operations) → r'.baseline = r.baseline)

theorem Lasts.refl (s : Store) : Lasts [] s s :=
  ⟨List.prefix_rfl, fun r mem => ⟨r, mem, rfl, rfl, fun _ => rfl⟩⟩

theorem Lasts.trans {first second : List Operation} {s'' : Store} (one : Lasts first s s')
    (other : Lasts second s' s'') : Lasts (first ++ second) s s'' where
  accounts := one.accounts.trans other.accounts
  systems := by
    intro r mem
    obtain ⟨r', mem', id, key, kept⟩ := one.systems r mem
    obtain ⟨r'', mem'', id', key', kept'⟩ := other.systems r' mem'
    refine ⟨r'', mem'', id'.trans id, key'.trans key, fun unset => ?_⟩
    obtain ⟨account, inventoryId⟩ := Prod.mk.inj key
    rw [kept' fun b set => unset b (by simp [← account, ← inventoryId, set]),
      kept fun b set => unset b (by simp [set])]

theorem Lasts.step (enrolls : s.Enrolls s') (rewrites : Rewrites operation s s') :
    Lasts [operation] s s' where
  accounts := by
    cases enrolls with
    | same accounts last => rw [accounts]
    | added org accounts last => exact ⟨_, accounts.symm⟩
  systems := by
    intro r mem
    cases rewrites with
    | inPlace change id key baseline rows last =>
        refine ⟨change r, rows ▸ List.mem_map_of_mem mem, id r, key r, fun unset => ?_⟩
        apply baseline
        rintro b rfl
        exact unset b (List.mem_singleton_self _)
    | added new number rows last =>
        exact ⟨r, rows ▸ List.mem_append_left _ mem, rfl, rfl, fun _ => rfl⟩

end Store

namespace World

variable {w : World}

theorem operateAll_append (w : World) (first second : List Store.Operation) :
    w.operateAll (first ++ second) = (w.operateAll first).operateAll second :=
  List.foldl_append

/-- Whatever is done with it, a store stays sound and numbered, and what was in it lasts. -/
theorem keeps_operateAll (sound : w.store.IsSound) (numbered : w.store.IsNumbered)
    (operations : List Store.Operation) :
    (w.operateAll operations).store.IsSound ∧ (w.operateAll operations).store.IsNumbered ∧
      Store.Lasts operations w.store (w.operateAll operations).store := by
  -- Soundness is carried along, since only in a sound store an upload rewrites no more than one row.
  induction operations using List.reverseRecOn with
  | nil => exact ⟨sound, numbered, .refl _⟩
  | append_singleton operations last ih =>
      obtain ⟨soundThen, numberedThen, lasts⟩ := ih
      have enrolls := Store.enrolls_operate (w.operateAll operations) last
      have rewrites := Store.rewrites_operate soundThen last
      rw [operateAll_append]
      exact ⟨soundThen.operate last, numberedThen.step enrolls rewrites,
        lasts.trans (.step enrolls rewrites)⟩

end World

namespace Store

variable {s : Store}

/-! ## Calls that are repeated -/

/-- A host that was uploaded is uploaded again. -/
theorem IsSound.upsertSystem_upsertSystem (sound : s.IsSound) (u : Upload) :
    ((s.upsertSystem u).1.upsertSystem u).1 = (s.upsertSystem u).1 := by
  have soundThen := sound.upsertSystem u
  have looked := s.system?_upsertSystem u
  have written : (s.upsertSystem u).2.take u = (s.upsertSystem u).2 := by
    rw [upsertSystem_snd]
    rfl
  have unchanged : (s.upsertSystem u).1.systems.map (fun r =>
      if r.hasKey u.account u.inventoryId then r.take u else r) = (s.upsertSystem u).1.systems := by
    refine (List.map_congr_left fun r mem => ?_).trans (List.map_id _)
    split
    next key =>
      obtain ⟨account, inventoryId⟩ := SystemRow.hasKey_iff.mp key
      have found := soundThen.system?_of_mem mem
      rw [account, inventoryId, looked, Option.some.injEq] at found
      rw [← found, written, id]
    next => rfl
  rw [soundThen.upsertSystem_fst_of_some looked, unchanged]

theorem markStale_markStale (s : Store) (inventoryId : String) (time : Instant) :
    ((s.markStale inventoryId time).1.markStale inventoryId time).1 =
      (s.markStale inventoryId time).1 := by
  simp only [markStale, List.map_map]
  congr 1
  apply List.map_congr_left
  intro r _
  by_cases same : r.inventoryId = inventoryId <;> simp [same]

theorem pruneMarkers_pruneMarkers (s : Store) (time : Instant) :
    ((s.pruneMarkers time).1.pruneMarkers time).1 = (s.pruneMarkers time).1 := by
  simp only [pruneMarkers, List.filter_filter, Bool.and_self]

/-- A call that is repeated changes nothing more. -/
theorem IsSound.answer_answer (sound : s.IsSound) (call : Call) :
    ((s.answer call).1.answer call).1 = (s.answer call).1 := by
  cases call with
  | upsertAccount org =>
      exact congrArg Prod.fst (upsertAccount_of_some (s.account?_upsertAccount org))
  | upsertSystem u => exact sound.upsertSystem_upsertSystem u
  | getDeleted inventoryId => rfl
  | upsertDeleted inventoryId time => exact s.upsertMarker_upsertMarker inventoryId time time
  | markStale inventoryId time => exact s.markStale_markStale inventoryId time
  | pruneDeleted time => exact s.pruneMarkers_pruneMarkers time
  | systemsForBaseline account baseline => rfl

/-! ## Keys -/

/-- The tables under their constraints. -/
structure Constraints (s : Store) : Prop where
  /-- What is found under a key is the one row of the table with that key. -/
  accounts : ∀ org a, s.account? org = some a ↔ a ∈ s.accounts ∧ a.org = org
  systems : ∀ account inventoryId r, s.system? account inventoryId = some r ↔
    r ∈ s.systems ∧ r.account = account ∧ r.inventoryId = inventoryId
  markers : ∀ inventoryId m, s.marker? inventoryId = some m ↔
    m ∈ s.markers ∧ m.inventoryId = inventoryId
  markerIds : (s.markers.map (·.inventoryId)).Nodup
  /-- Numbers are distinct and ascend in the order of the table. -/
  accountIds : (s.accounts.map (·.id)).Pairwise (· < ·)
  systemIds : (s.systems.map (·.id)).Pairwise (· < ·)
  accountRange : ∀ a ∈ s.accounts, 1 ≤ a.id ∧ a.id ≤ s.lastAccount
  systemRange : ∀ r ∈ s.systems, 1 ≤ r.id ∧ r.id ≤ s.lastSystem
  /-- As many numbers were given out as there are accounts and hosts. -/
  accountCount : s.lastAccount = s.accounts.length
  systemCount : s.lastSystem = s.systems.length

theorem IsNumbered.constraints (numbered : s.IsNumbered) (sound : s.IsSound) :
    s.Constraints where
  accounts org a := by
    constructor
    · intro found
      exact ⟨mem_of_account? found, org_of_account? found⟩
    · rintro ⟨mem, rfl⟩
      exact sound.account?_of_mem mem
  systems account inventoryId r := by
    constructor
    · intro found
      exact ⟨mem_of_system? found, key_of_system? found⟩
    · rintro ⟨mem, rfl, rfl⟩
      exact sound.system?_of_mem mem
  markers inventoryId m := by
    constructor
    · intro found
      exact ⟨mem_of_marker? found, inventoryId_of_marker? found⟩
    · rintro ⟨mem, rfl⟩
      exact sound.marker?_of_mem mem
  markerIds := sound.markerIds
  accountIds := numbered.accounts ▸ pairwise_numbers _
  systemIds := numbered.systems ▸ pairwise_numbers _
  accountRange a mem := mem_numbers.mp (numbered.accounts ▸ List.mem_map_of_mem mem)
  systemRange r mem := mem_numbers.mp (numbered.systems ▸ List.mem_map_of_mem mem)
  accountCount := by
    simpa [numbers] using (congrArg List.length numbered.accounts).symm
  systemCount := by
    simpa [numbers] using (congrArg List.length numbered.systems).symm

/-- What the next call does to the store of a world. -/
structure Conduct (w : World) : Prop where
  /-- It marks the rows of a host, and answers how many there are. -/
  marks : ∀ inventoryId time (n : Nat), (w.call (.markStale inventoryId time)).2 = .ok n →
    n = (w.store.systems.filter (·.inventoryId == inventoryId)).length ∧
      ∀ r ∈ (w.call (.markStale inventoryId time)).1.store.systems,
        r.inventoryId = inventoryId → r.stale = true
  /-- It clears markers away, and answers how many there were. -/
  clears : ∀ time (n : Nat), (w.call (.pruneDeleted time)).2 = .ok n →
    (w.call (.pruneDeleted time)).1.store.markers.Sublist w.store.markers ∧
      (w.call (.pruneDeleted time)).1.store.markers.length + n = w.store.markers.length
  /-- Repeated it changes nothing more, answered or not. -/
  again : ∀ call answer, (w.call call).2 = .ok answer →
    ((w.call call).1.call call).1.store = (w.call call).1.store
  /-- Refused it changes nothing. -/
  refused : ∀ call why, (w.call call).2 = .error why → (w.call call).1.store = w.store

end Store

namespace World

variable {w : World}

theorem store_call_of_ok {call : Store.Call} {answer : call.Answer}
    (answered : (w.call call).2 = .ok answer) :
    (w.call call).1.store = (w.store.answer call).1 ∧ (w.store.answer call).2 = answer := by
  rcases w.call_cases call with ⟨store, own⟩ | ⟨store, refused⟩
  · exact ⟨store, Except.ok.inj (own.symm.trans answered)⟩
  · exact absurd (refused.symm.trans answered) (by simp)

theorem store_call_of_error {call : Store.Call} {why : Fault}
    (refused : (w.call call).2 = .error why) : (w.call call).1.store = w.store := by
  rcases w.call_cases call with ⟨store, answered⟩ | ⟨store, _⟩
  · exact absurd (answered.symm.trans refused) (by simp)
  · exact store

theorem conduct_of_isSound (sound : w.store.IsSound) : Store.Conduct w where
  marks inventoryId time n answered := by
    obtain ⟨store, count⟩ := store_call_of_ok answered
    constructor
    · rw [← count, ← List.countP_eq_length_filter]
      rfl
    · rw [store]
      intro r mem about
      obtain ⟨old, _, rfl⟩ := List.mem_map.mp mem
      by_cases same : old.inventoryId = inventoryId
      · simp [same]
      · simp [same] at about
  clears time n answered := by
    obtain ⟨store, count⟩ := store_call_of_ok answered
    rw [store, ← count]
    constructor
    · exact List.filter_sublist
    · have split := List.length_eq_countP_add_countP (fun m => m.deletedAt.before time)
        (l := w.store.markers)
      simp only [Bool.not_eq_true, Bool.decide_eq_false] at split
      change (w.store.markers.filter _).length + w.store.markers.countP _ = _
      rw [← List.countP_eq_length_filter, split, Nat.add_comm]
  again call answer answered := by
    obtain ⟨store, _⟩ := store_call_of_ok answered
    rcases (w.call call).1.call_cases call with ⟨again, _⟩ | ⟨again, _⟩
    · rw [again, store, sound.answer_answer]
    · exact again
  refused call why refused := store_call_of_error refused

end World

/-- A store that operations bring about from a blank one. -/
def Store.IsReachable (s : Store) : Prop :=
  ∃ (start : World) (operations : List Operation),
    start.store = {} ∧ (start.operateAll operations).store = s

theorem Store.IsReachable.keeps {s : Store} (reachable : s.IsReachable) :
    s.IsSound ∧ s.IsNumbered := by
  obtain ⟨start, operations, blank, rfl⟩ := reachable
  have sound : start.store.IsSound := blank ▸ isSound_empty
  have numbered : start.store.IsNumbered := blank ▸ isNumbered_empty
  obtain ⟨soundThen, numberedThen, _⟩ := World.keeps_operateAll sound numbered operations
  exact ⟨soundThen, numberedThen⟩

namespace Store.Sample

/-- A world with a blank store that refuses the third call. -/
def world : World where
  clock _ := ⟨0, 0⟩
  outage n := n == 2
  buffer := Buffer.ofCapacity 2 10 1000
  evaluations := { name := "evaluations" }
  audits := { name := "audits" }
  requests := { name := "recalc" }

/-- Two hosts are uploaded, one of which is put on a baseline and uploaded again after it was
deleted. An account is made when it is asked for again, since the first call is refused. -/
def operations : List Operation := [
  .call (.upsertSystem ⟨1, "h", "one", none, none, none, none, ⟨0, 0⟩⟩),
  .setBaseline 1 "h" (some 5),
  .call (.upsertSystem ⟨1, "g", "two", none, none, none, none, ⟨0, 0⟩⟩),
  .call (.upsertAccount "o"),
  .call (.upsertSystem ⟨1, "g", "two", none, none, none, none, ⟨0, 0⟩⟩),
  .call (.markStale "h" ⟨1, 0⟩),
  .look,
  .call (.upsertSystem ⟨1, "h", "three", none, none, none, none, ⟨2, 0⟩⟩),
  .call (.upsertAccount "o")]

end Store.Sample

end FleetRoster
