import FleetRoster.Proofs.Outbound.Grouping
import FleetRoster.Proofs.Outbound.Wire
import FleetRoster.Proofs.Flow.Twins
import FleetRoster.Proofs.Requests.Service
import FleetRoster.Proofs.Store.Tables

/-!
# Evaluating a baseline

A request for a baseline of an account sends the active hosts of the account that are on the
baseline, or on none: each once, in the order of their numbers, and no other. So a host that was
deleted is not sent until it is uploaded again, and an active one is sent for exactly one baseline.
-/

namespace FleetRoster

open Calendar (Instant)

/-! ## The hosts on a baseline -/

namespace Store

variable {s : Store} {account : Int} {inventoryId : String} {baseline : Option Int}

/-- The rows of an account that are not stale and on one baseline, or on none, in the order of their
numbers. -/
def activeRows (s : Store) (account : Int) (baseline : Option Int) : List SystemRow :=
  sortByNumber (·.id) (s.systems.filter (·.isActiveOn account baseline))

theorem perm_activeRows (s : Store) (account : Int) (baseline : Option Int) :
    (s.activeRows account baseline).Perm (s.systems.filter (·.isActiveOn account baseline)) :=
  perm_sortByNumber _ _

theorem mem_activeRows {r : SystemRow} : r ∈ s.activeRows account baseline ↔
    r ∈ s.systems ∧ r.account = account ∧ r.stale = false ∧ r.baseline = baseline := by
  rw [(s.perm_activeRows account baseline).mem_iff]
  simp [SystemRow.isActiveOn, and_assoc]

theorem systemsForBaseline_eq (s : Store) (account : Int) (baseline : Option Int) :
    s.systemsForBaseline account baseline =
      (s.activeRows account baseline).map fun r => ⟨r.inventoryId, r.account⟩ :=
  rfl

theorem account_of_mem_systemsForBaseline {target : Target}
    (mem : target ∈ s.systemsForBaseline account baseline) : target.account = account := by
  rw [systemsForBaseline_eq] at mem
  obtain ⟨r, active, rfl⟩ := List.mem_map.mp mem
  exact (mem_activeRows.mp active).2.1

/-- In a sound store no host of an account is twice on a baseline. -/
theorem IsSound.nodup_activeRows (sound : s.IsSound) (account : Int) (baseline : Option Int) :
    ((s.activeRows account baseline).map (·.inventoryId)).Nodup := by
  have keys : (s.activeRows account baseline).map (·.key) =
      ((s.activeRows account baseline).map (·.inventoryId)).map (Prod.mk account) := by
    rw [List.map_map]
    apply List.map_congr_left
    intro r mem
    exact Prod.ext (mem_activeRows.mp mem).2.1 rfl
  have nodup : ((s.activeRows account baseline).map (·.key)).Nodup :=
    ((s.perm_activeRows account baseline).map _).nodup_iff.mpr
      (sound.systemKeys.sublist (List.filter_sublist.map _))
  rw [keys] at nodup
  exact nodup.of_map _

/-- In a sound store the rows on a baseline ascend. -/
theorem IsSound.ascending_activeRows (sound : s.IsSound) (account : Int) (baseline : Option Int) :
    ((s.activeRows account baseline).map (·.id)).Pairwise (· < ·) :=
  ascending_sortByNumber (sound.nodup_activeIds account baseline)

/-- The order in which a sound store keeps its rows does not matter. -/
theorem IsSound.systemsForBaseline_of_perm (sound : s.IsSound) {rows : List SystemRow}
    (perm : rows.Perm s.systems) (account : Int) (baseline : Option Int) :
    ({ s with systems := rows } : Store).systemsForBaseline account baseline =
      s.systemsForBaseline account baseline := by
  have sorted := sortByNumber_eq_of_perm (sound.nodup_activeIds account baseline)
    (perm.filter (·.isActiveOn account baseline)).symm
  rw [systemsForBaseline, systemsForBaseline, sorted]

end Store

namespace World

variable {w : World} {account : Int} {inventoryId : String} {baseline : Option Int}

/-- The messages for a baseline. -/
def forBaseline (w : World) (batchSize : Nat) (account : Int) (baseline : Option Int) :
    List Evaluation :=
  Evaluation.ofTargets (w.store.systemsForBaseline account baseline) batchSize
    (w.clock w.readings)

theorem account_of_mem_forBaseline {batchSize : Nat} {m : Evaluation}
    (mem : m ∈ w.forBaseline batchSize account baseline) : m.account = account := by
  obtain ⟨target, inStore, own⟩ := Evaluation.account_of_mem_ofTargets _ _ _ mem
  exact own.symm.trans (Store.account_of_mem_systemsForBaseline inStore)

theorem timestamp_of_mem_forBaseline {batchSize : Nat} {m : Evaluation}
    (mem : m ∈ w.forBaseline batchSize account baseline) : m.timestamp = w.clock w.readings := by
  rw [forBaseline, Evaluation.ofTargets_eq_map_ofItems _ fun _ => ""] at mem
  obtain ⟨m', uploaded, rfl⟩ := List.mem_map.mp mem
  have stamped : m'.timestamp = w.clock w.readings := Evaluation.timestamp_ofItems _ _ _ uploaded
  exact stamped

/-- The messages for a baseline hold the hosts on it, in the order of their numbers. -/
theorem systems_forBaseline (w : World) (batchSize : Nat) (account : Int)
    (baseline : Option Int) :
    (w.forBaseline batchSize account baseline).flatMap (·.systems) =
      (w.store.activeRows account baseline).map (·.inventoryId) := by
  have messages : (w.forBaseline batchSize account baseline).filter (·.account == account) =
      w.forBaseline batchSize account baseline := by
    rw [List.filter_eq_self]
    intro m mem
    exact beq_iff_eq.mpr (account_of_mem_forBaseline mem)
  have targets : (w.store.systemsForBaseline account baseline).filter (·.account == account) =
      w.store.systemsForBaseline account baseline := by
    rw [List.filter_eq_self]
    intro target mem
    exact beq_iff_eq.mpr (Store.account_of_mem_systemsForBaseline mem)
  have systems := Evaluation.systems_ofTargets (w.store.systemsForBaseline account baseline)
    batchSize (w.clock w.readings) account
  rw [targets, Store.systemsForBaseline_eq, List.map_map] at systems
  rw [← messages]
  exact systems

/-- There are messages exactly where there are rows. -/
theorem forBaseline_eq_nil_iff {batchSize : Nat} :
    w.forBaseline batchSize account baseline = [] ↔
      w.store.activeRows account baseline = [] := by
  constructor
  · intro none
    have systems := w.systems_forBaseline batchSize account baseline
    rw [none, List.flatMap_nil] at systems
    exact List.map_eq_nil_iff.mp systems.symm
  · intro none
    rw [forBaseline, Store.systemsForBaseline_eq, none]
    rfl

/-! ## A request for a baseline -/

/-- Systems are sent in one batch, unless there are none, and whether it is taken or not. -/
theorem runIn_sendRequested (batchSize : Nat) (targets : List Target) (w : World) :
    ((sendRequested batchSize targets).runIn w).2 = .done () ∧
      ((sendRequested batchSize targets).runIn w).1.store = w.store ∧
      ((sendRequested batchSize targets).runIn w).1.requests =
        (w.requests.write (requestTexts targets batchSize (w.clock w.readings))).1 := by
  by_cases none : targets = []
  · subst none
    exact ⟨rfl, rfl, rfl⟩
  · have notEmpty : ¬ targets.isEmpty := by simpa using none
    have requests : (w.sendTargets targets batchSize).1.requests =
        (w.requests.write (requestTexts targets batchSize (w.clock w.readings))).1 :=
      rfl
    have store : (w.sendTargets targets batchSize).1.store = w.store := rfl
    have sends : (Flow.perform (.sendTargets targets batchSize)).run World.perform w =
        ((w.sendTargets targets batchSize).1, .done (w.sendTargets targets batchSize).2) :=
      rfl
    rw [sendRequested, if_neg notEmpty, Flow.runIn, Flow.run_bind, sends]
    generalize w.sendTargets targets batchSize = sent at requests store ⊢
    rcases sent with ⟨w', answer⟩
    cases answer with
    | ok count => exact ⟨rfl, store, requests⟩
    | error why =>
        -- Neither the line of the log nor the count has to do with the store or the topic.
        change Ending.done () = .done () ∧
          ((w'.note (.requestUnsent targets.length why)).countFailedSend .requests).store = w.store ∧
          ((w'.note (.requestUnsent targets.length why)).countFailedSend .requests).requests =
            (w.requests.write (requestTexts targets batchSize (w.clock w.readings))).1
        exact ⟨rfl, store, requests⟩

/-- A call of the store that is attempted. -/
theorem runIn_attemptStore (call : Store.Call) (w : World) :
    (Flow.store call).attempt.runIn w =
      (((w.after (pauseLength w.latency)).call call).1,
        .done ((w.after (pauseLength w.latency)).call call).2) := by
  change (Flow.ofExcept ((w.after (pauseLength w.latency)).call call).2).attempt.runIn
    ((w.after (pauseLength w.latency)).call call).1 = _
  generalize (w.after (pauseLength w.latency)).call call = called
  rcases called with ⟨w', answer⟩
  cases answer <;> rfl

/-- A request for a baseline sends what the store finds, where the store is up. -/
theorem runIn_baseline {w : World} (up : w.outage w.calls = false) (batchSize : Nat)
    (account : Int) (baseline : Option Int) :
    ((processRequest batchSize (.baseline account baseline)).runIn w).2 = .done () ∧
      ((processRequest batchSize (.baseline account baseline)).runIn w).1.store = w.store ∧
      ((processRequest batchSize (.baseline account baseline)).runIn w).1.requests =
        (w.requests.write
          ((w.forBaseline batchSize account baseline).map (·.toValue.text))).1 := by
  have answered : (w.after (pauseLength w.latency)).call (.systemsForBaseline account baseline) =
      ({ w.after (pauseLength w.latency) with calls := w.calls + 1 },
        .ok (w.store.systemsForBaseline account baseline)) := by
    unfold World.call
    rw [if_neg (by simp [World.after, up])]
    rfl
  have looked := runIn_attemptStore (.systemsForBaseline account baseline) w
  rw [answered, Flow.runIn] at looked
  rw [processRequest, Flow.runIn, Flow.run_bind, looked]
  exact runIn_sendRequested batchSize (w.store.systemsForBaseline account baseline)
    { w.after (pauseLength w.latency) with calls := w.calls + 1 }

end World

/-- What a topic that is up makes of a batch. -/
theorem Topic.write_of_up {t : Topic} (up : t.outage (t.taken + t.refused) = false)
    (batch : List String) :
    (t.write batch).1 =
      { t with
        messages := t.messages ++ batch
        taken := t.taken + if batch.isEmpty then 0 else 1 } := by
  unfold Topic.write
  cases batch with
  | nil => simp
  | cons first rest => simp [up]

/-! ## Hosts that were deleted -/

namespace Store

/-- Whatever rows there are of a host in an account, they are stale. -/
def Rests (s : Store) (account : Int) (inventoryId : String) : Prop :=
  ∀ r ∈ s.systems, r.account = account → r.inventoryId = inventoryId → r.stale = true

variable {s : Store} {account : Int} {inventoryId : String}

/-- A host that was deleted rests in every account. -/
theorem rests_markStale (s : Store) (account : Int) (inventoryId : String) (time : Instant) :
    (s.markStale inventoryId time).1.Rests account inventoryId := by
  intro r mem _ about
  obtain ⟨old, _, rfl⟩ := List.mem_map.mp mem
  by_cases same : old.inventoryId = inventoryId
  · simp [same]
  · simp [same] at about

theorem Rests.of_eq {s' : Store} (rests : s.Rests account inventoryId)
    (same : s'.systems = s.systems) : s'.Rests account inventoryId := by
  rw [Rests, same]
  exact rests

/-- It rests as long as rows only change in place and none that is stale is revived. -/
theorem Rests.mapSystems (rests : s.Rests account inventoryId) {change : SystemRow → SystemRow}
    (key : ∀ r, (change r).key = r.key) (stale : ∀ r, r.stale = true → (change r).stale = true) :
    ({ s with systems := s.systems.map change } : Store).Rests account inventoryId := by
  intro r mem own about
  obtain ⟨old, inTable, rfl⟩ := List.mem_map.mp mem
  obtain ⟨sameAccount, sameHost⟩ := Prod.mk.inj (key old)
  exact stale old (rests old inTable (sameAccount.symm.trans own) (sameHost.symm.trans about))

theorem Rests.answer (rests : s.Rests account inventoryId) (call : Call)
    (other : ∀ u, call = .upsertSystem u → u.account = account →
      u.inventoryId ≠ inventoryId) : (s.answer call).1.Rests account inventoryId := by
  cases call with
  | upsertAccount org => exact rests.of_eq (s.upsertAccount_systems org)
  | upsertSystem u =>
      intro r mem own about
      rcases mem_upsertSystem mem with rfl | old
      · obtain ⟨written, writtenHost⟩ := key_of_system? (s.system?_upsertSystem u)
        exact absurd (writtenHost.symm.trans about) (other u rfl (written.symm.trans own))
      · exact rests r old own about
  | upsertDeleted deleted time => exact rests.of_eq (s.upsertMarker_systems deleted time)
  | markStale deleted time =>
      apply rests.mapSystems
      · intro r
        split <;> rfl
      · intro r stale
        split
        next => rfl
        next => exact stale
  | _ => exact rests

end Store

namespace World

variable {account : Int} {inventoryId : String}

/-- An upload that is answered revives its host. -/
def Revives (w : World) (account : Int) (inventoryId : String) (operation : Store.Operation) :
    Prop :=
  ∃ u row, operation = .call (.upsertSystem u) ∧ u.account = account ∧
    u.inventoryId = inventoryId ∧ (w.call (.upsertSystem u)).2 = .ok row

/-- None of some operations, each in the world that those before it have led to, revives a host. -/
def Dormant (account : Int) (inventoryId : String) : World → List Store.Operation → Prop
  | _, [] => True
  | w, operation :: rest =>
    ¬ w.Revives account inventoryId operation ∧
      (w.operate operation).Dormant account inventoryId rest

theorem rests_operate {w : World} (rests : w.store.Rests account inventoryId)
    {operation : Store.Operation} (dormant : ¬ w.Revives account inventoryId operation) :
    (w.operate operation).store.Rests account inventoryId := by
  cases operation with
  | call call =>
      rcases w.call_cases call with ⟨store, answered⟩ | ⟨store, _⟩
      · rw [operate, store]
        apply rests.answer
        rintro u rfl own about
        exact dormant ⟨u, _, rfl, own, about, answered⟩
      · exact rests.of_eq (congrArg Store.systems store)
  | setBaseline account inventoryId baseline =>
      rw [operate, Store.setBaseline_fst]
      apply rests.mapSystems
      · intro r
        split <;> rfl
      · intro r stale
        split <;> exact stale
  | setFailing on => exact rests
  | look => exact rests

/-- A host rests as long as nothing revives it. -/
theorem rests_operateAll {w : World} (rests : w.store.Rests account inventoryId)
    {operations : List Store.Operation} (dormant : w.Dormant account inventoryId operations) :
    (w.operateAll operations).store.Rests account inventoryId := by
  induction operations generalizing w with
  | nil => exact rests
  | cons operation rest ih => exact ih (rests_operate rests dormant.1) dormant.2

/-- A host that rests is not sent for any baseline. -/
theorem notMem_forBaseline_of_rests {w : World} (rests : w.store.Rests account inventoryId)
    (batchSize : Nat) (baseline : Option Int) :
    inventoryId ∉ (w.forBaseline batchSize account baseline).flatMap (·.systems) := by
  rw [systems_forBaseline]
  intro mem
  obtain ⟨r, active, about⟩ := List.mem_map.mp mem
  obtain ⟨inTable, own, awake, _⟩ := Store.mem_activeRows.mp active
  exact absurd (rests r inTable own about) (by simp [awake])

/-- In a sound store an active host is sent for its baseline and for no other. -/
theorem mem_forBaseline_iff {w : World} (sound : w.store.IsSound) {r : SystemRow}
    (mem : r ∈ w.store.systems) (active : r.stale = false) (batchSize : Nat)
    (baseline : Option Int) :
    r.inventoryId ∈ (w.forBaseline batchSize r.account baseline).flatMap (·.systems) ↔
      baseline = r.baseline := by
  rw [systems_forBaseline, List.mem_map]
  constructor
  · rintro ⟨r', active', about⟩
    obtain ⟨inTable, own, _, placed⟩ := Store.mem_activeRows.mp active'
    have same : r' = r :=
      List.inj_on_of_nodup_map sound.systemKeys inTable mem (Prod.ext own about)
    rw [← placed, same]
  · rintro rfl
    exact ⟨r, Store.mem_activeRows.mpr ⟨mem, rfl, active, rfl⟩, rfl⟩

/-- What the work on a request for a baseline comes to. -/
structure Recalculates (w : World) (batchSize : Nat) (account : Int) (baseline : Option Int) :
    Prop where
  ends : ((processRequest batchSize (.baseline account baseline)).runIn w).2 = .done ()
  store : ((processRequest batchSize (.baseline account baseline)).runIn w).1.store = w.store
  /-- The topic takes the messages for the baseline in one batch. -/
  written : ((processRequest batchSize (.baseline account baseline)).runIn w).1.requests =
    { w.requests with
      messages := w.requests.messages ++
        (w.forBaseline batchSize account baseline).map (·.toValue.text)
      taken := w.requests.taken +
        if w.store.activeRows account baseline = [] then 0 else 1 }
  accounts : ∀ m ∈ w.forBaseline batchSize account baseline, m.account = account
  /-- They hold the hosts on it, each once; without any there are none. -/
  systems : (w.forBaseline batchSize account baseline).flatMap (·.systems) =
    (w.store.activeRows account baseline).map (·.inventoryId)
  once : ((w.forBaseline batchSize account baseline).flatMap (·.systems)).Nodup
  nothing : w.forBaseline batchSize account baseline = [] ↔
    w.store.activeRows account baseline = []
  /-- These are the rows that are active, in the order of their numbers. -/
  active : ∀ r, r ∈ w.store.activeRows account baseline ↔
    r ∈ w.store.systems ∧ r.account = account ∧ r.stale = false ∧ r.baseline = baseline
  order : ((w.store.activeRows account baseline).map (·.id)).Pairwise (· < ·)
  /-- The store may keep its rows in any order. -/
  unordered : ∀ rows : List SystemRow, rows.Perm w.store.systems →
    ({ w.store with systems := rows } : Store).systemsForBaseline account baseline =
      w.store.systemsForBaseline account baseline
  /-- Who reads the topic finds these messages behind those that it held. -/
  read : ∀ before, w.requests.payloads Evaluation.decode = .ok before →
    -2 ^ 31 ≤ account ∧ account < 2 ^ 31 → (w.clock w.readings).ReadsBack →
      ((processRequest batchSize (.baseline account baseline)).runIn w).1.requests.payloads
        Evaluation.decode = .ok (before ++ w.forBaseline batchSize account baseline)

theorem recalculates {w : World} (sound : w.store.IsSound)
    (storeUp : w.outage w.calls = false)
    (topicUp : w.requests.outage (w.requests.taken + w.requests.refused) = false)
    (batchSize : Nat) (account : Int) (baseline : Option Int) :
    w.Recalculates batchSize account baseline where
  ends := (runIn_baseline storeUp batchSize account baseline).1
  store := (runIn_baseline storeUp batchSize account baseline).2.1
  written := by
    rw [(runIn_baseline storeUp batchSize account baseline).2.2, Topic.write_of_up topicUp]
    simp only [List.isEmpty_map, List.isEmpty_iff, forBaseline_eq_nil_iff]
  accounts _ mem := account_of_mem_forBaseline mem
  systems := w.systems_forBaseline batchSize account baseline
  once := by
    rw [systems_forBaseline]
    exact sound.nodup_activeRows account baseline
  nothing := forBaseline_eq_nil_iff
  active _ := Store.mem_activeRows
  order := sound.ascending_activeRows account baseline
  unordered _ perm := sound.systemsForBaseline_of_perm perm account baseline
  read before held word instant := by
    have reads : ∀ m ∈ w.forBaseline batchSize account baseline,
        Json.decode Evaluation.decode (Text.payload m.toValue.text) = .ok m := by
      intro m mem
      apply Evaluation.decode_payload
      constructor
      · rw [account_of_mem_forBaseline mem]
        exact word
      · rw [timestamp_of_mem_forBaseline mem]
        exact instant
    apply Topic.payloads_of_messages held reads
    rw [(runIn_baseline storeUp batchSize account baseline).2.2, Topic.write_of_up topicUp]

end World

/-- A request for a baseline sends the active hosts on it. So a host that was deleted is not sent for
any baseline until it is revived, and an active one is sent for exactly one. The keyed tables of the
store find the same hosts, in whichever order they are read. -/
theorem baselines_recalculated {w : World} (reachable : w.store.IsReachable)
    (storeUp : w.outage w.calls = false)
    (topicUp : w.requests.outage (w.requests.taken + w.requests.refused) = false)
    (batchSize : Nat) (account : Int) (baseline : Option Int) :
    w.Recalculates batchSize account baseline ∧
      (∀ inventoryId time later,
        (w.operate (.call (.markStale inventoryId time))).Dormant account inventoryId later →
          ∀ assigned, inventoryId ∉ (((w.operate (.call (.markStale inventoryId time))).operateAll
            later).forBaseline batchSize account assigned).flatMap (·.systems)) ∧
      (∀ r ∈ w.store.systems, r.stale = false → ∃! assigned,
        r.inventoryId ∈ (w.forBaseline batchSize r.account assigned).flatMap (·.systems)) ∧
      ∀ t : Tables, t.Keeps w.store →
        t.systemsForBaseline account baseline = w.store.systemsForBaseline account baseline := by
  obtain ⟨sound, _⟩ := reachable.keeps
  refine ⟨World.recalculates sound storeUp topicUp batchSize account baseline, ?_, ?_, ?_⟩
  · intro inventoryId time later dormant assigned
    have marked : (w.operate (.call (.markStale inventoryId time))).store =
        (w.store.markStale inventoryId time).1 := by
      rw [World.operate, World.call, if_neg (by simp [storeUp])]
      rfl
    have rests : (w.operate (.call (.markStale inventoryId time))).store.Rests account
        inventoryId := by
      rw [marked]
      exact w.store.rests_markStale account inventoryId time
    exact World.notMem_forBaseline_of_rests (World.rests_operateAll rests dormant) batchSize
      assigned
  · intro r mem active
    refine ⟨r.baseline, (World.mem_forBaseline_iff sound mem active batchSize _).mpr rfl, ?_⟩
    intro assigned sent
    exact (World.mem_forBaseline_iff sound mem active batchSize assigned).mp sent
  · intro t keeps
    exact keeps.represents.systemsForBaseline sound account baseline

/-- One of the two hosts of the account is on the baseline, and is found in the topic. -/
theorem baselines_recalculated_sample :
    (Store.Sample.world.operateAll Store.Sample.operations).Recalculates 10 1 (some 5) ∧
      ((processRequest 10 (.baseline 1 (some 5))).runIn
          (Store.Sample.world.operateAll Store.Sample.operations)).1.requests.payloads
        Evaluation.decode = .ok [⟨⟨0, 0⟩, 1, none, ["h"], []⟩] := by
  obtain ⟨recalculates, _, _, _⟩ := baselines_recalculated
    ⟨Store.Sample.world, Store.Sample.operations, rfl, rfl⟩ rfl rfl 10 1 (some 5)
  have sent : (Store.Sample.world.operateAll Store.Sample.operations).forBaseline 10 1 (some 5) =
      [⟨⟨0, 0⟩, 1, none, ["h"], []⟩] := by
    decide +kernel
  refine ⟨recalculates, ?_⟩
  rw [recalculates.read [] rfl (by decide) (Instant.readsBack_of_whole (by decide) rfl), sent]
  rfl

end FleetRoster
