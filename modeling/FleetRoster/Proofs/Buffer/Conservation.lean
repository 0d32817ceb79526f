import Mathlib.Data.List.Flatten
import FleetRoster.Proofs.Buffer.Desk
import FleetRoster.Proofs.Buffer.Flush
import FleetRoster.Proofs.Outbound.Attempts
import FleetRoster.Proofs.Outbound.Evaluations
import FleetRoster.Proofs.Outbound.Tracked

/-!
# The buffer loses nothing

Whoever adds to the event buffer and whoever flushes it, what was added is what was flushed and what
still waits, in one order. Each flush offers its batch once to either topic, and each topic takes or
refuses what it is offered on its own. The uploads and the audit events are in two lists, which stay
in step, so that a batch has each audit event with its upload.

A flush that is not over has its batch still in the buffer, while its topics may know of it already:
the invariant counts the attempts that the holder of the lock has made so far.
-/

namespace FleetRoster

open Calendar (Instant)

/-- The inventory ids of the uploads of an account. -/
def idsOf (account : Int) (items : List Item) : List String :=
  (items.filter (·.account == account)).map (·.inventoryId)

/-- The systems that messages name for an account. -/
def systemsOf (account : Int) (messages : List Evaluation) : List String :=
  (messages.filter (·.account == account)).flatMap (·.systems)

namespace Flushed

variable (f : Flushed)

/-- The evaluation messages of a flush. -/
def evaluations (batchSize : Nat) : List Evaluation :=
  Evaluation.ofItems (f.batch.map (·.1)) batchSize f.evaluatedAt

/-- The audit events that a flush owes their topic. -/
def owed : List Audit :=
  Audit.owed (f.batch.map (·.2)) f.auditedAt

/-- The attempt of a flush to send its uploads. -/
def evaluation (batchSize : Nat) : Attempt :=
  ⟨(f.evaluations batchSize).map (·.toValue.text), f.evaluated⟩

/-- The attempt of a flush to send the audit events that it owes, if there are any. -/
def audits : List Attempt :=
  Attempt.offered (f.owed.map (·.toValue.text)) f.audited

end Flushed

namespace Turn

/-- The attempt to send the uploads of a batch that was made already. -/
def evaluations (batch : List (Item × Audit)) (batchSize : Nat) : Turn → List Attempt
  | auditing evaluatedAt evaluated | emptying evaluatedAt evaluated _ _ =>
      [⟨evaluationTexts (batch.map (·.1)) batchSize evaluatedAt, evaluated⟩]
  | _ => []

/-- The attempt to send the audit events of a batch that was made already. -/
def audits (batch : List (Item × Audit)) : Turn → List Attempt
  | emptying _ _ auditedAt audited =>
      Attempt.offered ((Audit.owed (batch.map (·.2)) auditedAt).map (·.toValue.text)) audited
  | _ => []

end Turn

/-- Before it is awake, the timer at most takes its note. -/
theorem IdleTimer.moves_spec {timer timer' : IdleTimer} {w w' : World} (asleep : timer ≠ .awake)
    (moves : (timer', w') ∈ timer.moves w) : w' = w ∨ w' = IdleTimer.notice w := by
  cases timer with
  | looking =>
      simp only [IdleTimer.moves] at moves
      split at moves <;> simp_all
  | waiting =>
      simp only [IdleTimer.moves] at moves
      split at moves <;> simp_all
  | asleep deadline =>
      simp only [IdleTimer.moves, List.mem_append] at moves
      rcases moves with moves | moves <;> split at moves <;> simp_all
  | awake => contradiction

/-- Uploads make messages. -/
theorem evaluationTexts_ne_nil {items : List Item} (some : items ≠ []) (batchSize : Nat)
    (now : Instant) : evaluationTexts items batchSize now ≠ [] := by
  rw [evaluationTexts, Ne, List.map_eq_nil_iff, Evaluation.ofItems_eq_nil_iff]
  exact some

/-- The texts of audit events that are sent are those of what they owe. -/
theorem auditTexts_eq_owed (events : List Audit) (now : Instant) :
    auditTexts events now = (Audit.owed events now).map (·.toValue.text) := by
  rw [auditTexts, Audit.stamped_eq_owed]

namespace Desk

/-! ## The invariant -/

/-- Since a start nothing that was added is lost, and the topics have received what the flushes
offered, those that are over and the one that is not. -/
structure Keeps (start : World) (d : Desk) : Prop where
  batchSize : d.world.buffer.batchSize = start.buffer.batchSize
  even : d.world.buffer.IsEven
  added : d.added = d.flushes.flatMap (·.batch) ++ d.world.buffer.entries
  batches : ∀ f ∈ d.flushes, f.batch ≠ []
  batch : d.turn ≠ .free → d.world.buffer.items ≠ []
  evaluations : start.evaluations.Received d.world.evaluations
    (d.flushes.map (·.evaluation start.buffer.batchSize) ++
      d.turn.evaluations d.world.buffer.entries start.buffer.batchSize)
  audits : start.audits.Received d.world.audits
    (d.flushes.flatMap (·.audits) ++ d.turn.audits d.world.buffer.entries)

namespace Keeps

variable {start : World} {d : Desk}

/-- Nothing is lost at the start. -/
theorem initial (clear : start.buffer.IsClear) : Keeps start { world := start } where
  batchSize := rfl
  even := clear.isEven
  added := clear.entries.symm
  batches := by simp
  batch := fun busy => absurd rfl busy
  evaluations := .refl _
  audits := .refl _

/-- Nothing is lost while nobody touches what waits or the topics. -/
theorem rest (keeps : d.Keeps start) {w : World} (timer : IdleTimer)
    (batchSize : w.buffer.batchSize = d.world.buffer.batchSize)
    (waits : w.buffer.SameEntries d.world.buffer)
    (evaluations : d.world.evaluations.Rests w.evaluations)
    (audits : d.world.audits.Rests w.audits) : Keeps start { d with timer, world := w } where
  batchSize := batchSize.trans keeps.batchSize
  even := waits.isEven keeps.even
  added := by rw [waits.entries]; exact keeps.added
  batches := keeps.batches
  batch := by rw [waits.items]; exact keeps.batch
  evaluations := by rw [waits.entries]; exact keeps.evaluations.rests evaluations
  audits := by rw [waits.entries]; exact keeps.audits.rests audits

/-- Nothing is lost when an entry is put into the buffer. -/
theorem put (keeps : d.Keeps start) (free : d.turn = .free) (item : Item) (audit : Audit) :
    (d.put item audit).Keeps start where
  batchSize := keeps.batchSize
  even := keeps.even.push d.world.time item audit
  added := by
    change d.added ++ [(item, audit)] =
      d.flushes.flatMap (·.batch) ++ (d.world.buffer.push d.world.time item audit).entries
    rw [keeps.added, keeps.even.entries_push, List.append_assoc]
  batches := keeps.batches
  batch := fun busy => absurd free busy
  evaluations := by
    have received := keeps.evaluations
    rw [free] at received
    change Topic.Received _ _ (_ ++ d.turn.evaluations _ _)
    rw [free]
    exact received
  audits := by
    have received := keeps.audits
    rw [free] at received
    change Topic.Received _ _ (_ ++ d.turn.audits _)
    rw [free]
    exact received

/-- Nothing is lost when a flush begins. -/
theorem startFlush (keeps : d.Keeps start) (free : d.turn = .free) (reason : FlushReason) :
    (d.startFlush reason).Keeps start := by
  unfold Desk.startFlush
  split
  next none => exact keeps.rest d.timer rfl ⟨rfl, rfl⟩ (.refl _) (.refl _)
  next some =>
    have evaluations := keeps.evaluations
    have audits := keeps.audits
    rw [free] at evaluations audits
    exact
      { batchSize := keeps.batchSize
        even := keeps.even
        added := keeps.added
        batches := keeps.batches
        batch := fun _ none => some (List.isEmpty_iff.mpr none)
        evaluations := evaluations
        audits := audits }

/-- Nothing is lost when the uploads are sent. -/
theorem evaluate (keeps : d.Keeps start) (turn : d.turn = .evaluating) :
    d.evaluate.Keeps start := by
  obtain ⟨written, audits, buffer, said⟩ := d.world.flushItems_spec
  have some : d.world.buffer.items ≠ [] := keeps.batch (by simp [turn])
  have evaluationsReceived := keeps.evaluations
  have auditsReceived := keeps.audits
  simp only [turn, Turn.evaluations, List.append_nil] at evaluationsReceived
  simp only [turn, Turn.audits, List.append_nil] at auditsReceived
  constructor
  case batchSize => exact (congrArg _ buffer).trans keeps.batchSize
  case even => exact buffer.symm ▸ keeps.even
  case added => exact keeps.added.trans (by rw [Desk.evaluate, buffer])
  case batches => exact keeps.batches
  case batch =>
    intro _
    simpa [Desk.evaluate, buffer] using some
  case evaluations =>
    simp only [Desk.evaluate, written, said, buffer, Turn.evaluations, World.evaluationsDue,
      keeps.batchSize, keeps.even.map_entries_fst]
    exact evaluationsReceived.write (evaluationTexts_ne_nil some _ _)
  case audits =>
    simp only [Desk.evaluate, audits, Turn.audits, List.append_nil]
    exact auditsReceived

/-- Nothing is lost when the audit events are sent. -/
theorem audit (keeps : d.Keeps start) {evaluatedAt : Instant} {evaluated : Bool}
    (turn : d.turn = .auditing evaluatedAt evaluated) :
    (d.audit evaluatedAt evaluated).Keeps start := by
  obtain ⟨written, evaluations, buffer, said⟩ := d.world.flushAudits_spec
  have some : d.world.buffer.items ≠ [] := keeps.batch (by simp [turn])
  have evaluationsReceived := keeps.evaluations
  have auditsReceived := keeps.audits
  simp only [turn, Turn.evaluations] at evaluationsReceived
  simp only [turn, Turn.audits, List.append_nil] at auditsReceived
  constructor
  case batchSize => exact (congrArg _ buffer).trans keeps.batchSize
  case even => exact buffer.symm ▸ keeps.even
  case added => exact keeps.added.trans (by rw [Desk.audit, buffer])
  case batches => exact keeps.batches
  case batch =>
    intro _
    simpa [Desk.audit, buffer] using some
  case evaluations =>
    simp only [Desk.audit, evaluations, buffer, Turn.evaluations]
    exact evaluationsReceived
  case audits =>
    simp only [Desk.audit, written, said, buffer, Turn.audits, World.auditsDue,
      keeps.even.map_entries_snd, ← auditTexts_eq_owed]
    exact auditsReceived.offer _

/-- Nothing is lost when the buffer is emptied: the batch is now a flush that is over. -/
theorem empty (keeps : d.Keeps start) {evaluatedAt auditedAt : Instant} {evaluated audited : Bool}
    (turn : d.turn = .emptying evaluatedAt evaluated auditedAt audited) :
    (d.empty evaluatedAt evaluated auditedAt audited).Keeps start := by
  have some : d.world.buffer.items ≠ [] := keeps.batch (by simp [turn])
  have evaluationsReceived := keeps.evaluations
  have auditsReceived := keeps.audits
  simp only [turn, Turn.evaluations] at evaluationsReceived
  simp only [turn, Turn.audits] at auditsReceived
  constructor
  case batchSize => exact keeps.batchSize
  case even => exact d.world.buffer.isEven_emptied
  case added => simpa [Desk.empty, Buffer.entries_emptied] using keeps.added
  case batches =>
    intro f mem
    rcases List.mem_append.mp mem with old | new
    · exact keeps.batches f old
    · rw [List.mem_singleton.mp new]
      exact mt keeps.even.entries_eq_nil_iff.mp some
  case batch => exact fun busy => absurd rfl busy
  case evaluations =>
    simpa [Desk.empty, Turn.evaluations, Flushed.evaluation, Flushed.evaluations,
      evaluationTexts] using evaluationsReceived
  case audits =>
    simpa [Desk.empty, Turn.audits, Flushed.audits, Flushed.owed] using auditsReceived

/-- Nothing is lost in any step. -/
theorem step {d' : Desk} (keeps : d.Keeps start) (step : d.Step d') : d'.Keeps start := by
  cases step with
  | add free item audit =>
      have kept := keeps.put free item audit
      unfold Desk.add
      split
      · exact kept.startFlush free .full
      · exact kept
  | flush free => exact keeps.startFlush free .manual
  | evaluate turn => exact keeps.evaluate turn
  | audit turn => exact keeps.audit turn
  | empty turn => exact keeps.empty turn
  | @timer timer w asleep free moves =>
      rcases IdleTimer.moves_spec asleep moves with rfl | rfl
      · exact keeps.rest timer rfl (.refl _) (.refl _) (.refl _)
      · exact keeps.rest timer rfl ⟨rfl, rfl⟩ (.refl _) (.refl _)
  | check awake free =>
      have kept : Keeps start { d with timer := .looking } :=
        keeps.rest .looking rfl (.refl _) (.refl _) (.refl _)
      unfold Desk.check
      split
      · exact kept.startFlush free .timeout
      · exact kept
  | others apart =>
      exact keeps.rest d.timer (congrArg _ apart.buffer) (.of_eq apart.buffer)
        apart.evaluations apart.audits

/-- Nothing is lost in any run. -/
theorem reaches {first : Desk} (keeps : first.Keeps start) (reaches : first.Reaches d) :
    d.Keeps start := by
  induction reaches with
  | refl => exact keeps
  | tail _ step ih => exact ih.step step

end Keeps

/-! ## Whenever the lock is free -/

variable (d : Desk)

/-- The evaluation messages that were taken. -/
def sent (batchSize : Nat) : List Evaluation :=
  (d.flushes.filter (·.evaluated)).flatMap (·.evaluations batchSize)

/-- The uploads of the batches whose evaluation messages were taken. -/
def taken : List Item :=
  (d.flushes.filter (·.evaluated)).flatMap fun f => f.batch.map (·.1)

/-- The audit events that were taken. -/
def told : List Audit :=
  (d.flushes.filter (·.audited)).flatMap (·.owed)

/-- The batches that were taken are the texts of the messages that were. -/
theorem flatMap_taken (batchSize : Nat) :
    ((d.flushes.map (·.evaluation batchSize)).filter (·.taken)).flatMap (·.batch) =
      (d.sent batchSize).map (·.toValue.text) := by
  rw [List.filter_map, List.flatMap_map, sent, List.map_flatMap]
  rfl

/-- What was received of the attempts is the texts of the audit events that were taken. -/
theorem flatMap_told :
    ((d.flushes.flatMap (·.audits)).filter (·.taken)).flatMap (·.batch) =
      d.told.map (·.toValue.text) := by
  rw [told, List.filter_flatMap, List.flatMap_assoc, List.map_flatMap]
  induction d.flushes with
  | nil => rfl
  | cons f rest ih =>
      rw [List.flatMap_cons, ih, Flushed.audits, Attempt.flatMap_offered, List.filter_cons]
      split <;> rfl

/-- The messages name the systems of an account in the order of its uploads. -/
theorem systemsOf_sent (batchSize : Nat) (account : Int) :
    systemsOf account (d.sent batchSize) = idsOf account d.taken := by
  simp only [systemsOf, idsOf, sent, taken, List.filter_flatMap, List.flatMap_assoc,
    List.map_flatMap, Flushed.evaluations, Evaluation.systems_ofItems]

theorem taken_sublist : d.taken.Sublist ((d.flushes.flatMap (·.batch)).map (·.1)) := by
  rw [List.map_flatMap, taken]
  exact List.filter_sublist.flatMap _

/-- If no batch was refused, all that was flushed was taken. -/
theorem taken_of_all (all : ∀ f ∈ d.flushes, f.evaluated) :
    d.taken = (d.flushes.flatMap (·.batch)).map (·.1) := by
  rw [List.map_flatMap, taken, List.filter_eq_self.mpr all]

/-- What is true whenever the lock is free: nothing that was added is lost, each flush made one
attempt to send its uploads and one to send the audit events that it owed, if there were any, and the
topics have received what they took, each upload once and those of an account in the order of the
lock. -/
structure Conserves (start : World) (d : Desk) : Prop where
  /-- There are as many uploads as audit events, so that the entries leave out none of them. -/
  even : d.world.buffer.IsEven
  added : d.added = d.flushes.flatMap (·.batch) ++ d.world.buffer.entries
  batches : ∀ f ∈ d.flushes, f.batch ≠ []
  evaluations : start.evaluations.Received d.world.evaluations
    (d.flushes.map (·.evaluation start.buffer.batchSize))
  audits : start.audits.Received d.world.audits (d.flushes.flatMap (·.audits))
  messages : d.world.evaluations.messages =
    start.evaluations.messages ++ (d.sent start.buffer.batchSize).map (·.toValue.text)
  /-- Who reads the topic of the evaluations finds these messages behind what was there. -/
  readMessages : ∀ before, start.evaluations.payloads Evaluation.decode = .ok before →
    (∀ m ∈ d.sent start.buffer.batchSize, m.IsWritable) →
      d.world.evaluations.payloads Evaluation.decode =
        .ok (before ++ d.sent start.buffer.batchSize)
  auditMessages : d.world.audits.messages =
    start.audits.messages ++ d.told.map (·.toValue.text)
  /-- Who reads the topic of the audit events finds those that were taken, whole and in order. -/
  readAudits : ∀ before, start.audits.payloads Audit.decode = .ok before →
    (∀ f ∈ d.flushes, f.auditedAt.ReadsBack) →
      d.world.audits.payloads Audit.decode = .ok (before ++ d.told)
  once : ∀ f ∈ d.flushes, ((f.evaluations start.buffer.batchSize).flatMap (·.uploads)).Perm
    (f.batch.map fun entry => (entry.1.account, entry.1.inventoryId, entry.1.requestId))
  inOrder : ∀ account, systemsOf account (d.sent start.buffer.batchSize) = idsOf account d.taken
  taken : d.taken.Sublist (d.added.map (·.1))
  /-- If none was refused, the topic has all that was added and does not wait any more. -/
  all : (∀ f ∈ d.flushes, f.evaluated) → ∀ account,
    systemsOf account (d.sent start.buffer.batchSize) ++ idsOf account d.world.buffer.items =
      idsOf account (d.added.map (·.1))

/-- Wherever any number of tasks and the timer have brought an empty buffer, it has lost nothing. -/
theorem conserves {start : World} {d : Desk} (clear : start.buffer.IsClear)
    (reaches : Reaches { world := start } d) (free : d.turn = .free) : d.Conserves start := by
  have keeps := (Keeps.initial clear).reaches reaches
  have evaluations := keeps.evaluations
  have audits := keeps.audits
  simp only [free, Turn.evaluations, List.append_nil] at evaluations
  simp only [free, Turn.audits, List.append_nil] at audits
  have messages : d.world.evaluations.messages = start.evaluations.messages ++
      (d.sent start.buffer.batchSize).map (·.toValue.text) := by
    rw [evaluations.messages, flatMap_taken]
  have auditMessages : d.world.audits.messages =
      start.audits.messages ++ d.told.map (·.toValue.text) := by
    rw [audits.messages, flatMap_told]
  constructor
  case even => exact keeps.even
  case added => exact keeps.added
  case batches => exact keeps.batches
  case evaluations => exact evaluations
  case audits => exact audits
  case messages => exact messages
  case readMessages =>
    intro before held writable
    exact Topic.payloads_of_messages held (fun m mem => Evaluation.decode_payload (writable m mem))
      messages
  case auditMessages => exact auditMessages
  case readAudits =>
    intro before held dates
    refine Topic.payloads_of_messages held (fun e mem => ?_) auditMessages
    obtain ⟨f, taken, mem⟩ := List.mem_flatMap.mp mem
    obtain ⟨event, _, _, rfl⟩ := Audit.mem_owed.mp mem
    exact Audit.decode_payload (event.isWritable_dated (dates f (List.mem_of_mem_filter taken)))
  case once =>
    intro f _
    simpa [Flushed.evaluations, Function.comp_def] using
      Evaluation.uploads_ofItems (f.batch.map (·.1)) start.buffer.batchSize f.evaluatedAt
  case inOrder => exact d.systemsOf_sent _
  case taken =>
    apply d.taken_sublist.trans
    rw [keeps.added, List.map_append]
    exact List.sublist_append_left _ _
  case all =>
    intro every account
    rw [d.systemsOf_sent, d.taken_of_all every, keeps.added, List.map_append,
      keeps.even.map_entries_fst]
    simp [idsOf]

namespace Sample

/-- An empty buffer for two entries, whose first batch of evaluation messages is refused. -/
def start : World where
  clock n := ⟨n, 0⟩
  buffer := Buffer.ofCapacity 2 10 1000
  evaluations := { name := "evaluations", outage := (· == 0) }
  audits := { name := "audits" }
  requests := { name := "requests" }

/-- An upload with its audit event is added, with or without a request. -/
def adding (d : Desk) (inventoryId : String) (request : Option String) : Desk :=
  d.add ⟨inventoryId, 1, "o", request.getD ""⟩ (.received inventoryId (some "o") request)

/-- Two entries fill the buffer. -/
def filled : Desk :=
  (adding (adding { world := start } "g" (some "r")) "h" none).finish

/-- A third one is flushed by hand. -/
def flushed : Desk :=
  ((adding filled "i" (some "s")).startFlush .manual).finish

theorem reached : Reaches { world := start } flushed := by
  have first : Reaches { world := start } (adding { world := start } "g" (some "r")) :=
    .single (.add rfl _ _)
  have second : Reaches { world := start } filled :=
    (first.tail (.add rfl _ _)).trans (reaches_finish _)
  have third : Reaches { world := start } (adding filled "i" (some "s")) :=
    second.tail (.add (turn_finish _) _ _)
  exact (third.tail (.flush (by decide +kernel))).trans (reaches_finish _)

/-- The audit event of an upload that was sent at a second. -/
def sentAt (inventoryId request : String) (second : Nat) : Audit :=
  (Audit.received inventoryId (some "o") (some request)).dated ⟨second, 0⟩

theorem told_flushed : flushed.told = [sentAt "g" "r" 1, sentAt "i" "s" 3] := by
  decide +kernel

theorem readsBack_auditedAt : ∀ f ∈ flushed.flushes, f.auditedAt.ReadsBack := by
  have times : ∀ f ∈ flushed.flushes, f.auditedAt.isRepresentable ∧ f.auditedAt.nano = 0 := by
    decide +kernel
  intro f mem
  obtain ⟨representable, whole⟩ := times f mem
  exact Instant.readsBack_of_whole representable whole

end Sample

/-- The uploads of the first batch are refused, while the one audit event that it owes is taken. -/
theorem conserves_sample :
    Sample.flushed.flushes.map (fun f => (f.batch.map (·.1.inventoryId), f.evaluated)) =
        [(["g", "h"], false), (["i"], true)] ∧
      Sample.flushed.world.audits.payloads Audit.decode =
        .ok [Sample.sentAt "g" "r" 1, Sample.sentAt "i" "s" 3] ∧
      Sample.flushed.Conserves Sample.start := by
  have conserves := conserves ⟨rfl, rfl⟩ Sample.reached (turn_finish _)
  refine ⟨by decide +kernel, ?_, conserves⟩
  rw [conserves.readAudits [] rfl Sample.readsBack_auditedAt, Sample.told_flushed]
  rfl

end Desk

end FleetRoster
