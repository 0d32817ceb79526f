import FleetRoster.Proofs.Buffer.Conservation

/-!
# The buffer keeps its rule

Whenever nobody holds the lock of the event buffer, its two lists are in step and shorter than its
capacity, they hold the last additions, and its deadline counts from the last of these. So the timer
flushes only what has waited for the idle interval, and an addition returns a report exactly if it
fills the buffer.

A daybook says of each addition when it was made and what it returned, and of each flush why it was
begun, when and with what. The clock by which deadlines are set does not go back.
-/

namespace FleetRoster

open Calendar (Instant)

/-- An addition to the buffer. -/
structure Addition where
  entry : Item × Audit
  time : Nat
  /-- The number of uploads in the buffer with this one. -/
  count : Nat
  /-- What the addition returned. -/
  report : Option FlushReport := none

/-- The beginning of a flush. -/
structure Departure where
  reason : FlushReason
  time : Nat
  /-- What is taken out of the buffer. -/
  batch : List (Item × Audit)
  /-- The additions so far, the first one first. -/
  additions : List Addition

/-- What a flush reports that is over. -/
def Flushed.report (f : Flushed) (batchSize : Nat) : FlushReport where
  items := f.batch.length
  evaluations := if f.evaluated then (f.evaluations batchSize).length else 0
  audits := if f.audited then f.owed.length else 0
  evaluationsFailed := !f.evaluated
  auditsFailed := !f.audited

/-- A desk with what was added and what was begun at it. -/
structure Daybook where
  desk : Desk
  /-- The additions that have returned, the first one first. -/
  returned : List Addition := []
  /-- The addition that has filled the buffer and waits for the flush. -/
  filling : Option Addition := none
  /-- The flushes that were begun, the first one first. -/
  departures : List Departure := []

namespace Daybook

variable (b : Daybook)

/-- The additions that were made, the first one first. -/
def additions : List Addition :=
  b.returned ++ b.filling.toList

/-! ## Steps -/

/-- Begins a flush. -/
def begin (reason : FlushReason) : Daybook :=
  { b with
    desk := b.desk.startFlush reason
    departures := b.departures ++
      [⟨reason, b.desk.world.time, b.desk.world.buffer.entries, b.additions⟩] }

/-- The addition of an entry that has not returned yet. -/
def addition (item : Item) (audit : Audit) : Addition where
  entry := (item, audit)
  time := b.desk.world.time
  count := b.desk.world.buffer.items.length + 1

/-- Adds an entry. The addition returns at once, unless it fills the buffer. -/
def add (item : Item) (audit : Audit) : Daybook :=
  let desk := b.desk.put item audit
  if desk.world.buffer.isFull then
    { b with desk, filling := some (b.addition item audit) }.begin .full
  else { b with desk, returned := b.returned ++ [b.addition item audit] }

/-- The timer checks the deadline once more, and begins a flush if it is over. -/
def check : Daybook :=
  let looking := { b with desk := { b.desk with timer := .looking } }
  if b.desk.world.buffer.isOverdue b.desk.world.time then looking.begin .timeout else looking

/-- Who waits for the flush is given its report. -/
def answer (report : FlushReport) : Daybook :=
  { b with
    returned := b.returned ++ (b.filling.map fun a => { a with report := some report }).toList
    filling := none }

/-- The holder of the lock goes on, if there is one. A flush that is over is reported. -/
def goOn : Daybook :=
  let desk := b.desk.goOn
  match b.desk.turn with
  | .emptying evaluatedAt evaluated auditedAt audited =>
      let f : Flushed := ⟨b.desk.world.buffer.entries, evaluatedAt, evaluated, auditedAt, audited⟩
      { b with desk }.answer (f.report b.desk.world.buffer.batchSize)
  | _ => { b with desk }

/-- What can happen next: a task adds an entry or begins a flush, the holder of the lock goes on, the
timer moves, or something else happens, for which time may pass. -/
inductive Step : Daybook → Daybook → Prop
  | add {b : Daybook} (free : b.desk.turn = .free) (item : Item) (audit : Audit) :
      Step b (b.add item audit)
  | flush {b : Daybook} (free : b.desk.turn = .free) : Step b (b.begin .manual)
  | goOn {b : Daybook} (held : b.desk.turn ≠ .free) : Step b b.goOn
  | timer {b : Daybook} {timer : IdleTimer} {w : World} (asleep : b.desk.timer ≠ .awake)
      (free : b.desk.timer = .looking → b.desk.turn = .free)
      (moves : (timer, w) ∈ b.desk.timer.moves b.desk.world) :
      Step b { b with desk := { b.desk with timer, world := w } }
  | check {b : Daybook} (awake : b.desk.timer = .awake) (free : b.desk.turn = .free) :
      Step b b.check
  | others {b : Daybook} {w : World} (apart : b.desk.world.Apart w)
      (later : b.desk.world.time ≤ w.time) : Step b { b with desk := b.desk.inWorld w }

/-- What can happen in the end. -/
def Reaches : Daybook → Daybook → Prop :=
  Relation.ReflTransGen Step

/-! ## The invariant -/

/-- The buffer holds the last additions, and its deadline is that of the very last. -/
structure Records (limit interval : Nat) (b : Daybook) : Prop where
  capacity : b.desk.world.buffer.capacity = limit
  idleInterval : b.desk.world.buffer.idleInterval = interval
  even : b.desk.world.buffer.IsEven
  entries : b.desk.world.buffer.entries <:+ b.additions.map (·.entry)
  idle : b.desk.world.buffer.deadline = none ↔ b.desk.world.buffer.items = []
  deadline : ∀ due, b.desk.world.buffer.deadline = some due →
    ∃ a, b.additions.getLast? = some a ∧ due = a.time + interval
  past : ∀ a ∈ b.additions, a.time ≤ b.desk.world.time
  ordered : b.additions.Pairwise fun a later => a.time ≤ later.time
  returned : ∀ a ∈ b.returned, (a.report.isSome ↔ a.count = limit) ∧
    ∀ r, a.report = some r → r.items = limit
  timeouts : ∀ f ∈ b.departures, f.reason = .timeout → f.batch ≠ [] ∧
    f.batch <:+ f.additions.map (·.entry) ∧ ∀ a ∈ f.additions, a.time + interval ≤ f.time

/-- Nobody waits while the lock is free, and then there is room for one more. -/
structure Regular (limit interval : Nat) (b : Daybook) : Prop extends Records limit interval b where
  below : b.desk.turn = .free → b.desk.world.buffer.items.length < limit
  filling : ∀ a, b.filling = some a → b.desk.turn ≠ .free ∧ a.count = limit ∧
    b.desk.world.buffer.items.length = limit

variable {b} {limit interval : Nat}

namespace Records

/-- What else goes on changes neither the additions nor the flushes, and the buffer at most by emptying
it. -/
theorem rest (records : b.Records limit interval) {desk : Desk}
    (capacity : desk.world.buffer.capacity = b.desk.world.buffer.capacity)
    (idleInterval : desk.world.buffer.idleInterval = b.desk.world.buffer.idleInterval)
    (waiting : (desk.world.buffer.SameEntries b.desk.world.buffer ∧
        desk.world.buffer.deadline = b.desk.world.buffer.deadline) ∨
      (desk.world.buffer.IsClear ∧ desk.world.buffer.deadline = none))
    (later : b.desk.world.time ≤ desk.world.time) : Records limit interval { b with desk } where
  capacity := capacity.trans records.capacity
  idleInterval := idleInterval.trans records.idleInterval
  even := by
    rcases waiting with ⟨same, _⟩ | ⟨clear, _⟩
    · exact same.isEven records.even
    · exact clear.isEven
  entries := by
    rcases waiting with ⟨same, _⟩ | ⟨clear, _⟩
    · exact same.entries ▸ records.entries
    · exact clear.entries ▸ List.nil_suffix
  idle := by
    rcases waiting with ⟨same, deadline⟩ | ⟨clear, deadline⟩
    · exact same.items ▸ deadline ▸ records.idle
    · exact iff_of_true deadline clear.items
  deadline due stands := by
    rcases waiting with ⟨_, deadline⟩ | ⟨_, deadline⟩
    · exact records.deadline due (deadline.symm.trans stands)
    · rw [deadline] at stands
      contradiction
  past a mem := Nat.le_trans (records.past a mem) later
  ordered := records.ordered
  returned := records.returned
  timeouts := records.timeouts

/-- The very last addition is not earlier than any. -/
theorem le_last (records : b.Records limit interval) {last : Addition}
    (isLast : b.additions.getLast? = some last) : ∀ a ∈ b.additions, a.time ≤ last.time := by
  obtain ⟨earlier, split⟩ := List.getLast?_eq_some_iff.mp isLast
  have ordered := records.ordered
  rw [split, List.pairwise_append] at ordered
  rw [split, List.forall_mem_append, List.forall_mem_singleton]
  exact ⟨fun a mem => ordered.2.2 a mem last (by simp), Nat.le_refl _⟩

/-- When the deadline is over, something waits, and all of it has waited for the idle interval. -/
theorem overdue (records : b.Records limit interval)
    (passed : b.desk.world.buffer.isOverdue b.desk.world.time) :
    b.desk.world.buffer.items ≠ [] ∧
      ∀ a ∈ b.additions, a.time + interval ≤ b.desk.world.time := by
  obtain ⟨due, stands, le⟩ : ∃ due, b.desk.world.buffer.deadline = some due ∧
      due ≤ b.desk.world.time := by
    simpa [Buffer.isOverdue, Option.any_eq_true] using passed
  obtain ⟨last, isLast, rfl⟩ := records.deadline due stands
  constructor
  · intro none
    rw [records.idle.mpr none] at stands
    contradiction
  · intro a mem
    exact Nat.le_trans (Nat.add_le_add_right (records.le_last isLast a mem) interval) le

/-- Without uploads the buffer is clear, with or without its deadline. -/
theorem clear (records : b.Records limit interval)
    (none : b.desk.world.buffer.items.isEmpty) : b.desk.world.buffer.undue.IsClear := by
  have noItems : b.desk.world.buffer.items = [] := List.isEmpty_iff.mp none
  have even : b.desk.world.buffer.items.length = b.desk.world.buffer.audits.length := records.even
  rw [noItems] at even
  exact ⟨noItems, List.length_eq_zero_iff.mp even.symm⟩

/-- The flush that begins takes what waits. -/
theorem begin (records : b.Records limit interval) (reason : FlushReason)
    (timely : reason = .timeout → b.desk.world.buffer.isOverdue b.desk.world.time) :
    (b.begin reason).Records limit interval := by
  have waiting : Records limit interval { b with desk := b.desk.startFlush reason } := by
    unfold Desk.startFlush
    split
    next none => exact records.rest rfl rfl (.inr ⟨records.clear none, rfl⟩) (Nat.le_refl _)
    next => exact records.rest rfl rfl (.inl ⟨.refl _, rfl⟩) (Nat.le_refl _)
  refine { waiting with timeouts := ?_ }
  change ∀ f ∈ b.departures ++ [_], _
  rw [List.forall_mem_append, List.forall_mem_singleton]
  refine ⟨records.timeouts, fun timeout => ?_⟩
  obtain ⟨some, waited⟩ := records.overdue (timely timeout)
  exact ⟨mt records.even.entries_eq_nil_iff.mp some, records.entries, waited⟩

/-- One more addition is recorded. -/
theorem put (records : b.Records limit interval) {b' : Daybook} {a : Addition}
    (desk : b'.desk = b.desk.put a.entry.1 a.entry.2) (time : a.time = b.desk.world.time)
    (additions : b'.additions = b.additions ++ [a]) (departures : b'.departures = b.departures)
    (returned : ∀ a ∈ b'.returned, (a.report.isSome ↔ a.count = limit) ∧
      ∀ r, a.report = some r → r.items = limit) : b'.Records limit interval := by
  constructor
  case capacity => rw [desk]; exact records.capacity
  case idleInterval => rw [desk]; exact records.idleInterval
  case even => rw [desk]; exact records.even.push b.desk.world.time a.entry.1 a.entry.2
  case entries =>
    obtain ⟨gone, split⟩ := records.entries
    refine ⟨gone, ?_⟩
    have put : (b.desk.put a.entry.1 a.entry.2).world.buffer.entries =
        b.desk.world.buffer.entries ++ [a.entry] :=
      records.even.entries_push b.desk.world.time a.entry.1 a.entry.2
    rw [desk, put, additions, List.map_append, ← split, List.append_assoc]
    rfl
  case idle => simp [desk, Desk.put, Buffer.push]
  case deadline =>
    intro due stands
    rw [desk] at stands
    refine ⟨a, by simp [additions], ?_⟩
    rw [← Option.some.inj stands, time, ← records.idleInterval]
  case past =>
    rw [additions, desk, List.forall_mem_append, List.forall_mem_singleton]
    exact ⟨records.past, Nat.le_of_eq time⟩
  case ordered =>
    rw [additions, List.pairwise_append]
    refine ⟨records.ordered, List.pairwise_singleton _ _, fun earlier mem later isLast => ?_⟩
    rw [List.mem_singleton.mp isLast, time]
    exact records.past earlier mem
  case returned => exact returned
  case timeouts => exact departures ▸ records.timeouts

/-- A report makes no difference to when and what was added. -/
theorem answer (records : b.Records limit interval) {report : FlushReport}
    (due : ∀ a, b.filling = some a → a.count = limit ∧ report.items = limit) :
    (b.answer report).Records limit interval := by
  rcases b with ⟨desk, returned, _ | a, departures⟩
  · exact { records with
      entries := by simpa [Daybook.additions, Daybook.answer] using records.entries
      deadline := by simpa [Daybook.additions, Daybook.answer] using records.deadline
      past := by simpa [Daybook.additions, Daybook.answer] using records.past
      ordered := by simpa [Daybook.additions, Daybook.answer] using records.ordered
      returned := by simpa [Daybook.answer] using records.returned }
  · obtain ⟨count, items⟩ := due a rfl
    exact { records with
      entries := by simpa [Daybook.additions, Daybook.answer] using records.entries
      deadline := by simpa [Daybook.additions, Daybook.answer] using records.deadline
      past := by
        have past := records.past
        simp only [Daybook.additions, Option.toList_some, List.forall_mem_append,
          List.forall_mem_singleton] at past
        simpa [Daybook.additions, Daybook.answer, or_imp, forall_and] using past
      ordered := by
        simpa [Daybook.additions, Daybook.answer, List.pairwise_append] using records.ordered
      returned := by
        change ∀ a ∈ returned ++ [_], _
        rw [List.forall_mem_append, List.forall_mem_singleton]
        refine ⟨records.returned, iff_of_true rfl count, ?_⟩
        rintro r ⟨⟩
        exact items }

end Records

namespace Regular

/-- Nobody waits for a flush while the lock is free. -/
theorem nobody (regular : b.Regular limit interval) (free : b.desk.turn = .free) :
    b.filling = none := by
  cases waits : b.filling with
  | none => rfl
  | some a => exact absurd free (regular.filling a waits).1

theorem initial {start : World} {capacity batchSize interval : Nat}
    (fresh : start.buffer = .ofCapacity capacity batchSize interval) :
    Regular (max 1 capacity) interval { desk := { world := start } } := by
  constructor
  · constructor
    case capacity => exact congrArg Buffer.capacity fresh
    case idleInterval => exact congrArg Buffer.idleInterval fresh
    case even =>
      change start.buffer.IsEven
      rw [fresh]
      exact (Buffer.isClear_ofCapacity _ _ _).isEven
    case entries =>
      change start.buffer.entries <:+ []
      rw [fresh]
      exact List.nil_suffix
    case idle =>
      change start.buffer.deadline = none ↔ start.buffer.items = []
      rw [fresh]
      exact iff_of_true rfl rfl
    case deadline =>
      intro due stands
      change start.buffer.deadline = some due at stands
      rw [fresh] at stands
      contradiction
    case past => exact fun a mem => absurd mem List.not_mem_nil
    case ordered => exact List.Pairwise.nil
    case returned => exact fun a mem => absurd mem List.not_mem_nil
    case timeouts => exact fun f mem => absurd mem List.not_mem_nil
  · intro _
    change start.buffer.items.length < _
    rw [fresh]
    exact Nat.lt_of_lt_of_le Nat.zero_lt_one (Nat.le_max_left 1 capacity)
  · intro a waits
    contradiction

/-- A flush begins while the lock is free. -/
theorem begin (regular : b.Regular limit interval) (free : b.desk.turn = .free)
    (reason : FlushReason)
    (timely : reason = .timeout → b.desk.world.buffer.isOverdue b.desk.world.time) :
    (b.begin reason).Regular limit interval := by
  refine ⟨regular.toRecords.begin reason timely, fun _ => ?_, fun a waits => ?_⟩
  · change (b.desk.startFlush reason).world.buffer.items.length < limit
    have room := regular.below free
    unfold Desk.startFlush
    split
    · exact room
    · exact room
  · change b.filling = some a at waits
    rw [regular.nobody free] at waits
    contradiction

/-- Whether one more entry fills the buffer. -/
theorem isFull_put (regular : b.Regular limit interval) (free : b.desk.turn = .free) (item : Item)
    (audit : Audit) : (b.desk.put item audit).world.buffer.isFull ↔
      b.desk.world.buffer.items.length + 1 = limit := by
  have room := regular.below free
  have capacity := regular.capacity
  simp only [Desk.put, Buffer.push, Buffer.isFull, List.length_append, List.length_singleton,
    decide_eq_true_iff]
  omega

/-- One more entry fills the buffer, or leaves room for another. -/
theorem add (regular : b.Regular limit interval) (free : b.desk.turn = .free) (item : Item)
    (audit : Audit) : (b.add item audit).Regular limit interval := by
  have nobody := regular.nobody free
  have room := regular.below free
  have count : (b.desk.put item audit).world.buffer.items.length =
      b.desk.world.buffer.items.length + 1 := by
    simp [Desk.put, Buffer.push]
  have isFull := regular.isFull_put free item audit
  unfold Daybook.add
  dsimp only
  split
  next full =>
    have filled := isFull.mp full
    have recorded : Records limit interval
        { b with desk := b.desk.put item audit, filling := some (b.addition item audit) } :=
      regular.toRecords.put (a := b.addition item audit) rfl rfl
        (by simp [Daybook.additions, nobody]) rfl regular.returned
    have started : (b.desk.put item audit).startFlush .full =
        { b.desk.put item audit with
          world := (b.desk.put item audit).world.note
            (.flushing .full (b.desk.put item audit).world.buffer.items.length
              (b.desk.put item audit).world.buffer.capacity)
          turn := .evaluating } :=
      if_neg (by simp [Desk.put, Buffer.push])
    refine ⟨recorded.begin .full (by simp), fun free => ?_, fun a waits => ?_⟩
    · rw [Daybook.begin, started] at free
      contradiction
    · cases waits
      rw [Daybook.begin, started]
      exact ⟨by simp, filled, count.trans filled⟩
  next notFull =>
    have roomLeft := mt isFull.mpr notFull
    have recorded : Records limit interval
        { b with desk := b.desk.put item audit
                 returned := b.returned ++ [b.addition item audit] } := by
      refine regular.toRecords.put (a := b.addition item audit) rfl rfl
        (by simp [Daybook.additions, nobody]) rfl ?_
      rw [List.forall_mem_append, List.forall_mem_singleton]
      exact ⟨regular.returned, iff_of_false (by simp [addition]) roomLeft, by simp [addition]⟩
    refine ⟨recorded, fun _ => ?_, fun a waits => ?_⟩
    · change (b.desk.put item audit).world.buffer.items.length < limit
      omega
    · change b.filling = some a at waits
      rw [nobody] at waits
      contradiction

/-- The timer begins a flush only when the deadline is over. -/
theorem check (regular : b.Regular limit interval) (free : b.desk.turn = .free) :
    b.check.Regular limit interval := by
  have looking : Regular limit interval { b with desk := { b.desk with timer := .looking } } :=
    { regular with
      toRecords := regular.toRecords.rest rfl rfl (.inl ⟨.refl _, rfl⟩) (Nat.le_refl _) }
  unfold Daybook.check
  dsimp only
  split
  next passed => exact looking.begin free .timeout fun _ => passed
  next notOver => exact looking

/-- While a flush is under way the buffer stays as it is. -/
theorem hold (regular : b.Regular limit interval) {desk : Desk}
    (buffer : desk.world.buffer = b.desk.world.buffer) (time : desk.world.time = b.desk.world.time)
    (still : desk.turn ≠ .free) : Regular limit interval { b with desk } where
  toRecords := by
    apply regular.toRecords.rest
    · rw [buffer]
    · rw [buffer]
    · exact .inl ⟨.of_eq buffer, congrArg _ buffer⟩
    · exact Nat.le_of_eq time.symm
  below free := absurd free still
  filling a waits := by
    obtain ⟨_, count, full⟩ := regular.filling a waits
    exact ⟨still, count, buffer ▸ full⟩

/-- A flush that is over leaves an empty buffer, and who waits for it is answered. -/
theorem empty (regular : b.Regular limit interval) (positive : 0 < limit)
    {evaluatedAt auditedAt : Instant} {evaluated audited : Bool}
    (turn : b.desk.turn = .emptying evaluatedAt evaluated auditedAt audited) :
    b.goOn.Regular limit interval := by
  have goOn : b.goOn =
      Daybook.answer { b with desk := b.desk.empty evaluatedAt evaluated auditedAt audited }
        (Flushed.report ⟨b.desk.world.buffer.entries, evaluatedAt, evaluated, auditedAt, audited⟩
          b.desk.world.buffer.batchSize) := by
    simp only [Daybook.goOn, Desk.goOn, turn]
  rw [goOn]
  have emptied : Records limit interval
      { b with desk := b.desk.empty evaluatedAt evaluated auditedAt audited } :=
    regular.toRecords.rest rfl rfl (.inr ⟨b.desk.world.buffer.isClear_emptied, rfl⟩)
      (Nat.le_refl _)
  refine ⟨emptied.answer fun a waits => ?_, fun _ => positive, ?_⟩
  · obtain ⟨_, count, full⟩ := regular.filling a waits
    exact ⟨count, regular.even.length_entries.trans full⟩
  · intro a waits
    contradiction

/-- The holder of the lock goes on. -/
theorem goOn (regular : b.Regular limit interval) (positive : 0 < limit)
    (held : b.desk.turn ≠ .free) : b.goOn.Regular limit interval := by
  cases turn : b.desk.turn with
  | free => exact absurd turn held
  | evaluating =>
    have goOn : b.goOn = { b with desk := b.desk.evaluate } := by
      simp only [Daybook.goOn, Desk.goOn, turn]
    rw [goOn]
    exact regular.hold b.desk.world.flushItems_spec.2.2.1 b.desk.world.flushItems_time
      (by simp [Desk.evaluate])
  | auditing evaluatedAt evaluated =>
    have goOn : b.goOn = { b with desk := b.desk.audit evaluatedAt evaluated } := by
      simp only [Daybook.goOn, Desk.goOn, turn]
    rw [goOn]
    exact regular.hold b.desk.world.flushAudits_spec.2.2.1 b.desk.world.flushAudits_time
      (by simp [Desk.audit])
  | emptying evaluatedAt evaluated auditedAt audited => exact regular.empty positive turn

/-- The rule is kept in any step. -/
theorem step (regular : b.Regular limit interval) (positive : 0 < limit) {b' : Daybook}
    (step : b.Step b') : b'.Regular limit interval := by
  cases step with
  | add free item audit => exact regular.add free item audit
  | flush free => exact regular.begin free .manual (by simp)
  | goOn held => exact regular.goOn positive held
  | @timer timer w asleep free moves =>
      rcases IdleTimer.moves_spec asleep moves with rfl | rfl
      · exact { regular with
          toRecords := regular.toRecords.rest rfl rfl (.inl ⟨.refl _, rfl⟩) (Nat.le_refl _) }
      · exact { regular with
          toRecords := regular.toRecords.rest rfl rfl (.inl ⟨⟨rfl, rfl⟩, rfl⟩) (Nat.le_refl _) }
  | check awake free => exact regular.check free
  | @others w apart later =>
      have same : (b.desk.inWorld w).world.buffer = b.desk.world.buffer := apart.buffer
      constructor
      · apply regular.toRecords.rest
        · rw [same]
        · rw [same]
        · exact .inl ⟨.of_eq same, congrArg _ same⟩
        · exact later
      · exact fun free => same ▸ regular.below free
      · exact fun a waits => same ▸ regular.filling a waits

/-- The rule is kept in any run. -/
theorem reaches (regular : b.Regular limit interval) (positive : 0 < limit) {b' : Daybook}
    (reaches : b.Reaches b') : b'.Regular limit interval := by
  induction reaches with
  | refl => exact regular
  | tail _ step ih => exact ih.step positive step

end Regular

/-! ## Undisturbed

When nobody comes in between, an addition does what the buffer does in one go, and returns the same.
-/

theorem reaches_goOn (b : Daybook) : b.Reaches b.goOn := by
  by_cases free : b.desk.turn = .free
  · have same : b.goOn = b := by simp only [Daybook.goOn, Desk.goOn, free]
    rw [same]
    exact .refl
  · exact .single (.goOn free)

/-- The report of a flush is made of its batch and of what the topics answered. -/
theorem report_flush (w : World) (reason : FlushReason) (even : w.buffer.IsEven)
    (some : w.buffer.items ≠ []) :
    (w.flush reason).2 =
      let noted := w.note (.flushing reason w.buffer.items.length w.buffer.capacity)
      let sent := noted.flushItems.1
      Flushed.report
        ⟨w.buffer.entries, w.clock w.readings, noted.flushItems.2.toBool,
          sent.clock sent.readings, sent.flushAudits.2.toBool⟩ w.buffer.batchSize := by
  have waiting : w.buffer.items.isEmpty = false := by simpa using some
  have buffer := (w.note (.flushing reason w.buffer.items.length
    w.buffer.capacity)).flushItems_spec.2.2.1
  simp only [World.flush, waiting, Bool.false_eq_true, if_false, Flushed.report,
    World.flushItems_answer, World.flushAudits_answer, Topic.taken_write, World.auditsDue, buffer,
    auditTexts_eq_owed, List.length_map, even.length_entries, Flushed.evaluations, Flushed.owed,
    even.map_entries_fst, even.map_entries_snd, World.evaluationsDue, evaluationTexts]
  rfl

/-- A flush that somebody waits for is reported as the world reports it. -/
theorem reaches_report (free : b.desk.turn = .free) {a : Addition} (waits : b.filling = some a)
    (even : b.desk.world.buffer.IsEven) (some : b.desk.world.buffer.items ≠ []) (reason : FlushReason) :
    ∃ b', (b.begin reason).Reaches b' ∧ b'.desk.turn = .free ∧
      b'.desk.world = (b.desk.world.flush reason).1 ∧
      b'.returned = b.returned ++ [{ a with report := .some (b.desk.world.flush reason).2 }] := by
  have begun : (b.desk.startFlush reason) =
      { b.desk with
        world := b.desk.world.note (.flushing reason b.desk.world.buffer.items.length
          b.desk.world.buffer.capacity)
        turn := .evaluating } :=
    if_neg (by simpa using some)
  have finished := Desk.world_finish free reason
  have buffer : ∀ w : World, w.flushItems.1.flushAudits.1.buffer = w.buffer := by
    intro w
    exact w.flushItems.1.flushAudits_spec.2.2.1.trans w.flushItems_spec.2.2.1
  rw [report_flush _ _ even some]
  rw [begun] at finished
  rw [Daybook.begin, begun]
  refine ⟨_, ((reaches_goOn _).trans (reaches_goOn _)).trans (reaches_goOn _), rfl, finished, ?_⟩
  simp only [Daybook.goOn, Desk.goOn, Desk.evaluate, Desk.audit, Daybook.answer, waits, buffer,
    Option.map_some, Option.toList_some]
  rfl

/-- An undisturbed addition returns what the addition of the world returns. -/
theorem reaches_add (free : b.desk.turn = .free) (even : b.desk.world.buffer.IsEven) (item : Item)
    (audit : Audit) :
    ∃ b', b.Reaches b' ∧ b'.desk.turn = .free ∧
      b'.desk.world = (b.desk.world.add item audit).1 ∧ ∃ a, b'.returned = b.returned ++ [a] ∧
        a.entry = (item, audit) ∧ a.report = (b.desk.world.add item audit).2 := by
  have added := Relation.ReflTransGen.single (Step.add free item audit)
  by_cases full : (b.desk.put item audit).world.buffer.isFull
  · have inWorld := World.add_of_full (w := b.desk.world) full
    have inBook : b.add item audit = Daybook.begin
        { b with desk := b.desk.put item audit, filling := some (b.addition item audit) } .full :=
      if_pos full
    obtain ⟨b', reaches, freed, world, returned⟩ := reaches_report
      (b := { b with desk := b.desk.put item audit, filling := some (b.addition item audit) })
      free rfl (even.push _ item audit) (by simp [Desk.put, Buffer.push]) .full
    rw [inWorld]
    exact ⟨b', (inBook ▸ added).trans reaches, freed, world, _, returned, rfl, rfl⟩
  · have inWorld := World.add_of_not_full (w := b.desk.world) full
    have inBook : b.add item audit =
        { b with desk := b.desk.put item audit
                 returned := b.returned ++ [b.addition item audit] } :=
      if_neg full
    rw [inBook] at added
    rw [inWorld]
    exact ⟨_, added, free, rfl, b.addition item audit, rfl, rfl, rfl⟩

/-! ## Whenever the lock is free -/

/-- What is true whenever nobody holds the lock, of a buffer for so many entries that is idle after so
many milliseconds. -/
structure Abides (limit interval : Nat) (b : Daybook) : Prop where
  /-- There are as many uploads as audit events. -/
  even : b.desk.world.buffer.items.length = b.desk.world.buffer.audits.length
  /-- What has the same place in both was added together, and nothing was added since but what comes
  after it in both. -/
  together : ∃ earlier, earlier + b.desk.world.buffer.items.length = b.returned.length ∧ ∀ k,
    k < b.desk.world.buffer.items.length → ∃ a, b.returned[earlier + k]? = some a ∧
      b.desk.world.buffer.items[k]? = some a.entry.1 ∧
        b.desk.world.buffer.audits[k]? = some a.entry.2
  below : b.desk.world.buffer.items.length < limit
  idle : b.desk.world.buffer.deadline = none ↔ b.desk.world.buffer.items = []
  deadline : b.desk.world.buffer.items ≠ [] → ∃ last, b.returned.getLast? = some last ∧
    b.desk.world.buffer.deadline = some (last.time + interval)
  /-- The timer flushes something, all of which was added the idle interval before, and so was whatever
  else was added by then. -/
  timeouts : ∀ f ∈ b.departures, f.reason = .timeout → f.batch ≠ [] ∧
    f.batch <:+ f.additions.map (·.entry) ∧ ∀ a ∈ f.additions, a.time + interval ≤ f.time
  /-- An addition returned a report exactly if the buffer was full with it. -/
  reports : ∀ a ∈ b.returned, a.report.isSome ↔ a.count = limit
  /-- The next one will if there is room for no more than one. -/
  next : ∀ item audit, (b.desk.world.add item audit).2.isSome ↔
    b.desk.world.buffer.items.length + 1 = limit

/-- What the rule comes to while nobody holds the lock. -/
theorem Regular.abides (regular : b.Regular limit interval) (free : b.desk.turn = .free) :
    b.Abides limit interval := by
  have additions : b.additions = b.returned := by
    simp [Daybook.additions, regular.nobody free]
  have length := regular.even.length_entries
  constructor
  case even => exact regular.even
  case together =>
    obtain ⟨gone, split⟩ := additions ▸ regular.entries
    have total : gone.length + b.desk.world.buffer.entries.length = b.returned.length := by
      rw [← List.length_append, split, List.length_map]
    refine ⟨gone.length, by rw [← length, total], fun k inside => ?_⟩
    rw [← length] at inside
    have at_entries : (b.returned.map (·.entry))[gone.length + k]? =
        some b.desk.world.buffer.entries[k] := by
      rw [← split, List.getElem?_append_right (Nat.le_add_right _ _), Nat.add_sub_cancel_left,
        List.getElem?_eq_getElem inside]
    rw [List.getElem?_map, Option.map_eq_some_iff] at at_entries
    obtain ⟨a, found, same⟩ := at_entries
    refine ⟨a, found, ?_, ?_⟩
    · rw [← regular.even.map_entries_fst, List.getElem?_map, List.getElem?_eq_getElem inside,
        same]
      rfl
    · rw [← regular.even.map_entries_snd, List.getElem?_map, List.getElem?_eq_getElem inside,
        same]
      rfl
  case below => exact regular.below free
  case idle => exact regular.idle
  case deadline =>
    intro some
    obtain ⟨due, stands⟩ := Option.ne_none_iff_exists'.mp (mt regular.idle.mp some)
    obtain ⟨last, isLast, rfl⟩ := regular.deadline due stands
    exact ⟨last, additions ▸ isLast, stands⟩
  case timeouts => exact regular.timeouts
  case reports => exact fun a mem => (regular.returned a mem).1
  case next =>
    intro item audit
    rw [← regular.isFull_put free item audit]
    by_cases full : (b.desk.put item audit).world.buffer.isFull
    · exact iff_of_true (by rw [World.add_of_full full]; rfl) full
    · exact iff_of_false (by rw [World.add_of_not_full full]; simp) full

/-- Wherever any number of tasks and the timer have brought a fresh buffer, it keeps its rule. -/
theorem buffer_abides {start : World} {capacity batchSize interval : Nat}
    (fresh : start.buffer = .ofCapacity capacity batchSize interval)
    (reaches : Reaches { desk := { world := start } } b) (free : b.desk.turn = .free) :
    b.Abides (max 1 capacity) interval :=
  have positive : 0 < max 1 capacity := Nat.lt_of_lt_of_le Nat.zero_lt_one (Nat.le_max_left 1 _)
  ((Regular.initial fresh).reaches positive reaches).abides free

namespace Sample

def adding (b : Daybook) (inventoryId : String) : Daybook :=
  b.add ⟨inventoryId, 1, "o", "r"⟩ (.received inventoryId (some "o") (some "r"))

def atTime (b : Daybook) (time : Nat) : Daybook :=
  { b with desk := b.desk.inWorld { b.desk.world with time } }

def turnedTo (b : Daybook) (timer : IdleTimer) : Daybook :=
  { b with desk := { b.desk with timer } }

/-- An empty buffer for two entries gets one, and the timer waits for its deadline. -/
def waited : Daybook :=
  turnedTo (adding { desk := { world := Desk.Sample.start } } "g") (.asleep 1000)

/-- Another one fills it, whose flush is refused by the topic. -/
def filled : Daybook :=
  (adding (atTime waited 600) "h").goOn.goOn.goOn

/-- A third one comes before the timer wakes, which finds that the deadline has moved. -/
def woken : Daybook :=
  turnedTo (turnedTo (atTime (adding (atTime filled 700) "i") 1000) .awake).check (.asleep 1700)

/-- When that is over, the timer flushes it. -/
def flushed : Daybook :=
  (turnedTo (atTime woken 1700) .awake).check.goOn.goOn.goOn

section

variable {start b : Daybook} (reaches : start.Reaches b)
include reaches

theorem reaches_later {time : Nat} (later : b.desk.world.time ≤ time) :
    start.Reaches (atTime b time) :=
  reaches.tail (.others ⟨rfl, .refl _, .refl _⟩ later)

theorem reaches_asleep {deadline : Nat} (looking : b.desk.timer = .looking)
    (free : b.desk.turn = .free) (stands : b.desk.world.buffer.deadline = some deadline) :
    start.Reaches (turnedTo b (.asleep deadline)) :=
  reaches.tail (.timer (by simp [looking]) (fun _ => free)
    (by simp [looking, IdleTimer.moves, stands]))

theorem reaches_awake {deadline : Nat} (asleep : b.desk.timer = .asleep deadline)
    (passed : deadline ≤ b.desk.world.time) : start.Reaches (turnedTo b .awake) :=
  reaches.tail (.timer (by simp [asleep]) (by simp [asleep])
    (by simp [asleep, IdleTimer.moves, passed]))

theorem reaches_finished : start.Reaches b.goOn.goOn.goOn :=
  ((reaches.trans (reaches_goOn _)).trans (reaches_goOn _)).trans (reaches_goOn _)

end

theorem reaches_filled : Reaches { desk := { world := Desk.Sample.start } } filled := by
  have first : Reaches _ (adding { desk := { world := Desk.Sample.start } } "g") :=
    .single (.add rfl _ _)
  have waits : Reaches _ waited := reaches_asleep first rfl rfl rfl
  have later := reaches_later waits (Nat.zero_le 600)
  have added : Reaches _ (adding (atTime waited 600) "h") := later.tail (.add rfl _ _)
  exact reaches_finished added

theorem reaches_woken : Reaches { desk := { world := Desk.Sample.start } } woken := by
  have later := reaches_later reaches_filled (by decide +kernel : _ ≤ 700)
  have added : Reaches _ (adding (atTime filled 700) "i") :=
    later.tail (.add (by decide +kernel) _ _)
  have passed := reaches_later added (by decide +kernel : _ ≤ 1000)
  have awake := reaches_awake passed (by decide +kernel : _ = IdleTimer.asleep 1000)
    (by decide +kernel)
  have checked := awake.tail (.check rfl (by decide +kernel))
  exact reaches_asleep checked (by decide +kernel) (by decide +kernel) (by decide +kernel)

theorem reaches_flushed : Reaches { desk := { world := Desk.Sample.start } } flushed := by
  have passed := reaches_later reaches_woken (by decide +kernel : _ ≤ 1700)
  have awake := reaches_awake passed rfl (by decide +kernel)
  exact reaches_finished (awake.tail (.check rfl (by decide +kernel)))

end Sample

theorem buffer_abides_sample :
    Sample.flushed.departures.map (fun f => (f.reason, f.time, f.batch.length)) =
        [(.full, 600, 2), (.timeout, 1700, 1)] ∧
      Sample.flushed.returned.map (fun a => (a.time, a.report.isSome)) =
        [(0, false), (600, true), (700, false)] ∧
      Sample.flushed.Abides 2 1000 :=
  ⟨by decide +kernel, by decide +kernel,
    buffer_abides rfl Sample.reaches_flushed (by decide +kernel)⟩

end Daybook

end FleetRoster
