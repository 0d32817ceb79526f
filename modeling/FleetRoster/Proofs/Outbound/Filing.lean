import FleetRoster.Proofs.Outbound.Mailroom

/-!
# What the buffer puts on record

The flushes of the event buffer among the calls of all senders. Where others send as well, the
topics tell less about the buffer, but its records do not: what was added is in one flush or still
waits, and the calls that were made on behalf of the buffer are those of its flushes, of the ones
that are over and of the one that is not.
-/

namespace FleetRoster

/-- The entry that an effect puts into the buffer. -/
def Effect.entry? : Effect → Option (Item × Audit)
  | .buffer item audit => some (item, audit)
  | _ => none

/-- An effect that adds nothing to the buffer leaves it as it is. -/
theorem World.buffer_happen {effect : Effect} (other : ¬ effect.IsAddition) (w : World) :
    (World.happen effect w).1.buffer = w.buffer := by
  cases effect with
  | buffer item audit => exact absurd trivial other
  | next series => cases series <;> rfl
  | store call =>
      change (w.call call).1.buffer = w.buffer
      unfold World.call
      split <;> rfl
  | remember org account =>
      change (w.remember org account).1.buffer = w.buffer
      unfold World.remember
      split <;> rfl
  | _ => rfl

namespace Desk

variable {start : World} {d d' d'' : Desk}

/-! ## Records -/

/-- The attempts that flushes have made to send uploads. -/
def evaluationsMade (d : Desk) (batchSize : Nat) : List Attempt :=
  d.flushes.map (·.evaluation batchSize) ++
    d.turn.evaluations d.world.buffer.entries batchSize

/-- The attempts that flushes have made to send audit events. -/
def auditsMade (d : Desk) : List Attempt :=
  d.flushes.flatMap (·.audits) ++ d.turn.audits d.world.buffer.entries

/-- What was added was flushed in batches or still waits, and nobody flushes nothing. -/
structure Files (start : World) (d : Desk) : Prop where
  batchSize : d.world.buffer.batchSize = start.buffer.batchSize
  even : d.world.buffer.IsEven
  added : d.added = d.flushes.flatMap (·.batch) ++ d.world.buffer.entries
  batches : ∀ f ∈ d.flushes, f.batch ≠ []
  batch : d.turn ≠ .free → d.world.buffer.items ≠ []

/-- From one desk to another these entries were added and these calls made on behalf of the
buffer. -/
structure Records (start : World) (d : Desk) (calls : List (Channel × Attempt))
    (entered : List (Item × Audit)) (d' : Desk) : Prop where
  files : d'.Files start
  evaluations : d'.evaluationsMade start.buffer.batchSize =
    d.evaluationsMade start.buffer.batchSize ++ attemptsOn .evaluations calls
  audits : d'.auditsMade = d.auditsMade ++ attemptsOn .audits calls
  added : d'.added = d.added ++ entered

theorem Records.trans {calls more : List (Channel × Attempt)}
    {entered further : List (Item × Audit)} (first : Records start d calls entered d')
    (second : Records start d' more further d'') :
    Records start d (calls ++ more) (entered ++ further) d'' where
  files := second.files
  evaluations := by
    rw [second.evaluations, first.evaluations, attemptsOn_append, List.append_assoc]
  audits := by rw [second.audits, first.audits, attemptsOn_append, List.append_assoc]
  added := by rw [second.added, first.added, List.append_assoc]

namespace Files

theorem initial (clear : start.buffer.IsClear) : Files start { world := start } where
  batchSize := rfl
  even := clear.isEven
  added := clear.entries.symm
  batches := by simp
  batch := fun busy => absurd rfl busy

/-! ## The lock is free -/

/-- Where the flushes and the entries are the same, nothing is put on record. -/
theorem rest (files : d.Files start) (timer : IdleTimer) {w : World}
    (batchSize : w.buffer.batchSize = d.world.buffer.batchSize)
    (waits : w.buffer.SameEntries d.world.buffer) :
    Records start d [] [] { d with timer, world := w } where
  files :=
    { batchSize := batchSize.trans files.batchSize
      even := waits.isEven files.even
      added := by rw [waits.entries]; exact files.added
      batches := files.batches
      batch := by rw [waits.items]; exact files.batch }
  evaluations := by
    simp only [evaluationsMade, waits.entries]
    exact (List.append_nil _).symm
  audits := by
    simp only [auditsMade, waits.entries]
    exact (List.append_nil _).symm
  added := (List.append_nil _).symm

theorem put (files : d.Files start) (free : d.turn = .free) (item : Item) (audit : Audit) :
    Records start d [] [(item, audit)] (d.put item audit) where
  files :=
    { batchSize := files.batchSize
      even := files.even.push d.world.time item audit
      added := by
        change d.added ++ [(item, audit)] =
          d.flushes.flatMap (·.batch) ++ (d.world.buffer.push d.world.time item audit).entries
        rw [files.added, files.even.entries_push, List.append_assoc]
      batches := files.batches
      batch := fun busy => absurd free busy }
  evaluations := by simp [evaluationsMade, Desk.put, free, Turn.evaluations, attemptsOn]
  audits := by simp [auditsMade, Desk.put, free, Turn.audits, attemptsOn]
  added := rfl

theorem startFlush (files : d.Files start) (free : d.turn = .free) (reason : FlushReason) :
    Records start d [] [] (d.startFlush reason) := by
  unfold Desk.startFlush
  split
  next none => exact files.rest d.timer rfl ⟨rfl, rfl⟩
  next some =>
    constructor
    case files =>
      exact ⟨files.batchSize, files.even, files.added, files.batches,
        fun _ none => some (List.isEmpty_iff.mpr none)⟩
    case evaluations => simp [evaluationsMade, free, Turn.evaluations, attemptsOn]
    case audits => simp [auditsMade, free, Turn.audits, attemptsOn]
    case added => exact (List.append_nil _).symm

theorem add (files : d.Files start) (free : d.turn = .free) (item : Item) (audit : Audit) :
    Records start d [] [(item, audit)] (d.add item audit) := by
  have put := files.put free item audit
  unfold Desk.add
  split
  · exact put.trans (put.files.startFlush free .full)
  · exact put

/-! ## The lock is taken -/

theorem evaluate (files : d.Files start) (turn : d.turn = .evaluating) :
    Records start d (callOf .evaluations d.world.evaluationsDue d.world.flushItems.2.toBool) []
      d.evaluate := by
  obtain ⟨_, _, buffer, _⟩ := d.world.flushItems_spec
  have some : d.world.buffer.items ≠ [] := files.batch (by simp [turn])
  constructor
  case files =>
    constructor
    case batchSize => exact (congrArg _ buffer).trans files.batchSize
    case even => exact buffer.symm ▸ files.even
    case added => exact files.added.trans (by rw [Desk.evaluate, buffer])
    case batches => exact files.batches
    case batch =>
      intro _
      simpa [Desk.evaluate, buffer] using some
  case evaluations =>
    have offered := evaluationTexts_ne_nil some start.buffer.batchSize
      (d.world.clock d.world.readings)
    simp [evaluationsMade, Desk.evaluate, buffer, turn, Turn.evaluations, attemptsOn_callOf,
      Attempt.offered, offered, World.evaluationsDue, files.batchSize, files.even.map_entries_fst]
  case audits =>
    simp [auditsMade, Desk.evaluate, turn, Turn.audits, attemptsOn_callOf]
  case added => exact (List.append_nil _).symm

theorem audit (files : d.Files start) {evaluatedAt : Calendar.Instant} {evaluated : Bool}
    (turn : d.turn = .auditing evaluatedAt evaluated) :
    Records start d (callOf .audits d.world.auditsDue d.world.flushAudits.2.toBool) []
      (d.audit evaluatedAt evaluated) := by
  obtain ⟨_, _, buffer, _⟩ := d.world.flushAudits_spec
  have some : d.world.buffer.items ≠ [] := files.batch (by simp [turn])
  constructor
  case files =>
    constructor
    case batchSize => exact (congrArg _ buffer).trans files.batchSize
    case even => exact buffer.symm ▸ files.even
    case added => exact files.added.trans (by rw [Desk.audit, buffer])
    case batches => exact files.batches
    case batch =>
      intro _
      simpa [Desk.audit, buffer] using some
  case evaluations =>
    simp [evaluationsMade, Desk.audit, buffer, turn, Turn.evaluations, attemptsOn_callOf]
  case audits =>
    simp [auditsMade, Desk.audit, buffer, turn, Turn.audits, attemptsOn_callOf, World.auditsDue,
      auditTexts_eq_owed, files.even.map_entries_snd]
  case added => exact (List.append_nil _).symm

theorem empty (files : d.Files start) {evaluatedAt auditedAt : Calendar.Instant}
    {evaluated audited : Bool} (turn : d.turn = .emptying evaluatedAt evaluated auditedAt audited) :
    Records start d [] [] (d.empty evaluatedAt evaluated auditedAt audited) := by
  have some : d.world.buffer.items ≠ [] := files.batch (by simp [turn])
  constructor
  case files =>
    constructor
    case batchSize => exact files.batchSize
    case even => exact d.world.buffer.isEven_emptied
    case added => simpa [Desk.empty, Buffer.entries_emptied] using files.added
    case batches =>
      intro f mem
      rcases List.mem_append.mp mem with old | new
      · exact files.batches f old
      · rw [List.mem_singleton.mp new]
        exact mt files.even.entries_eq_nil_iff.mp some
    case batch => exact fun busy => absurd rfl busy
  case evaluations =>
    simp [evaluationsMade, Desk.empty, turn, Turn.evaluations, Flushed.evaluation,
      Flushed.evaluations, evaluationTexts, attemptsOn]
  case audits =>
    simp [auditsMade, Desk.empty, turn, Turn.audits, Flushed.audits, Flushed.owed, attemptsOn]
  case added => exact (List.append_nil _).symm

/-! ## Whatever happens -/

theorem works (files : d.Files start) {calls : List (Channel × Attempt)}
    (works : d.Works calls d') : Records start d calls [] d' := by
  cases works with
  | flush free => exact files.startFlush free .manual
  | goOn =>
      unfold Desk.goOn callsDue
      cases turn : d.turn with
      | free => exact files.rest d.timer rfl (.refl _)
      | evaluating => exact files.evaluate turn
      | auditing evaluatedAt evaluated => exact files.audit turn
      | emptying _ _ _ _ => exact files.empty turn
  | @timer timer w asleep free moves =>
      rcases IdleTimer.moves_spec asleep moves with rfl | rfl
      · exact files.rest timer rfl (.refl _)
      · exact files.rest timer rfl ⟨rfl, rfl⟩
  | check awake free =>
      have looking := files.rest .looking (w := d.world) rfl (.refl _)
      unfold Desk.check
      dsimp only
      split
      · exact looking.trans (looking.files.startFlush free .timeout)
      · exact looking

theorem act (files : d.Files start) (met : World) {effect : Effect}
    (free : effect.IsAddition → d.turn = .free) :
    Records start d [] effect.entry?.toList (d.act met effect).1 := by
  by_cases addition : effect.IsAddition
  · cases effect with
    | buffer item audit => exact files.add (free trivial) item audit
    | _ => exact addition.elim
  · have none : effect.entry? = none := by
      cases effect with
      | buffer item audit => exact absurd trivial addition
      | _ => rfl
    have same := d.world.buffer_happen addition
    rw [none, act_of_other addition]
    exact files.rest d.timer (congrArg _ same) (.of_eq same)

end Files

end Desk

end FleetRoster
