import Mathlib.Logic.Relation
import FleetRoster.IdleTimer
import FleetRoster.Proofs.Buffer.Entries
import FleetRoster.Proofs.Outbound.Attempts

/-!
# The buffer and those who use it

The event buffer of the evaluation queue with its lock. Any number of tasks add to the buffer and
flush it, and a timer flushes it when it is idle. One lock is between them: who holds it flushes in
turns, first the uploads, then the audit events, and then empties the buffer, and in between
anything may happen that needs no lock. A task that waits for the lock does nothing, so it makes no
difference how many there are: the next to get the lock is any of them. What was added, in the order
of the lock, and what was flushed is written down on the side.
-/

namespace FleetRoster

open Calendar (Instant)

/-- A flush of a batch: when the uploads and the audit events were sent, and whether they were taken. -/
structure Flushed where
  batch : List (Item × Audit)
  evaluatedAt : Instant
  evaluated : Bool
  auditedAt : Instant
  audited : Bool

/-- Whether the lock is free, or else how far the flush of its holder is. -/
inductive Turn
  | free
  /-- The uploads are to be sent. -/
  | evaluating
  /-- The audit events are to be sent. -/
  | auditing (evaluatedAt : Instant) (evaluated : Bool)
  /-- The buffer is to be emptied. -/
  | emptying (evaluatedAt : Instant) (evaluated : Bool) (auditedAt : Instant) (audited : Bool)
  deriving DecidableEq, Repr

/-- A world with the timer, the lock of the buffer and what has become of the buffer so far. -/
structure Desk where
  world : World
  timer : IdleTimer := .looking
  turn : Turn := .free
  /-- The entries that were added, the first one first. -/
  added : List (Item × Audit) := []
  /-- The flushes that are over, the first one first. -/
  flushes : List Flushed := []

/-- The buffer is the same, and nothing was offered to its topics. -/
structure World.Apart (w w' : World) : Prop where
  buffer : w'.buffer = w.buffer
  evaluations : w.evaluations.Rests w'.evaluations
  audits : w.audits.Rests w'.audits

namespace Desk

variable (d : Desk)

/-! ## Turns -/

/-- The desk in another world. -/
def inWorld (w : World) : Desk :=
  { d with world := w }

/-- Begins a flush, unless nothing waits. -/
def startFlush (reason : FlushReason) : Desk :=
  if d.world.buffer.items.isEmpty then
    d.inWorld { d.world with buffer := d.world.buffer.undue }
  else
    { d with
      world := d.world.note
        (.flushing reason d.world.buffer.items.length d.world.buffer.capacity)
      turn := .evaluating }

/-- Sends the uploads. -/
def evaluate : Desk :=
  { d with
    world := d.world.flushItems.1
    turn := .auditing (d.world.clock d.world.readings) d.world.flushItems.2.toBool }

/-- Sends the audit events. -/
def audit (evaluatedAt : Instant) (evaluated : Bool) : Desk :=
  { d with
    world := d.world.flushAudits.1
    turn := .emptying evaluatedAt evaluated (d.world.clock d.world.readings)
      d.world.flushAudits.2.toBool }

/-- Empties the buffer and gives the lock back. -/
def empty (evaluatedAt : Instant) (evaluated : Bool) (auditedAt : Instant) (audited : Bool) :
    Desk :=
  { d with
    world := { d.world with buffer := d.world.buffer.emptied }
    turn := .free
    flushes := d.flushes ++
      [⟨d.world.buffer.entries, evaluatedAt, evaluated, auditedAt, audited⟩] }

/-- What the holder of the lock does next, if there is one. -/
def goOn : Desk :=
  match d.turn with
  | .free => d
  | .evaluating => d.evaluate
  | .auditing evaluatedAt evaluated => d.audit evaluatedAt evaluated
  | .emptying evaluatedAt evaluated auditedAt audited =>
      d.empty evaluatedAt evaluated auditedAt audited

/-- What the holder of the lock does until it gives it back. -/
def finish : Desk :=
  d.goOn.goOn.goOn

/-- Puts an entry into the buffer. -/
def put (item : Item) (audit : Audit) : Desk :=
  { d with
    world := { d.world with buffer := d.world.buffer.push d.world.time item audit }
    added := d.added ++ [(item, audit)] }

/-- Adds an entry, and begins a flush if that fills the buffer. -/
def add (item : Item) (audit : Audit) : Desk :=
  if (d.put item audit).world.buffer.isFull then (d.put item audit).startFlush .full
  else d.put item audit

/-- The timer checks the deadline once more, and begins a flush if it is over. -/
def check : Desk :=
  let looking := { d with timer := .looking }
  if d.world.buffer.isOverdue d.world.time then looking.startFlush .timeout else looking

/-- What can happen next: a task adds an entry or begins a flush, the holder of the lock goes on, the
timer moves, or something else happens. -/
inductive Step : Desk → Desk → Prop
  | add {d : Desk} (free : d.turn = .free) (item : Item) (audit : Audit) :
      Step d (d.add item audit)
  | flush {d : Desk} (free : d.turn = .free) : Step d (d.startFlush .manual)
  | evaluate {d : Desk} (turn : d.turn = .evaluating) : Step d d.evaluate
  | audit {d : Desk} {evaluatedAt : Instant} {evaluated : Bool}
      (turn : d.turn = .auditing evaluatedAt evaluated) : Step d (d.audit evaluatedAt evaluated)
  | empty {d : Desk} {evaluatedAt auditedAt : Instant} {evaluated audited : Bool}
      (turn : d.turn = .emptying evaluatedAt evaluated auditedAt audited) :
      Step d (d.empty evaluatedAt evaluated auditedAt audited)
  /-- The timer looks at the deadline, for which it needs the lock, or waits. -/
  | timer {d : Desk} {timer : IdleTimer} {w : World} (asleep : d.timer ≠ .awake)
      (free : d.timer = .looking → d.turn = .free) (moves : (timer, w) ∈ d.timer.moves d.world) :
      Step d { d with timer, world := w }
  | check {d : Desk} (awake : d.timer = .awake) (free : d.turn = .free) : Step d d.check
  | others {d : Desk} {w : World} (apart : d.world.Apart w) : Step d (d.inWorld w)

/-- What can happen in the end. -/
def Reaches : Desk → Desk → Prop :=
  Relation.ReflTransGen Step

/-! ## Undisturbed

When nobody comes in between, the turns together do what the buffer does in one go.
-/

variable {d}

theorem reaches_goOn (d : Desk) : d.Reaches d.goOn := by
  unfold goOn
  split
  next free => exact .refl
  next turn => exact .single (.evaluate turn)
  next turn => exact .single (.audit turn)
  next turn => exact .single (.empty turn)

theorem reaches_finish (d : Desk) : d.Reaches d.finish :=
  ((reaches_goOn d).trans (reaches_goOn _)).trans (reaches_goOn _)

theorem turn_finish (d : Desk) : d.finish.turn = .free := by
  rcases d with ⟨world, timer, turn, added, flushes⟩
  cases turn <;> rfl

/-- An undisturbed flush is a flush of the world. -/
theorem world_finish (free : d.turn = .free) (reason : FlushReason) :
    (d.startFlush reason).finish.world = (d.world.flush reason).1 := by
  unfold startFlush World.flush
  split
  · simp only [finish, goOn, inWorld, free]
  · simp only [finish, goOn, evaluate, audit, empty]

theorem reaches_flush (free : d.turn = .free) :
    ∃ d', d.Reaches d' ∧ d'.turn = .free ∧ d'.world = (d.world.flush .manual).1 :=
  ⟨_, .head (.flush free) (reaches_finish _), turn_finish _, world_finish free .manual⟩

theorem reaches_add (free : d.turn = .free) (item : Item) (audit : Audit) :
    ∃ d', d.Reaches d' ∧ d'.turn = .free ∧ d'.world = (d.world.add item audit).1 := by
  refine ⟨_, .head (.add free item audit) (reaches_finish _), turn_finish _, ?_⟩
  unfold Desk.add World.add
  change Desk.world (finish (if (d.put item audit).world.buffer.isFull then _ else _)) =
    Prod.fst (if (d.put item audit).world.buffer.isFull then _ else _)
  split
  next full => exact world_finish (d := d.put item audit) free .full
  next notFull => simp only [finish, goOn, put, free]

/-- An undisturbed check is that of the idle timer. -/
theorem world_finish_check (free : d.turn = .free) :
    d.check.finish.world = IdleTimer.check d.world := by
  unfold Desk.check IdleTimer.check
  split
  next late => exact world_finish (d := { d with timer := .looking }) free .timeout
  next notOver => simp only [finish, goOn, free]

theorem reaches_check (awake : d.timer = .awake) (free : d.turn = .free) :
    ∃ d', d.Reaches d' ∧ d'.turn = .free ∧ d'.world = IdleTimer.check d.world :=
  ⟨_, .head (.check awake free) (reaches_finish _), turn_finish _, world_finish_check free⟩

end Desk

end FleetRoster
