import FleetRoster.Outbound.Audit
import FleetRoster.Outbound.Evaluation

/-!
# The buffer

Stored uploads wait in a buffer until there are enough of them or none has come for a while. The
uploads and their audit events are kept in two lists, and it is for the operations of the buffer to
keep these in step. The deadline is the moment up to which the next upload is waited for; there is
one exactly while something waits. Adding an upload also leaves a note for the timer that the
deadline has moved.

A buffer sets room aside for all its uploads when it is made, so there are capacities that no memory
has room for.
-/

namespace FleetRoster

/-- Uploads that wait to be sent. -/
structure Buffer where
  /-- The number of uploads at which the buffer is emptied. -/
  capacity : Nat
  /-- The greatest number of systems in one evaluation message. -/
  batchSize : Nat
  /-- Milliseconds for which the next upload is waited for. -/
  idleInterval : Nat
  /-- The uploads, the oldest first. -/
  items : List Item := []
  /-- The audit events, the oldest first. -/
  audits : List Audit := []
  /-- When the buffer is emptied if nothing more comes. -/
  deadline : Option Nat := none
  /-- Whether the timer has yet to notice that the deadline moved. -/
  rearmed : Bool := false
  capacity_pos : 0 < capacity

namespace Buffer

/-- An empty buffer. A capacity of zero counts as one. -/
def ofCapacity (capacity batchSize idleInterval : Nat) : Buffer where
  capacity := max 1 capacity
  batchSize := batchSize
  idleInterval := idleInterval
  capacity_pos := by omega

/-- The bytes that are set aside for an upload: three texts and an account. -/
def itemBytes : Nat := 80

/-- Whether a buffer of a capacity can be made. No memory reaches to 2^63 bytes. -/
def isPossible (capacity : Nat) : Bool :=
  capacity * itemBytes < Nat.pow 2 63

/-- The buffer with one more upload and one more audit event at a time. -/
def push (b : Buffer) (time : Nat) (item : Item) (audit : Audit) : Buffer :=
  { b with
    items := b.items ++ [item]
    audits := b.audits ++ [audit]
    deadline := some (time + b.idleInterval)
    rearmed := true }

/-- Whether the buffer has reached its capacity. -/
def isFull (b : Buffer) : Bool :=
  b.capacity ≤ b.items.length

/-- The buffer without a deadline. -/
def undue (b : Buffer) : Buffer :=
  { b with deadline := none }

/-- The buffer with both lists cleared. The note for the timer stays. -/
def emptied (b : Buffer) : Buffer :=
  { b with items := [], audits := [], deadline := none }

/-- The buffer after the timer has noticed. -/
def noticed (b : Buffer) : Buffer :=
  { b with rearmed := false }

/-- Whether the deadline has passed at a time. -/
def isOverdue (b : Buffer) (time : Nat) : Bool :=
  b.deadline.any (· ≤ time)

end Buffer

end FleetRoster
