import FleetRoster.Log.Notice
import FleetRoster.Store.Call

/-!
# Effects

What a handler can ask of the world around it, each effect with the type of its answer. An effect
happens as a whole: whatever else goes on, goes on before it or after it.
-/

namespace FleetRoster

open Calendar (Instant)

/-- Where messages are sent. -/
inductive Channel
  /-- Evaluations of buffered uploads. -/
  | evaluations
  /-- Audit events. -/
  | audits
  /-- Evaluations on request. -/
  | requests
  deriving DecidableEq, Repr

/-- What is numbered from one on. -/
inductive Series
  | messages
  | lookups
  deriving DecidableEq, Repr

/-- What a handler can ask for. -/
inductive Effect
  /-- The time of the clock. -/
  | now
  /-- The next number of a series. -/
  | next (series : Series)
  | store (call : Store.Call)
  /-- The remembered account of an organization. -/
  | known (org : String)
  /-- To remember the account of an organization, unless one is remembered already; the answer is the
  one that is remembered from then on. -/
  | remember (org : String) (account : Int)
  /-- To put an upload into the buffer; the answer is the report of the flush that this caused. -/
  | buffer (item : Item) (audit : Audit)
  /-- To send one audit event right away. -/
  | sendAudit (audit : Audit)
  /-- To send systems for evaluation, in messages of a limited size. -/
  | sendTargets (targets : List Target) (batchSize : Nat)
  | count (lane : Lane) (verdict : Verdict)
  | countFailedSend (channel : Channel)
  | log (notice : Notice)
  /-- To pause for so many milliseconds. -/
  | sleep (ms : Nat)

/-- The type of an effect's answer. -/
def Effect.Answer : Effect → Type
  | now => Instant
  | next _ => Nat
  | store call => Except Fault call.Answer
  | known _ => Option Int
  | remember _ _ => Int
  | buffer _ _ => Option FlushReport
  | sendAudit _ => Except Fault Nat
  | sendTargets _ _ => Except Fault Nat
  | count _ _ => Unit
  | countFailedSend _ => Unit
  | log _ => Unit
  | sleep _ => Unit

end FleetRoster
