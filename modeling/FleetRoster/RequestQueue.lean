import FleetRoster.Task

/-!
# The queue of evaluation requests

Requests pass through a queue with one place to a single writer. A request that finds the place taken
waits for its turn, and the writer works on one request at a time. What goes wrong is logged and
counted and does not reach those who made the request.
-/

namespace FleetRoster

/-- Sends systems for evaluation. -/
def sendRequested (batchSize : Nat) (targets : List Target) : Flow Unit :=
  if targets.isEmpty then pure ()
  else do
    match ← Flow.perform (.sendTargets targets batchSize) with
    | .ok (sent : Nat) => Flow.log (.requestSent targets.length sent)
    | .error why =>
      Flow.log (.requestUnsent targets.length why)
      Flow.perform (.countFailedSend .requests)

/-- Works on a request. A baseline is looked up in the store first. -/
def processRequest (batchSize : Nat) : Request → Flow Unit
  | .systems targets => sendRequested batchSize targets
  | .baseline account baseline => do
    match ← (Flow.store (.systemsForBaseline account baseline)).attempt with
    | .ok targets => sendRequested batchSize targets
    | .error why => Flow.log (.baselineUnknown account baseline why)

/-- The queue with its writer. -/
structure RequestQueue where
  batchSize : Nat
  /-- The request in the one place. -/
  queued : Option Request := none
  /-- The requests that wait for the place, the first one first. -/
  waiting : List Request := []
  /-- What is left of the request that the writer works on. -/
  work : Option (Task Unit) := none
  /-- Whether anyone can still make a request. -/
  isOpen : Bool := true
  /-- Whether the writer is there. -/
  isWriting : Bool := true

namespace RequestQueue

/-- Makes a request. Without a writer it is refused, which is logged. -/
def submit (q : RequestQueue) (w : World) (r : Request) : RequestQueue × World :=
  if !q.isWriting then (q, w.note (.requestRefused r))
  else if q.queued.isNone && q.waiting.isEmpty then ({ q with queued := some r }, w)
  else ({ q with waiting := q.waiting ++ [r] }, w)

/-- The writer takes the request in the place, which goes to the first that waits. -/
def take (q : RequestQueue) (r : Request) : RequestQueue :=
  { q with
    queued := q.waiting.head?
    waiting := q.waiting.tail
    work := some { flow := processRequest q.batchSize r } }

/-- The writer goes on with its work. -/
def proceed (q : RequestQueue) (w : World) (t : Task Unit) : RequestQueue × World :=
  match t.advance w with
  | (w, .inl t) => ({ q with work := some t }, w)
  | (w, .inr _) => ({ q with work := none }, w)

/-- What the writer does next, unless it has to wait. It stops when there is nothing left to do and
nobody left to make a request. -/
def move? (q : RequestQueue) (w : World) : Option (RequestQueue × World) :=
  if !q.isWriting then none
  else
    match q.work, q.queued with
    | some t, _ => if t.isReady w then some (q.proceed w t) else none
    | none, some r => some (q.take r, w)
    | none, none =>
      if q.isOpen then none else some ({ q with isWriting := false }, w.note .requestsEnded)

/-- Ends the writer, whatever it is doing. -/
def abort (q : RequestQueue) : RequestQueue :=
  { q with isWriting := false, queued := none, work := none }

/-- The moment for which the writer waits. -/
def due (q : RequestQueue) : Option Nat :=
  if q.isWriting then q.work.bind (·.due) else none

end RequestQueue

end FleetRoster
