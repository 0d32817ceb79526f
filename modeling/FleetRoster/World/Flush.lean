import FleetRoster.World.Basic

/-!
# Flushing the buffer

A flush sends the evaluations of all that waits, then the audit events. Neither depends on the
other, and the buffer is empty afterwards whether they were taken or not: a failure is logged and
counted. An empty buffer is not flushed.
-/

namespace FleetRoster.World

/-- Sends the evaluations of what waits and says how many messages were taken, if they were. -/
def flushItems (w : World) : World × Except Fault Nat :=
  let items := w.buffer.items
  match w.sendItems items w.buffer.batchSize with
  | (w, .ok sent) => (w, .ok sent)
  | (w, .error why) =>
    ((w.note (.evaluationsUnsent w.evaluations.name items.length why)).countFailedSend .evaluations,
      .error why)

/-- Sends the audit events of what waits and says how many messages were taken, if they were. -/
def flushAudits (w : World) : World × Except Fault Nat :=
  let events := w.buffer.audits
  match w.sendAudits events with
  | (w, .ok sent) => (w, .ok sent)
  | (w, .error why) =>
    ((w.note (.auditsUnsent w.audits.name events.length why)).countFailedSend .audits, .error why)

/-- Empties the buffer. -/
def flush (w : World) (reason : FlushReason) : World × FlushReport :=
  if w.buffer.items.isEmpty then ({ w with buffer := w.buffer.undue }, {})
  else
    let items := w.buffer.items.length
    let w := w.note (.flushing reason items w.buffer.capacity)
    let (w, evaluations) := w.flushItems
    let (w, audits) := w.flushAudits
    ({ w with buffer := w.buffer.emptied },
      { items
        evaluations := evaluations.toOption.getD 0
        audits := audits.toOption.getD 0
        evaluationsFailed := evaluations.toBool.not
        auditsFailed := audits.toBool.not })

/-- Adds an upload with its audit event to the buffer, which is flushed if that fills it. -/
def add (w : World) (item : Item) (audit : Audit) : World × Option FlushReport :=
  let w := { w with buffer := w.buffer.push w.time item audit }
  if w.buffer.isFull then
    let (w, report) := w.flush .full
    (w, some report)
  else (w, none)

end FleetRoster.World
