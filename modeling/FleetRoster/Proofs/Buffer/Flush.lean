import FleetRoster.World.Flush

/-!
# What a flush sends

A flush offers one batch to the topic of the evaluations and one to that of the audit events, and the
second does not depend on what became of the first. Whether or not they were taken, the buffer is
empty in the end.
-/

namespace FleetRoster

open Calendar (Instant)

/-- The texts of the evaluation messages for some uploads. -/
def evaluationTexts (items : List Item) (batchSize : Nat) (now : Instant) : List String :=
  (Evaluation.ofItems items batchSize now).map (·.toValue.text)

/-- The texts of the audit events that are sent at a time. -/
def auditTexts (events : List Audit) (now : Instant) : List String :=
  (Audit.stamped events now).map (·.toValue.text)

namespace World

variable (w : World)

/-- What is offered to the topic of the evaluations when the uploads are sent now. -/
def evaluationsDue : List String :=
  evaluationTexts w.buffer.items w.buffer.batchSize (w.clock w.readings)

/-- What is offered to the topic of the audit events when they are sent now. -/
def auditsDue : List String :=
  auditTexts w.buffer.audits (w.clock w.readings)

/-! ## The uploads -/

/-- Sending the uploads writes them to the topic of the evaluations, leaves the buffer and the topic
of the audit events as they are, and says what the topic said. -/
theorem flushItems_spec :
    w.flushItems.1.evaluations = (w.evaluations.write w.evaluationsDue).1 ∧
      w.flushItems.1.audits = w.audits ∧ w.flushItems.1.buffer = w.buffer ∧
      w.flushItems.2.toBool = (w.evaluations.write w.evaluationsDue).2.toBool := by
  have sent : w.sendItems w.buffer.items w.buffer.batchSize =
      ({ w with
          readings := w.readings + 1
          evaluations := (w.evaluations.write w.evaluationsDue).1 },
        (w.evaluations.write w.evaluationsDue).2) := rfl
  simp only [flushItems, sent]
  cases (w.evaluations.write w.evaluationsDue).2 with
  | ok count => exact ⟨rfl, rfl, rfl, rfl⟩
  | error why => exact ⟨rfl, rfl, rfl, rfl⟩

/-- Sending the uploads answers what the topic answers. -/
theorem flushItems_answer : w.flushItems.2 = (w.evaluations.write w.evaluationsDue).2 := by
  have sent : (w.sendItems w.buffer.items w.buffer.batchSize).2 =
      (w.evaluations.write w.evaluationsDue).2 := rfl
  simp only [flushItems]
  generalize w.sendItems w.buffer.items w.buffer.batchSize = result at sent
  rcases result with ⟨met, why | count⟩ <;> exact sent

/-- Sending the uploads takes no time. -/
theorem flushItems_time : w.flushItems.1.time = w.time := by
  have sent : (w.sendItems w.buffer.items w.buffer.batchSize).1.time = w.time := rfl
  simp only [flushItems]
  generalize w.sendItems w.buffer.items w.buffer.batchSize = result at sent
  rcases result with ⟨met, why | count⟩ <;> exact sent

/-! ## The audit events -/

/-- Sending the audit events writes them to their topic, leaves the buffer and the topic of the
evaluations as they are, and says what the topic said. -/
theorem flushAudits_spec :
    w.flushAudits.1.audits = (w.audits.write w.auditsDue).1 ∧
      w.flushAudits.1.evaluations = w.evaluations ∧ w.flushAudits.1.buffer = w.buffer ∧
      w.flushAudits.2.toBool = (w.audits.write w.auditsDue).2.toBool := by
  have sent : w.sendAudits w.buffer.audits =
      ({ w with
          readings := w.readings + 1
          audits := (w.audits.write w.auditsDue).1 },
        (w.audits.write w.auditsDue).2) := rfl
  simp only [flushAudits, sent]
  cases (w.audits.write w.auditsDue).2 with
  | ok count => exact ⟨rfl, rfl, rfl, rfl⟩
  | error why => exact ⟨rfl, rfl, rfl, rfl⟩

/-- Sending the audit events answers what the topic answers. -/
theorem flushAudits_answer : w.flushAudits.2 = (w.audits.write w.auditsDue).2 := by
  have sent : (w.sendAudits w.buffer.audits).2 = (w.audits.write w.auditsDue).2 := rfl
  simp only [flushAudits]
  generalize w.sendAudits w.buffer.audits = result at sent
  rcases result with ⟨met, why | count⟩ <;> exact sent

/-- Sending the audit events takes no time. -/
theorem flushAudits_time : w.flushAudits.1.time = w.time := by
  have sent : (w.sendAudits w.buffer.audits).1.time = w.time := rfl
  simp only [flushAudits]
  generalize w.sendAudits w.buffer.audits = result at sent
  rcases result with ⟨met, why | count⟩ <;> exact sent

/-! ## Additions -/

variable {w} {item : Item} {audit : Audit}

/-- An addition that fills the buffer flushes it and returns the report. -/
theorem add_of_full (full : (w.buffer.push w.time item audit).isFull) :
    w.add item audit =
      ((World.flush { w with buffer := w.buffer.push w.time item audit } .full).1,
        some (World.flush { w with buffer := w.buffer.push w.time item audit } .full).2) := by
  simp only [add, full, if_true]

/-- An addition that leaves room returns nothing. -/
theorem add_of_not_full (notFull : ¬ (w.buffer.push w.time item audit).isFull) :
    w.add item audit = ({ w with buffer := w.buffer.push w.time item audit }, none) := by
  simp only [add, notFull, Bool.false_eq_true, if_false]

/-! ## What sending has nothing to do with -/

/-- A relation between worlds that has nothing to do with sending: it stands whatever becomes of the
buffer, the topics, the readings of the clock, the failed sends and the log. -/
structure IsApart (relates : World → World → Prop) : Prop where
  trans : ∀ {w₁ w₂ w₃}, relates w₁ w₂ → relates w₂ w₃ → relates w₁ w₃
  readClock : ∀ w, relates w (readClock w).1
  send : ∀ w channel batch, relates w (send w channel batch).1
  note : ∀ w notice, relates w (note w notice)
  countFailedSend : ∀ w channel, relates w (countFailedSend w channel)
  setBuffer : ∀ w buffer, relates w { w with buffer }

namespace IsApart

variable {relates : World → World → Prop} (apart : IsApart relates) (w : World)
include apart

theorem sendItems (items : List Item) (batchSize : Nat) :
    relates w (w.sendItems items batchSize).1 :=
  apart.trans (apart.readClock w) (apart.send _ _ _)

theorem sendTargets (targets : List Target) (batchSize : Nat) :
    relates w (w.sendTargets targets batchSize).1 :=
  apart.trans (apart.readClock w) (apart.send _ _ _)

theorem sendAudits (events : List Audit) : relates w (w.sendAudits events).1 :=
  apart.trans (apart.readClock w) (apart.send _ _ _)

theorem flushItems : relates w w.flushItems.1 := by
  have sent := apart.sendItems w w.buffer.items w.buffer.batchSize
  simp only [World.flushItems]
  generalize w.sendItems w.buffer.items w.buffer.batchSize = result at sent
  rcases result with ⟨met, why | count⟩
  · exact apart.trans (apart.trans sent (apart.note _ _)) (apart.countFailedSend _ _)
  · exact sent

theorem flushAudits : relates w w.flushAudits.1 := by
  have sent := apart.sendAudits w w.buffer.audits
  simp only [World.flushAudits]
  generalize w.sendAudits w.buffer.audits = result at sent
  rcases result with ⟨met, why | count⟩
  · exact apart.trans (apart.trans sent (apart.note _ _)) (apart.countFailedSend _ _)
  · exact sent

theorem flush (reason : FlushReason) : relates w (w.flush reason).1 := by
  simp only [World.flush]
  split
  · exact apart.setBuffer _ _
  · apply apart.trans _ (apart.setBuffer _ _)
    apply apart.trans _ (apart.flushAudits _)
    apply apart.trans _ (apart.flushItems _)
    exact apart.note w _

theorem add (item : Item) (audit : Audit) : relates w (w.add item audit).1 := by
  have pushed := apart.setBuffer w (w.buffer.push w.time item audit)
  simp only [World.add]
  split
  · exact apart.trans pushed (apart.flush _ _)
  · exact pushed

end IsApart

end World

end FleetRoster
