import FleetRoster.Proofs.Outbound.Wire

/-!
# What is owed to those who follow requests

The payload tracker can follow an audit event that names a request and an organization. A batch of
audit events owes its topic just these, in their order and each with the moment of sending as its
date; whatever else is in the batch is held back. Who reads the topic finds them as they were sent.
-/

namespace FleetRoster.Audit

open Calendar (Instant)

/-- An audit event names a request and an organization, neither of them by an empty text. -/
def IsNamed (e : Audit) : Prop :=
  ∃ id org, e.requestId = some id ∧ id ≠ "" ∧ e.org = some org ∧ org ≠ ""

theorem isTracked_iff_isNamed {e : Audit} : e.isTracked = true ↔ e.IsNamed := by
  have named (s : String) : (!s.isEmpty) = true ↔ s ≠ "" := by simp
  rw [isTracked, Bool.and_eq_true, Option.any_eq_true, Option.any_eq_true]
  constructor
  · rintro ⟨⟨id, requested, idNamed⟩, org, organized, orgNamed⟩
    exact ⟨id, org, requested, (named id).mp idNamed, organized, (named org).mp orgNamed⟩
  · rintro ⟨id, org, requested, idNamed, organized, orgNamed⟩
    exact ⟨⟨id, requested, (named id).mpr idNamed⟩, org, organized, (named org).mpr orgNamed⟩

instance : DecidablePred IsNamed := fun _ =>
  decidable_of_iff _ isTracked_iff_isNamed

/-- An audit event with the moment at which it is sent. -/
def dated (e : Audit) (now : Instant) : Audit :=
  { e with date := some now }

/-- What a batch of audit events that is sent at a time owes its topic. -/
def owed (events : List Audit) (now : Instant) : List Audit :=
  (events.filter fun e => e.IsNamed).map (·.dated now)

variable {e : Audit} {events : List Audit} {now : Instant}

theorem mem_owed : e ∈ owed events now ↔ ∃ event ∈ events, event.IsNamed ∧ event.dated now = e := by
  simp [owed, and_assoc]

theorem stamped_eq_owed (events : List Audit) (now : Instant) :
    stamped events now = owed events now := by
  have same : (events.filter isTracked) = events.filter fun e => e.IsNamed :=
    List.filter_congr fun e _ => Bool.eq_iff_iff.mpr (isTracked_iff_isNamed.trans (by simp))
  rw [stamped, same]
  rfl

theorem isWritable_dated (e : Audit) (readsBack : now.ReadsBack) : (e.dated now).IsWritable := by
  rintro date ⟨⟩
  exact readsBack

end FleetRoster.Audit
