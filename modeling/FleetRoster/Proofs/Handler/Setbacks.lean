import FleetRoster.Proofs.Handler.Heed

/-!
# What a failure leaves in the books

What an attempt at an upload or at a deletion leaves in the store when it fails. A handler that
fails was refused a call of the store, unless the message itself is at fault. What it has written by
then stays: an upload may have made the account of its organization, and a deletion that was refused
the marking of the rows has set its marker. Nothing else is left of it, inside the books or outside.
-/

namespace FleetRoster

open Calendar (Instant)
open FleetRoster.Flow

/-! ## Setbacks -/

namespace Books

/-- A deletion of a host has failed: the readings it took, the fault and the books in the end. -/
inductive Undeleted (b : Books) (inventoryId : String) : List Instant → Fault → Books → Prop
  /-- The marker could not be set. -/
  | unmarked (time : Instant) :
      Undeleted b inventoryId [time] (Store.Call.upsertDeleted inventoryId time).refusal b
  /-- The marker was set, but the rows could not be marked. -/
  | marked (time : Instant) :
      Undeleted b inventoryId [time] (Store.Call.markStale inventoryId time).refusal
        (b.marking inventoryId time)

/-- An upload that was not turned down has failed: the readings it took, the fault and the books in
the end. -/
inductive Unstored (threshold : Nat) (b : Books) (r : Report) :
    List Instant → Fault → Books → Prop
  /-- The marker could not be looked up. -/
  | unguarded : Unstored threshold b r [] (Store.Call.getDeleted r.inventoryId).refusal b
  /-- The account could not be looked up. -/
  | unresolved (readings : List Instant) :
      Unstored threshold b r readings (Store.Call.upsertAccount r.org).refusal b
  /-- The upload passed the guard and its account was resolved, but its row could not be written. -/
  | resolved {guarded : List Instant} {account : Int} {b' : Books} (time : Instant)
      (guard : b.Guard threshold r.inventoryId guarded (.done none))
      (resolves : b.Resolves r.org account b') :
      Unstored threshold b r (guarded ++ [time])
        (Store.Call.upsertSystem (r.upload account time)).refusal b'

end Books

/-- An event has failed: the readings its handler took, the fault and the books in the end. -/
inductive Setback (threshold : Nat) (job : Job) (b : Books) :
    List Instant → Fault → Books → Prop
  /-- The message is at fault. -/
  | lost {why : Fault} (idle : job.IsIdle) (permanent : why.isPermanent = true) :
      Setback threshold job b [] why b
  | undeleted {inventoryId : String} {readings : List Instant} {why : Fault} {b' : Books}
      (deletion : job.deletion? = some inventoryId)
      (setback : b.Undeleted inventoryId readings why b') : Setback threshold job b readings why b'
  | unstored {r : Report} {readings : List Instant} {why : Fault} {b' : Books}
      (accepted : job.accepted? = some r) (setback : b.Unstored threshold r readings why b') :
      Setback threshold job b readings why b'

/-- The claim about a flow that something holds where it has failed. -/
def Flow.IfFailed {α : Type} (claim : List Instant → Fault → Books → Prop) :
    List Instant → List Item → Ending α → Books → Prop
  | readings, _, .failed why, b => claim readings why b
  | _, _, _, _ => True

section

variable {b : Books}

/-- Nothing has to hold of a flow that cannot fail, whatever came before it. -/
theorem Flow.Firm.ifFailed {α : Type} {x : Flow α} {claim : List Instant → Fault → Books → Prop}
    {before : List Instant → List Instant} {queued : List Item → List Item} (firm : x.Firm) :
    x.Leads Books.Acts b
      (Told fun readings items => IfFailed claim (before readings) (queued items)) := by
  apply firm.leads
  intro deeds b ending other
  cases ending with
  | failed why => exact absurd rfl (other why)
  | done a => trivial
  | crashed => trivial

theorem leads_failedDelete (threshold : Nat) (about : Log.Context) {event : HostEvent}
    {inventoryId : String} (named : event.inventoryId = some inventoryId) :
    (handleDelete threshold about event).Leads Books.Acts b
      (Told (IfFailed (b.Undeleted inventoryId))) := by
  rw [handleDelete_of_some threshold about named]
  apply leads_now
  intro time
  apply leads_call
  · exact .unmarked time
  apply leads_call
  · exact .marked time
  · exact (firm_finishDelete threshold about inventoryId time _).ifFailed

/-- The account is resolved, or the store refuses to look it up. -/
theorem leads_failedResolve (about : Log.Context) {org : String} (named : org.isEmpty = false) :
    (resolveAccount about org).Leads Books.Acts b <| Told fun readings _ ending b' =>
      readings = [] ∧
        match ending with
        | .done account => b.Resolves org account b'
        | .failed why => why = (Store.Call.upsertAccount org).refusal ∧ b' = b
        | .crashed => True := by
  unfold resolveAccount
  rw [named, if_neg Bool.false_ne_true]
  apply leads_known
  cases looked : b.known org with
  | some account => exact ⟨rfl, .known looked⟩
  | none =>
      apply leads_attemptCall
      · apply leads_after (leads_log _)
        exact ⟨rfl, rfl, rfl⟩
      · refine leads_remember (b := { b with store := (b.store.upsertAccount org).1 }) looked ?_
        split
        · apply leads_after (leads_log _)
          exact ⟨rfl, .made looked⟩
        next other => exact absurd rfl other

/-- Past the guard, an upload that fails was refused the account or the row. -/
theorem leads_failedStore {threshold : Nat} (about : Log.Context) (event : HostEvent) {host : Host}
    {inventoryId org : String} {audit : Audit} {guarded : List Instant}
    (guard : b.Guard threshold inventoryId guarded (.done none)) (named : org.isEmpty = false) :
    (storeUpload about event host inventoryId org audit).Leads Books.Acts b <| Told
      fun readings => IfFailed
        (b.Unstored threshold ⟨host, inventoryId, org, event.requestId⟩) (guarded ++ readings) := by
  unfold storeUpload
  apply leads_bind_told
  apply (leads_failedResolve about named).mono_told
  rintro readings items ending b' ⟨rfl, ended⟩
  cases ending with
  | crashed => trivial
  | failed why =>
      obtain ⟨rfl, rfl⟩ := ended
      exact .unresolved (guarded ++ [])
  | done account =>
      apply leads_now
      intro time
      apply leads_call
      · exact .resolved time guard ended
      · apply Firm.ifFailed
        exact (firm_perform _).bind fun _ => (firm_perform _).bind fun _ => (firm_perform _).bind
          fun _ => trivial

/-- An upload that is taken in fails only where the store refuses a call. -/
theorem leads_failedAdmit (threshold : Nat) (about : Log.Context) (event : HostEvent) (host : Host)
    (inventoryId : String) {org : String} (audit : Audit) (named : org.isEmpty = false) :
    (admitUpload threshold about event host inventoryId org audit).Leads Books.Acts b
      (Told (IfFailed (b.Unstored threshold ⟨host, inventoryId, org, event.requestId⟩))) := by
  unfold admitUpload recentMarker?
  rw [bind_assoc]
  apply leads_call
  · exact .unguarded
  · cases found : (b.store.answer (.getDeleted inventoryId)).2 with
    | none => exact leads_failedStore about event (.unmarked found) named
    | some marker =>
        apply leads_now
        intro time
        by_cases young : marker.isRecent time threshold = true
        · rw [if_pos young]
          apply Firm.ifFailed
          exact firm_ignoreUpload _ _ _
        · rw [if_neg young]
          exact leads_failedStore about event (.past found (Bool.eq_false_iff.mpr young)) named

/-- An event that fails has met a setback. -/
theorem leads_setback (threshold : Nat) (job : Job) :
    (job.handler threshold).Leads Books.Acts b (Told (IfFailed (Setback threshold job b))) := by
  have sets := job.sets_handler threshold
  generalize job.handler threshold = x at sets
  cases sets with
  | skips _ => exact Firm.ifFailed ((firm_perform _).bind fun _ => trivial)
  | fails idle permanent => exact .lost idle permanent
  | rejects _ => exact (firm_rejectUpload _ _ _ _).ifFailed
  | admits accepted named =>
      apply (leads_failedAdmit threshold _ _ _ _ _ named).mono_told
      intro readings items ending b' failed
      cases ending with
      | failed why => exact .unstored accepted failed
      | done a => trivial
      | crashed => trivial
  | deletes deletion about =>
      apply (leads_failedDelete threshold _ about).mono_told
      intro readings items ending b' failed
      cases ending with
      | failed why => exact .undeleted deletion failed
      | done a => trivial
      | crashed => trivial

end

end FleetRoster
