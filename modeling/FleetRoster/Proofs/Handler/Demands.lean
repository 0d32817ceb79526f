import FleetRoster.Proofs.Flow.Twins
import FleetRoster.Proofs.Handler.Duties

/-!
# What handlers ask for

Which effects the handlers of uploads and deletions and the account lookup can perform at all. Each
part of a handler asks for a few effects. A part asks for nothing else but what is allowed, if these
few are, whatever it is about the effects that they are asked about.
-/

namespace FleetRoster

open FleetRoster.Flow

section

variable {allowed : Effect → Prop} {about : Log.Context}

/-! ## Accounts -/

/-- What a lookup of an account asks for. -/
theorem only_resolveAccount {org : String} (about : Log.Context)
    (knows : allowed (.known org)) (asks : allowed (.store (.upsertAccount org)))
    (remembers : ∀ account, allowed (.remember org account))
    (logs : ∀ notice, allowed (.log notice)) : (resolveAccount about org).Only allowed := by
  unfold resolveAccount
  split
  · trivial
  · apply (only_perform knows).bind
    intro known
    cases known with
    | some account => trivial
    | none =>
        apply (only_store asks).attempt.bind
        intro answer
        cases answer with
        | error why => exact (only_perform (logs _)).bind fun _ => trivial
        | ok found =>
            apply (only_perform (remembers _)).bind
            intro kept
            dsimp only
            split
            · exact (only_perform (logs _)).bind fun _ => trivial
            · exact (only_perform (logs _)).bind fun _ => trivial

/-! ## Uploads -/

theorem only_reportStatus {audit : Audit} (sends : allowed (.sendAudit audit))
    (logs : ∀ notice, allowed (.log notice))
    (counts : ∀ channel, allowed (.countFailedSend channel)) :
    (reportStatus about audit).Only allowed := by
  apply (only_perform sends).bind
  intro answer
  cases answer with
  | ok sent => trivial
  | error why => exact (only_perform (logs _)).bind fun _ => only_perform (counts _)

/-- What is asked for where an upload is not taken in is allowed. -/
structure MayDismiss (allowed : Effect → Prop) (audit : Audit) : Prop where
  logs (notice : Notice) : allowed (.log notice)
  counts (verdict : Verdict) : allowed (.count .upload verdict)
  sends (status detail : String) : allowed (.sendAudit (audit.withStatus status detail))
  owes (channel : Channel) : allowed (.countFailedSend channel)

theorem only_rejectUpload {audit : Audit} {verdict : Verdict} {why : Fault}
    (may : MayDismiss allowed audit) :
    (rejectUpload about audit verdict why).Only allowed :=
  (only_perform (may.logs _)).bind fun _ => (only_perform (may.counts _)).bind fun _ =>
    (only_reportStatus (may.sends _ _) may.logs may.owes).bind fun _ => trivial

theorem only_ignoreUpload {audit : Audit} {marker : Marker}
    (may : MayDismiss allowed audit) : (ignoreUpload about audit marker).Only allowed :=
  (only_perform (may.logs _)).bind fun _ => (only_perform (may.counts _)).bind fun _ =>
    (only_reportStatus (may.sends _ _) may.logs may.owes).bind fun _ => trivial

theorem only_recentMarker? {threshold : Nat} {inventoryId : String}
    (asks : allowed (.store (.getDeleted inventoryId))) (reads : allowed .now) :
    (recentMarker? threshold inventoryId).Only allowed := by
  apply (only_store asks).bind
  intro found
  cases found with
  | none => trivial
  | some marker => exact (only_perform reads).bind fun _ => trivial

/-- What is asked for where an upload is stored is allowed. -/
structure MayStore (allowed : Effect → Prop) (org : String) (audit : Audit) : Prop where
  knows : allowed (.known org)
  asks : allowed (.store (.upsertAccount org))
  remembers (account : Int) : allowed (.remember org account)
  reads : allowed .now
  writes (upload : Upload) : allowed (.store (.upsertSystem upload))
  queues (inventoryId request : String) (account : Int) (status detail : String) :
    allowed (.buffer ⟨inventoryId, account, org, request⟩ (audit.withStatus status detail))
  logs (notice : Notice) : allowed (.log notice)
  counts (verdict : Verdict) : allowed (.count .upload verdict)

theorem only_storeUpload {event : HostEvent} {host : Host} {inventoryId org : String}
    {audit : Audit} (may : MayStore allowed org audit) :
    (storeUpload about event host inventoryId org audit).Only allowed := by
  apply (only_resolveAccount about may.knows may.asks may.remembers may.logs).bind
  intro account
  apply (only_perform may.reads).bind
  intro time
  apply (only_store (may.writes _)).bind
  intro row
  exact (only_perform (may.queues _ _ _ _ _)).bind fun _ => (only_perform (may.logs _)).bind
    fun _ => (only_perform (may.counts _)).bind fun _ => trivial

/-! ## Deletions -/

theorem only_pruneMarkers {limit : Calendar.Instant} (asks : allowed (.store (.pruneDeleted limit)))
    (logs : ∀ notice, allowed (.log notice)) : (pruneMarkers about limit).Only allowed := by
  apply (only_store asks).attempt.bind
  intro answer
  cases answer with
  | error why => exact only_perform (logs _)
  | ok count =>
      dsimp only
      split
      · trivial
      · exact only_perform (logs _)

end

end FleetRoster
