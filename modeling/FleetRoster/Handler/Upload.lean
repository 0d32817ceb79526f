import FleetRoster.Accounts
import FleetRoster.Event.Identity
import FleetRoster.Handler.Delete

/-!
# Uploads

An upload writes the row of its host and queues the host for evaluation. It is turned down when no
organization can be made out or the packages are malformed, and ignored when the host was deleted
not long before. What became of it is reported to the payload tracker: at once where it was turned
down or ignored, and otherwise together with the evaluation.
-/

namespace FleetRoster

/-- Sends one audit event. A failure is logged and counted. -/
def reportStatus (about : Log.Context) (audit : Audit) : Flow Unit := do
  match ← Flow.perform (.sendAudit audit) with
  | .ok _ => pure ()
  | .error why =>
    Flow.log (.auditUnsent about audit.status why)
    Flow.perform (.countFailedSend .audits)

/-- Turns an upload down. -/
def rejectUpload (about : Log.Context) (audit : Audit) (verdict : Verdict) (why : Fault) :
    Flow Outcome := do
  Flow.log (.uploadRejected about verdict why)
  Flow.count .upload verdict
  reportStatus about (audit.withStatus Audit.Status.error.text verdict.text)
  pure (.rejected verdict)

/-- Ignores an upload of a host that was deleted not long before. -/
def ignoreUpload (about : Log.Context) (audit : Audit) (marker : Marker) : Flow Outcome := do
  Flow.log (.uploadIgnored about marker.deletedAt)
  Flow.count .upload .deleted
  reportStatus about (audit.withStatus Audit.Status.success.text Verdict.deleted.text)
  pure .recentlyDeleted

/-- Whether a host was deleted not long before, with its marker. -/
def recentMarker? (threshold : Nat) (inventoryId : String) : Flow (Option Marker) := do
  match ← Flow.store (.getDeleted inventoryId) with
  | (none : Option Marker) => pure none
  | some marker =>
    let now ← Flow.now
    pure (if marker.isRecent now threshold then some marker else none)

/-- Writes the row of a host and queues it for evaluation. -/
def storeUpload (about : Log.Context) (event : HostEvent) (host : Host) (inventoryId org : String)
    (audit : Audit) : Flow Outcome := do
  let account ← resolveAccount about org
  let now ← Flow.now
  let row : SystemRow ← Flow.store (.upsertSystem {
    account, inventoryId
    displayName := host.displayNameOr inventoryId
    checksum := some host.profile.checksum
    staleAt := host.staleAt
    staleWarningAt := host.staleWarningAt
    culledAt := host.culledAt
    lastUpload := now })
  let _ ← Flow.perform <| .buffer ⟨row.inventoryId, account, org, event.requestId.getD ""⟩
    (audit.withStatus Audit.Status.received.text Audit.Status.processing.text)
  Flow.log (.uploaded about inventoryId account row.id (host.reporter.getD "unknown"))
  Flow.count .upload .evaluated
  pure (.evaluated account)

/-- Handles an upload, with a threshold in nanoseconds. -/
def handleUpload (threshold : Nat) (about : Log.Context) (event : HostEvent) : Flow Outcome :=
  match event.host, event.inventoryId with
  | none, _ => .fail (.host "upload event without host")
  | some _, none => .fail (.host "host without id")
  | some host, some inventoryId =>
    match event.organization host with
    | .error why =>
      rejectUpload about (Audit.received inventoryId host.orgId event.requestId) .badIdentity why
    | .ok org =>
      let audit := Audit.received inventoryId (some org) event.requestId
      match host.profile.check with
      | .error why => rejectUpload about audit .badPackages why
      | .ok _ => do
        match ← recentMarker? threshold inventoryId with
        | some marker => ignoreUpload about audit marker
        | none => storeUpload about event host inventoryId org audit

end FleetRoster
