import FleetRoster.Proofs.Roster.Events

/-!
# What an event is set to

Before anything happens, the message of an event settles which of five things its handler does: it
skips the event, fails because of the message, turns an upload down, takes an upload in, or does a
deletion. Only the last two have anything to do with the store.
-/

namespace FleetRoster

open Calendar (Instant)

/-! ## Parts of handlers -/

/-- Ignores an upload because of a marker, or stores it. -/
def settleUpload (about : Log.Context) (event : HostEvent) (host : Host)
    (inventoryId org : String) (audit : Audit) : Option Marker → Flow Outcome
  | some marker => ignoreUpload about audit marker
  | none => storeUpload about event host inventoryId org audit

/-- Takes an upload in, unless its host was deleted not long before. -/
def admitUpload (threshold : Nat) (about : Log.Context) (event : HostEvent) (host : Host)
    (inventoryId org : String) (audit : Audit) : Flow Outcome := do
  let found ← recentMarker? threshold inventoryId
  settleUpload about event host inventoryId org audit found

/-- Clears away the markers that are past the threshold, if that does not reach back too far. -/
def clearOutdated (threshold : Nat) (about : Log.Context) (now : Instant) (rows : Nat) :
    Flow Outcome :=
  match now.earlier? threshold with
  | none => .crash
  | some limit => do
    pruneMarkers about limit
    pure (.deleted rows)

/-- Ends a deletion of which the rows are marked. -/
def finishDelete (threshold : Nat) (about : Log.Context) (inventoryId : String) (now : Instant)
    (rows : Nat) : Flow Outcome := do
  if rows = 0 then
    Flow.log (.nothingDeleted about inventoryId)
    Flow.count .delete .noRows
  else
    Flow.log (.deleted about inventoryId rows)
    Flow.count .delete .deleted
  clearOutdated threshold about now rows

theorem handleDelete_of_some (threshold : Nat) (about : Log.Context) {event : HostEvent}
    {inventoryId : String} (named : event.inventoryId = some inventoryId) :
    handleDelete threshold about event = (do
      let now ← Flow.now
      Flow.store (.upsertDeleted inventoryId now)
      let rows : Nat ← Flow.store (.markStale inventoryId now)
      finishDelete threshold about inventoryId now rows) := by
  unfold handleDelete
  rw [named]
  rfl

/-! ## Duties -/

/-- A message that is no host event is at fault itself. -/
theorem HostEvent.isPermanent_of_ofMessage {message : Json.Value} {why : Fault}
    (unread : HostEvent.ofMessage message = .error why) : why.isPermanent = true := by
  unfold HostEvent.ofMessage at unread
  split at unread
  · cases unread
  · cases unread
    rfl

namespace Job

/-- The report of an upload that is not turned down. -/
def accepted? (job : Job) : Option Report :=
  job.report?.filter fun r => r.host.profile.check.toBool

/-- The event is neither an upload that is taken in nor a deletion. -/
structure IsIdle (job : Job) : Prop where
  notAccepted : job.accepted? = none
  notDeletion : job.deletion? = none

/-- What the message of an event sets its handler to. -/
inductive Sets (threshold : Nat) (job : Job) : Flow Outcome → Prop
  /-- An event of another kind is skipped. -/
  | skips (idle : job.IsIdle) :
      job.Sets threshold (Flow.count .other .otherKind >>= fun _ => pure .skipped)
  /-- A message without what its handler needs makes it fail. -/
  | fails {why : Fault} (idle : job.IsIdle) (permanent : why.isPermanent = true) :
      job.Sets threshold (.fail why)
  /-- An upload is turned down. -/
  | rejects {audit : Audit} {verdict : Verdict} {why : Fault} (idle : job.IsIdle) :
      job.Sets threshold (rejectUpload job.about audit verdict why)
  /-- An upload is taken in. -/
  | admits {event : HostEvent} {host : Host} {inventoryId org : String} {audit : Audit}
      (accepted : job.accepted? = some ⟨host, inventoryId, org, event.requestId⟩)
      (named : org.isEmpty = false) :
      job.Sets threshold (admitUpload threshold job.about event host inventoryId org audit)
  /-- A deletion is done. -/
  | deletes {event : HostEvent} {inventoryId : String}
      (deletion : job.deletion? = some inventoryId)
      (about : event.inventoryId = some inventoryId) :
      job.Sets threshold (handleDelete threshold job.about event)

variable {job : Job}

theorem report?_of_accepted? {r : Report} (accepted : job.accepted? = some r) :
    job.report? = some r :=
  (Option.filter_eq_some_iff.mp accepted).1

/-- No event is both an upload and a deletion. -/
theorem deletion?_of_report? {r : Report} (reported : job.report? = some r) :
    job.deletion? = none := by
  unfold Job.report? EventKind.report? at reported
  unfold Job.deletion? EventKind.deletion?
  cases lane : job.kind.lane with
  | upload => rfl
  | delete => simp [lane] at reported
  | other => simp [lane] at reported

theorem accepted?_of_deletion? {inventoryId : String}
    (deletion : job.deletion? = some inventoryId) : job.accepted? = none := by
  rw [Option.eq_none_iff_forall_ne_some]
  intro r accepted
  rw [deletion?_of_report? (report?_of_accepted? accepted)] at deletion
  contradiction

/-- The handler of an upload is set to what its message says. -/
theorem sets_handleUpload (threshold : Nat) {event : HostEvent} (lane : job.kind.lane = .upload)
    (decoded : HostEvent.ofMessage job.message = .ok event) :
    job.Sets threshold (handleUpload threshold job.about event) := by
  have notDeletion : job.deletion? = none := by
    rw [Job.deletion?, EventKind.deletion?, lane]
  have reported : job.report? = event.report? := by
    rw [Job.report?, EventKind.report?, lane, decoded]
    rfl
  unfold handleUpload
  cases hosted : event.host with
  | none =>
      have unreported : event.report? = none := by simp only [HostEvent.report?, hosted]
      exact .fails ⟨by rw [accepted?, reported, unreported]; rfl, notDeletion⟩ rfl
  | some host =>
      cases named : event.inventoryId with
      | none =>
          have unreported : event.report? = none := by
            simp only [HostEvent.report?, hosted, named]
          exact .fails ⟨by rw [accepted?, reported, unreported]; rfl, notDeletion⟩ rfl
      | some inventoryId =>
          dsimp only
          cases organized : event.organization host with
          | error why =>
              have unreported : event.report? = none := by
                simp only [HostEvent.report?, hosted, named, organized]
              exact .rejects ⟨by rw [accepted?, reported, unreported]; rfl, notDeletion⟩
          | ok org =>
              have report : event.report? = some ⟨host, inventoryId, org, event.requestId⟩ := by
                simp only [HostEvent.report?, hosted, named, organized]
              dsimp only
              cases checked : host.profile.check with
              | error why =>
                  refine .rejects ⟨?_, notDeletion⟩
                  rw [accepted?, reported, report, Option.filter_some, checked]
                  rfl
              | ok passed =>
                  refine .admits ?_ (HostEvent.organization_named organized)
                  rw [accepted?, reported, report, Option.filter_some, checked]
                  rfl

/-- The handler of every event is set to one of these things. -/
theorem sets_handler (threshold : Nat) (job : Job) :
    job.Sets threshold (job.handler threshold) := by
  have unaccepted : job.report? = none → job.accepted? = none := by
    intro none
    rw [accepted?, none]
    rfl
  unfold handler dispatch
  cases lane : job.kind.lane with
  | other =>
      apply Sets.skips
      constructor
      · apply unaccepted
        rw [Job.report?, EventKind.report?, lane]
      · rw [Job.deletion?, EventKind.deletion?, lane]
  | delete =>
      have unreported : job.report? = none := by rw [Job.report?, EventKind.report?, lane]
      cases decoded : HostEvent.ofMessage job.message with
      | error why =>
          refine .fails ⟨unaccepted unreported, ?_⟩ (HostEvent.isPermanent_of_ofMessage decoded)
          rw [Job.deletion?, EventKind.deletion?, lane, decoded]
          rfl
      | ok event =>
          have deletion : job.deletion? = event.inventoryId := by
            rw [Job.deletion?, EventKind.deletion?, lane, decoded]
            rfl
          cases named : event.inventoryId with
          | none =>
              have fails : handleDelete threshold job.about event =
                  .fail (.host "delete event without id") := by
                unfold handleDelete
                rw [named]
              change job.Sets threshold (handleDelete threshold job.about event)
              rw [fails]
              exact .fails ⟨unaccepted unreported, deletion.trans named⟩ rfl
          | some inventoryId => exact .deletes (deletion.trans named) named
  | upload =>
      cases decoded : HostEvent.ofMessage job.message with
      | error why =>
          refine .fails ⟨unaccepted ?_, ?_⟩ (HostEvent.isPermanent_of_ofMessage decoded)
          · rw [Job.report?, EventKind.report?, lane, decoded]
            rfl
          · rw [Job.deletion?, EventKind.deletion?, lane]
      | ok event => exact sets_handleUpload threshold lane decoded

end Job

end FleetRoster
