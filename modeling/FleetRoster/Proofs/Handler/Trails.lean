import FleetRoster.Proofs.Handler.Permanence

/-!
# The audit trail of an event

What the handlers of uploads and deletions report to the payload tracker. An upload that is turned
down or ignored is reported at once, one that is evaluated is reported together with its evaluation,
and nothing else leaves a trail. An event without a request is never sent, so uploads without one
leave nothing at once. The judgement says what trail a flow leaves and how it ends, whatever the
answers are, as long as the row of an upload is the row of its host.
-/

namespace FleetRoster

open FleetRoster.Flow

/-! ## Trails -/

/-- An audit event that has come of an effect. -/
inductive Posting
  /-- One that was to be sent right away. -/
  | sent (audit : Audit)
  /-- One that was put into the buffer with its upload. -/
  | queued (item : Item) (audit : Audit)
  deriving DecidableEq, Repr

/-- An audit event that cannot be followed is not sent. -/
def Audit.posting? (audit : Audit) : Option Posting :=
  if audit.isTracked then some (.sent audit) else none

/-- The audit event that comes of an effect. -/
def Effect.posting? : Effect → Option Posting
  | .sendAudit audit => audit.posting?
  | .buffer item audit => some (.queued item audit)
  | _ => none

/-- The audit events that have come of what was done, the first one first. -/
def trailOf (deeds : List Deed) : List Posting :=
  deeds.filterMap (·.effect.posting?)

theorem trailOf_cons (deed : Deed) (deeds : List Deed) :
    trailOf (deed :: deeds) = deed.effect.posting?.toList ++ trailOf deeds := by
  cases posted : deed.effect.posting? <;> simp [trailOf, posted]

theorem trailOf_append (deeds more : List Deed) :
    trailOf (deeds ++ more) = trailOf deeds ++ trailOf more :=
  List.filterMap_append

/-- An effect of which no audit event comes. -/
def Effect.IsTrackless (effect : Effect) : Prop :=
  effect.posting? = none

theorem trailOf_of_trackless {deeds : List Deed} (none : ∀ d ∈ deeds, d.effect.IsTrackless) :
    trailOf deeds = [] :=
  List.filterMap_eq_nil_iff.mpr none

/-! ## The judgement -/

/-- Whatever the answers are, the row of an upload has its inventory id. -/
def TrueRows : View Unit
  | .store (.upsertSystem u), _, _, answer =>
      ∀ row, answer = .ok row → row.inventoryId = u.inventoryId
  | _, _, _, _ => True

theorem trueRows_happen (effect : Effect) (w : World) :
    TrueRows effect w.unseen (World.happen effect w).1.unseen (World.happen effect w).2 := by
  cases effect with
  | store call =>
      cases call with
      | upsertSystem u =>
          change ∀ row, (w.call (.upsertSystem u)).2 = .ok row → _
          intro row written
          unfold World.call at written
          split at written
          · cases written
          · cases written
            exact w.store.upsertSystem_inventoryId u
      | _ => trivial
  | _ => trivial

namespace Flow

variable {α β : Type}

/-- The trail that a flow leaves and how it ends are as claimed. -/
def Trails (x : Flow α) (claim : List Posting → Ending α → Prop) : Prop :=
  x.Leads TrueRows () fun deeds _ ending => claim (trailOf deeds) ending

theorem Trails.mono {x : Flow α} {claim weaker : List Posting → Ending α → Prop}
    (trails : x.Trails claim) (imp : ∀ trail ending, claim trail ending → weaker trail ending) :
    x.Trails weaker :=
  Leads.mono trails fun deeds _ => imp (trailOf deeds)

/-- A flow that has run has left the trail that is claimed, whatever others did. -/
theorem Trails.of_takes {aside : World → World → Prop} {x : Flow α} {w w' : World}
    {deeds : List Deed} {ending : Ending α} {claim : List Posting → Ending α → Prop}
    (trails : x.Trails claim) (takes : x.Takes aside w deeds w' ending) :
    claim (trailOf deeds) ending :=
  Leads.of_takes trueRows_happen (fun _ => rfl) trails takes

/-- What follows on a flow adds its trail to that of the flow. -/
theorem trails_bind {x : Flow α} {f : α → Flow β} {claim : List Posting → Ending β → Prop}
    (trails : x.Trails fun trail ending =>
      match ending with
      | .done a => (f a).Trails fun more => claim (trail ++ more)
      | .failed why => claim trail (.failed why)
      | .crashed => claim trail .crashed) :
    (x >>= f).Trails claim := by
  rw [Trails, leads_bind]
  apply Leads.mono trails
  intro deeds _ ending claimed
  cases ending with
  | failed why => exact claimed
  | crashed => exact claimed
  | done a =>
      apply Leads.mono claimed
      intro more _ ending claimed
      simpa only [trailOf_append] using claimed

/-- A trackless flow leaves no trail, however it ends. -/
theorem Only.trails {x : Flow α} {claim : List Posting → Ending α → Prop}
    (trackless : x.Only Effect.IsTrackless) (any : ∀ ending, claim [] ending) : x.Trails claim := by
  induction x with
  | stop ending => exact any ending
  | ask effect next ih =>
      intro _ answer _
      apply Leads.mono (ih answer (trackless.2 answer))
      intro deeds _ ending claimed
      change claim (trailOf (⟨effect, answer⟩ :: deeds)) ending
      rw [trailOf_cons, show effect.posting? = none from trackless.1]
      exact claimed

/-- What follows on a trackless flow leaves all the trail, unless the flow fails or crashes. -/
theorem trails_after {x : Flow α} {f : α → Flow β} {claim : List Posting → Ending β → Prop}
    (trackless : x.Only Effect.IsTrackless) (failed : ∀ why, claim [] (.failed why))
    (crashed : claim [] .crashed) (rest : ∀ a, (f a).Trails claim) : (x >>= f).Trails claim := by
  apply trails_bind
  apply trackless.trails
  intro ending
  cases ending with
  | done a => exact rest a
  | failed why => exact failed why
  | crashed => exact crashed

/-- An effect that is performed leaves its audit event, if one comes of it, and is followed by what
answers it. -/
theorem trails_perform {effect : Effect} {f : effect.Answer → Flow β}
    {claim : List Posting → Ending β → Prop}
    (rest : ∀ answer, TrueRows effect () () answer →
      (f answer).Trails fun more => claim (effect.posting?.toList ++ more)) :
    (perform effect >>= f).Trails claim := by
  intro _ answer acts
  apply Leads.mono (rest answer acts)
  intro deeds _ ending claimed
  change claim (trailOf (⟨effect, answer⟩ :: deeds)) ending
  rwa [trailOf_cons]

end Flow

open FleetRoster.Flow

/-! ## What a report says to the payload tracker -/

namespace Report

/-- The audit event of an upload: its host, its request and its organization, with a status and the
reason of that. -/
def audit (r : Report) (status detail : String) : Audit where
  service := "hostsync"
  org := some r.org
  requestId := r.requestId
  inventoryId := r.inventoryId
  status := status
  detail := detail
  date := none

/-- What an upload that goes no further is reported as, if it came with a request. -/
def notice (r : Report) (status detail : String) : List Posting :=
  if r.requestId.isSome then [.sent (r.audit status detail)] else []

end Report

/-- The trails that an event may leave, with how its handler ends. -/
inductive Job.Leaves (job : Job) : List Posting → Ending Outcome → Prop
  | skipped (lane : job.kind.lane = .other) : job.Leaves [] (.done .skipped)
  | deleted (rows : Nat) (lane : job.kind.lane = .delete) : job.Leaves [] (.done (.deleted rows))
  /-- No organization can be made out, so there is nobody to report to. -/
  | misidentified (lane : job.kind.lane = .upload) : job.Leaves [] (.done (.rejected .badIdentity))
  /-- The packages are malformed. -/
  | malformed {r : Report} (reported : job.report? = some r) :
      job.Leaves (r.notice "error" "warn-bad-packages") (.done (.rejected .badPackages))
  /-- The host was deleted not long before. -/
  | ignored {r : Report} (reported : job.report? = some r) :
      job.Leaves (r.notice "success" "success-deleted") (.done .recentlyDeleted)
  /-- The audit event waits with the upload. -/
  | evaluated {r : Report} (account : Int) (reported : job.report? = some r) :
      job.Leaves [.queued (r.item account) (r.audit "received" "processing")]
        (.done (.evaluated account))
  | failed (why : Fault) (lane : job.kind.lane ≠ .other) : job.Leaves [] (.failed why)
  | crashed (lane : job.kind.lane ≠ .other) : job.Leaves [] .crashed

namespace Job

variable {job : Job}

theorem lane_of_report? {r : Report} (reported : job.report? = some r) :
    job.kind.lane = .upload := by
  unfold report? EventKind.report? at reported
  cases lane : job.kind.lane with
  | upload => rfl
  | delete => simp [lane] at reported
  | other => simp [lane] at reported

/-- The audit event of an event that ends like this: that of an evaluated upload waits with its
evaluation, that of an upload which was ignored or turned down for its packages is sent right away if
it came with a request, and nothing else has any. -/
def posting? (job : Job) (ending : Ending Outcome) : Option Posting :=
  match job.report?, ending with
  | some r, .done (.evaluated account) =>
      some (.queued (r.item account) (r.audit "received" "processing"))
  | some r, .done .recentlyDeleted =>
      if r.requestId.isSome then some (.sent (r.audit "success" "success-deleted")) else none
  | some r, .done (.rejected .badPackages) =>
      if r.requestId.isSome then some (.sent (r.audit "error" "warn-bad-packages")) else none
  | _, _ => none

/-- An event leaves the one audit event that its ending calls for, or none. -/
theorem Leaves.trail_eq {trail : List Posting} {ending : Ending Outcome}
    (leaves : job.Leaves trail ending) : trail = (job.posting? ending).toList := by
  unfold posting?
  cases leaves with
  | malformed reported =>
      rw [reported, Report.notice]
      dsimp only
      split <;> rfl
  | ignored reported =>
      rw [reported, Report.notice]
      dsimp only
      split <;> rfl
  | evaluated account reported =>
      rw [reported]
      rfl
  | _ => cases job.report? <;> rfl

/-- An event is skipped exactly if it is in the lane of the others. -/
theorem Leaves.skipped_iff {trail : List Posting} {ending : Ending Outcome}
    (leaves : job.Leaves trail ending) :
    ending = .done .skipped ↔ job.kind.lane = .other := by
  cases leaves with
  | skipped lane => simp [lane]
  | deleted _ lane => simp [lane]
  | misidentified lane => simp [lane]
  | malformed reported => simp [lane_of_report? reported]
  | ignored reported => simp [lane_of_report? reported]
  | evaluated _ reported => simp [lane_of_report? reported]
  | failed _ lane => simp [lane]
  | crashed lane => simp [lane]

end Job

/-! ## Parts of handlers -/

theorem trails_reportStatus (about : Log.Context) (audit : Audit) :
    (reportStatus about audit).Trails fun trail ending =>
      trail = audit.posting?.toList ∧ ending = .done () := by
  apply trails_perform
  intro answer _
  cases answer with
  | ok sent => exact ⟨List.append_nil _, rfl⟩
  | error why =>
      intro _ _ _ _ _ _
      exact ⟨List.append_nil _, rfl⟩

theorem trails_rejectUpload (about : Log.Context) (audit : Audit) (verdict : Verdict)
    (why : Fault) :
    (rejectUpload about audit verdict why).Trails fun trail ending =>
      trail = (audit.withStatus Audit.Status.error.text verdict.text).posting?.toList ∧
        ending = .done (.rejected verdict) := by
  apply trails_perform
  intro _ _
  apply trails_perform
  intro _ _
  apply trails_bind
  apply (trails_reportStatus _ _).mono
  rintro trail ending ⟨rfl, rfl⟩
  exact ⟨List.append_nil _, rfl⟩

theorem trails_ignoreUpload (about : Log.Context) (audit : Audit) (marker : Marker) :
    (ignoreUpload about audit marker).Trails fun trail ending =>
      trail = (audit.withStatus Audit.Status.success.text Verdict.deleted.text).posting?.toList ∧
        ending = .done .recentlyDeleted := by
  apply trails_perform
  intro _ _
  apply trails_perform
  intro _ _
  apply trails_bind
  apply (trails_reportStatus _ _).mono
  rintro trail ending ⟨rfl, rfl⟩
  exact ⟨List.append_nil _, rfl⟩

/-! ## Uploads -/

theorem Job.report?_eq {job : Job} {event : HostEvent} {host : Host} {inventoryId org : String}
    (lane : job.kind.lane = .upload) (decoded : HostEvent.ofMessage job.message = .ok event)
    (hosted : event.host = some host) (named : event.inventoryId = some inventoryId)
    (organized : event.organization host = .ok org) :
    job.report? = some ⟨host, inventoryId, org, event.requestId⟩ := by
  have reported : job.report? = event.report? := by
    rw [Job.report?, EventKind.report?, lane, decoded]
    rfl
  rw [reported, HostEvent.report?, hosted, named]
  dsimp only
  rw [organized]

/-- An upload can be followed exactly if it came with a request. -/
theorem isTracked_received {event : HostEvent} {host : Host} {org : String}
    (organized : event.organization host = .ok org) (inventoryId : String) :
    (Audit.received inventoryId (some org) event.requestId).isTracked = event.requestId.isSome := by
  have named := HostEvent.organization_named organized
  cases requested : event.requestId with
  | none => rfl
  | some id =>
      have filled : id.isEmpty = false := named_of_nonEmpty requested
      simp [Audit.isTracked, Audit.received, named, filled]

/-- An upload of which no organization can be made out cannot be followed. -/
theorem isTracked_of_error {event : HostEvent} {host : Host} {why : Fault}
    (unorganized : event.organization host = .error why) (inventoryId : String) :
    (Audit.received inventoryId host.orgId event.requestId).isTracked = false := by
  have unnamed : nonEmpty host.orgId = none := by
    unfold HostEvent.organization at unorganized
    cases own : nonEmpty host.orgId with
    | none => rfl
    | some org =>
        rw [own] at unorganized
        cases unorganized
  simp only [Audit.isTracked, Audit.received, Bool.and_eq_false_iff]
  right
  cases orged : host.orgId with
  | none => rfl
  | some org =>
      rw [orged, nonEmpty, Option.filter_eq_none_iff] at unnamed
      simpa using unnamed

/-- What is sent right away of an upload is the notice of its report. -/
theorem notice_of_organized {event : HostEvent} {host : Host} {inventoryId org : String}
    (organized : event.organization host = .ok org) (status detail : String) :
    ((Audit.received inventoryId (some org) event.requestId).withStatus status
        detail).posting?.toList =
      Report.notice ⟨host, inventoryId, org, event.requestId⟩ status detail := by
  have tracked : ((Audit.received inventoryId (some org) event.requestId).withStatus status
      detail).isTracked = event.requestId.isSome := isTracked_received organized inventoryId
  unfold Audit.posting? Report.notice
  rw [tracked]
  cases event.requestId <;> rfl

theorem trackless_now : Flow.now.Only Effect.IsTrackless :=
  only_perform rfl

theorem trackless_store (call : Store.Call) : (Flow.store call).Only Effect.IsTrackless :=
  only_store rfl

theorem trackless_recentMarker? (threshold : Nat) (inventoryId : String) :
    (recentMarker? threshold inventoryId).Only Effect.IsTrackless :=
  only_recentMarker? rfl rfl

/-- An upload that is stored leaves its audit event in the buffer, and one that is not leaves
nothing. -/
theorem trails_storeUpload (about : Log.Context) {job : Job} {event : HostEvent} {host : Host}
    {inventoryId org : String}
    (reported : job.report? = some ⟨host, inventoryId, org, event.requestId⟩) :
    (storeUpload about event host inventoryId org
      (.received inventoryId (some org) event.requestId)).Trails job.Leaves := by
  have lane : job.kind.lane ≠ .other := by
    rw [Job.lane_of_report? reported]
    decide
  have failed : ∀ why, job.Leaves [] (.failed why) := fun why => .failed why lane
  have crashed : job.Leaves [] .crashed := .crashed lane
  apply trails_after (only_resolveAccount about rfl rfl (fun _ => rfl) fun _ => rfl) failed crashed
  intro account
  apply trails_after trackless_now failed crashed
  intro time _ answer written
  cases answer with
  | error why => exact failed why
  | ok row =>
      have same : row.inventoryId = inventoryId := written row rfl
      rw [← same] at reported ⊢
      apply trails_perform
      intro _ _
      apply trails_perform
      intro _ _
      apply trails_perform
      intro _ _
      exact .evaluated account reported

/-- An upload that gets past the guard is stored, and otherwise it is ignored. -/
theorem trails_admitUpload (threshold : Nat) (about : Log.Context) {job : Job} {event : HostEvent}
    {host : Host} {inventoryId org : String}
    (reported : job.report? = some ⟨host, inventoryId, org, event.requestId⟩)
    (organized : event.organization host = .ok org) :
    (admitUpload threshold about event host inventoryId org
      (.received inventoryId (some org) event.requestId)).Trails job.Leaves := by
  have lane : job.kind.lane ≠ .other := by
    rw [Job.lane_of_report? reported]
    decide
  apply trails_after (trackless_recentMarker? threshold inventoryId) (fun why => .failed why lane)
    (.crashed lane)
  intro found
  cases found with
  | none => exact trails_storeUpload about reported
  | some marker =>
      apply (trails_ignoreUpload _ _ _).mono
      rintro trail ending ⟨rfl, rfl⟩
      rw [notice_of_organized organized]
      exact .ignored reported

/-- The handler of an upload leaves one of the trails of its event. -/
theorem trails_handleUpload (threshold : Nat) {job : Job} {event : HostEvent}
    (lane : job.kind.lane = .upload) (decoded : HostEvent.ofMessage job.message = .ok event) :
    (handleUpload threshold job.about event).Trails job.Leaves := by
  have handled : job.kind.lane ≠ .other := by
    rw [lane]
    decide
  unfold handleUpload
  cases hosted : event.host with
  | none => exact .failed _ handled
  | some host =>
      cases named : event.inventoryId with
      | none => exact .failed _ handled
      | some inventoryId =>
          dsimp only
          cases organized : event.organization host with
          | error why =>
              apply (trails_rejectUpload _ _ _ _).mono
              rintro trail ending ⟨rfl, rfl⟩
              have untracked : (Audit.withStatus (.received inventoryId host.orgId event.requestId)
                  Audit.Status.error.text Verdict.badIdentity.text).isTracked = false :=
                isTracked_of_error organized inventoryId
              rw [Audit.posting?, untracked]
              exact .misidentified lane
          | ok org =>
              have reported := Job.report?_eq lane decoded hosted named organized
              dsimp only
              cases checked : host.profile.check with
              | error why =>
                  apply (trails_rejectUpload _ _ _ _).mono
                  rintro trail ending ⟨rfl, rfl⟩
                  rw [notice_of_organized organized]
                  exact .malformed reported
              | ok passed => exact trails_admitUpload threshold job.about reported organized

/-! ## Deletions -/

theorem trackless_pruneMarkers (about : Log.Context) (limit : Calendar.Instant) :
    (pruneMarkers about limit).Only Effect.IsTrackless :=
  only_pruneMarkers rfl fun _ => rfl

/-- A deletion leaves no trail, and ends as deletions do. -/
theorem trails_handleDelete (threshold : Nat) {job : Job} (event : HostEvent)
    (lane : job.kind.lane = .delete) :
    (handleDelete threshold job.about event).Trails job.Leaves := by
  have handled : job.kind.lane ≠ .other := by
    rw [lane]
    decide
  have failed : ∀ why, job.Leaves [] (.failed why) := fun why => .failed why handled
  have crashed : job.Leaves [] .crashed := .crashed handled
  have cleared : ∀ time rows, (clearOutdated threshold job.about time rows).Trails job.Leaves := by
    intro time rows
    unfold clearOutdated
    split
    · exact crashed
    next limit _ =>
      apply trails_after (trackless_pruneMarkers _ _) failed crashed
      intro _
      exact .deleted rows lane
  cases named : event.inventoryId with
  | none =>
      unfold handleDelete
      rw [named]
      exact failed _
  | some inventoryId =>
      rw [handleDelete_of_some threshold job.about named]
      apply trails_after trackless_now failed crashed
      intro time
      refine trails_after (trackless_store _) failed crashed fun _ => ?_
      refine trails_after (trackless_store _) failed crashed fun rows => ?_
      unfold finishDelete
      dsimp only
      split
      · exact trails_after (only_perform rfl) failed crashed fun _ =>
          trails_after (only_perform rfl) failed crashed fun _ => cleared time rows
      · exact trails_after (only_perform rfl) failed crashed fun _ =>
          trails_after (only_perform rfl) failed crashed fun _ => cleared time rows

/-! ## Events -/

/-- The handler of every event leaves one of its trails. -/
theorem trails_handler (threshold : Nat) (job : Job) :
    (job.handler threshold).Trails job.Leaves := by
  unfold Job.handler dispatch
  cases lane : job.kind.lane with
  | other =>
      apply trails_perform
      intro _ _
      exact .skipped lane
  | delete =>
      cases HostEvent.ofMessage job.message with
      | error why => exact .failed why (by rw [lane]; decide)
      | ok event => exact trails_handleDelete threshold event lane
  | upload =>
      cases decoded : HostEvent.ofMessage job.message with
      | error why => exact .failed why (by rw [lane]; decide)
      | ok event => exact trails_handleUpload threshold lane decoded

/-- An event that was handled has left one of its trails, whatever others did. -/
theorem leaves_of_takes {threshold : Nat} {aside : World → World → Prop} {e : Entry Job Outcome}
    (takes : (e.event.handler threshold).Takes aside e.before e.deeds e.after e.ending) :
    e.event.Leaves (trailOf e.deeds) e.ending :=
  (trails_handler threshold e.event).of_takes takes

/-! ## Messages -/

section

variable {aside : World → World → Prop} {w w' : World} {deeds : List Deed}

theorem Flow.Only.trail {α : Type} {x : Flow α} {ending : Ending α}
    (trackless : x.Only Effect.IsTrackless) (takes : x.Takes aside w deeds w' ending) :
    trailOf deeds = [] :=
  trailOf_of_trackless (trackless.of_takes takes)

theorem trackless_log (notice : Notice) : (Flow.log notice).Only Effect.IsTrackless :=
  only_perform rfl

theorem trackless_abandonMessage (about : Log.Context) (id : String) (lane : Lane) (made : Nat)
    (why : Fault) : (abandonMessage about id lane made why).Only Effect.IsTrackless :=
  (trackless_log _).bind fun _ => only_perform rfl

theorem trackless_retryPause (delay : Nat) (about : Log.Context) (id : String) (made : Nat)
    (why : Fault) : (retryPause delay about id made why).Only Effect.IsTrackless :=
  (trackless_log _).bind fun _ => only_perform rfl

variable {delay : Nat} {about : Log.Context} {id : String} {lane : Lane} {work : Flow Outcome}
  {further made : Nat} {tries : List (Entry Nat Outcome)} {ending : Ending Unit}

/-- Attempts leave their own trails, one after the other, and nothing is left between them. -/
theorem Tries.trail {claim : List Posting → Ending Outcome → Prop} (trails : work.Trails claim)
    (t : Tries delay about id lane work aside further made w tries deeds w' ending) :
    trailOf deeds = tries.flatMap (trailOf ·.deeds) ∧
      ∀ e ∈ tries, claim (trailOf e.deeds) e.ending := by
  induction t with
  | done takes logs =>
      simp only [trailOf_append, (trackless_log _).trail logs, List.flatMap_singleton,
        List.append_nil, List.forall_mem_singleton, true_and]
      exact trails.of_takes takes
  | crashed takes =>
      simp only [List.flatMap_singleton, List.forall_mem_singleton, true_and]
      exact trails.of_takes takes
  | abandoned takes last gives =>
      simp only [trailOf_append, (trackless_abandonMessage _ _ _ _ _).trail gives,
        List.flatMap_singleton, List.append_nil, List.forall_mem_singleton, true_and]
      exact trails.of_takes takes
  | again takes passing pauses rest ih =>
      simp only [trailOf_append, (trackless_retryPause _ _ _ _ _).trail pauses, ih.1,
        List.flatMap_cons, List.nil_append, List.forall_mem_cons, true_and]
      exact ⟨trails.of_takes takes, ih.2⟩

end

/-- A message leaves the trails of its attempts, each of them one of the trails of its event. -/
structure Entry.Trailed (e : Entry Inbound Unit) (tries : List (Entry Nat Outcome)) : Prop where
  trail : trailOf e.deeds = tries.flatMap (trailOf ·.deeds)
  leaves : ∀ value, Json.readValue e.event.payload = .ok value →
    ∀ t ∈ tries, (Job.ofMessage value).Leaves (trailOf t.deeds) t.ending

/-- Whoever handles a message leaves the trails of its attempts. -/
theorem Attempts.trailed {settings : Settings} {aside : World → World → Prop}
    {e : Entry Inbound Unit} {tries : List (Entry Nat Outcome)}
    (takes : (handleMessage settings e.event).Takes aside e.before e.deeds e.after e.ending)
    (attempts : Attempts settings aside e tries) : e.Trailed tries := by
  cases attempts with
  | @unread why unread =>
      have trackless : (handleMessage settings e.event).Only Effect.IsTrackless := by
        refine Only.bind (only_perform rfl) fun serial => ?_
        rw [unread]
        exact (trackless_log _).bind fun _ => only_perform rfl
      exact ⟨trackless.trail takes, fun value read => nomatch unread.symm.trans read⟩
  | @read value _ _ _ _ more _ read numbers arrives tried goesOn =>
      obtain ⟨trail, leaves⟩ := tried.trail
        (trails_handler settings.thresholdNanos (Job.ofMessage value))
      refine ⟨?_, fun other alsoRead => ?_⟩
      · rw [goesOn]
        exact trail
      · cases read.symm.trans alsoRead
        exact leaves

end FleetRoster
