import FleetRoster.Proofs.Event.Headers
import FleetRoster.Proofs.Handler.Permanence

/-!
# Whose hosts are uploaded

An upload is on behalf of the organization of its host, or else of the one that its identity header
names, whichever alphabet the header is written in. All that is done for an organization is then
done for this one. An upload of which neither the host nor the header names an organization is turned
down, and no other one is turned down for that.
-/

namespace FleetRoster

open FleetRoster.Flow
open Text (IsSetOff)
open Text.Base64 (Alphabet encode)

/-! ## Acting for an organization -/

/-- An effect that is on behalf of an organization is on behalf of this one. -/
def Effect.IsFor (org : String) : Effect → Prop
  | .known other => other = org
  | .remember other _ => other = org
  | .store (.upsertAccount other) => other = org
  | .buffer item audit => item.org = org ∧ audit.org = some org
  | .sendAudit audit => audit.org = some org
  | _ => True

/-- An upload was queued for an organization, under an account. -/
def Queued (deeds : List Deed) (org : String) (account : Int) : Prop :=
  ∃ item audit report, ⟨.buffer item audit, report⟩ ∈ deeds ∧ item.org = org ∧
    item.account = account

/-- An upload is handled on behalf of an organization. -/
structure Flow.ActsFor (x : Flow Outcome) (org : String) : Prop where
  /-- Whatever is done for an organization is done for this one. -/
  deeds {aside : World → World → Prop} {w w' : World} {deeds : List Deed}
    {ending : Ending Outcome} (takes : x.Takes aside w deeds w' ending) :
    ∀ d ∈ deeds, d.effect.IsFor org
  /-- If the upload is evaluated, it was queued for this organization, under the account of the
  outcome. -/
  queued {aside : World → World → Prop} {w w' : World} {deeds : List Deed} {account : Int}
    (takes : x.Takes aside w deeds w' (.done (.evaluated account))) : Queued deeds org account
  /-- It is not turned down for want of an organization. -/
  identified {aside : World → World → Prop} {w w' : World} {deeds : List Deed}
    {ending : Ending Outcome} (takes : x.Takes aside w deeds w' ending) :
    ending ≠ .done (.rejected .badIdentity)

section

variable {org : String} {about : Log.Context} {audit : Audit}

theorem mayDismiss_isFor (isFor : audit.org = some org) : MayDismiss (Effect.IsFor org) audit where
  logs _ := trivial
  counts _ := trivial
  sends _ _ := isFor
  owes _ := trivial

theorem mayStore_isFor (isFor : audit.org = some org) :
    MayStore (Effect.IsFor org) org audit where
  knows := rfl
  asks := rfl
  remembers _ := rfl
  reads := trivial
  writes _ := trivial
  queues _ _ _ _ _ := ⟨rfl, isFor⟩
  logs _ := trivial
  counts _ := trivial

theorem only_admitUpload {threshold : Nat} {event : HostEvent} {host : Host} {inventoryId : String}
    (isFor : audit.org = some org) :
    (admitUpload threshold about event host inventoryId org audit).Only (Effect.IsFor org) := by
  apply (only_recentMarker? trivial trivial).bind
  intro found
  cases found with
  | some marker => exact only_ignoreUpload (mayDismiss_isFor isFor)
  | none => exact only_storeUpload (mayStore_isFor isFor)

end

/-! ## Queueing for an organization -/

/-- What a flow has evaluated, it has queued for the organization. -/
def Flow.Queues (x : Flow Outcome) (org : String) : Prop :=
  x.Leads Frank () fun deeds _ ending =>
    ∀ account, ending = .done (.evaluated account) → Queued deeds org account

namespace Flow

variable {org : String}

theorem Queues.of_takes {aside : World → World → Prop} {x : Flow Outcome} {w w' : World}
    {deeds : List Deed} {account : Int} (queues : x.Queues org)
    (takes : x.Takes aside w deeds w' (.done (.evaluated account))) : Queued deeds org account :=
  Leads.of_takes frank_happen (fun _ => rfl) queues takes account rfl

theorem queues_stop {ending : Ending Outcome}
    (other : ∀ account, ending ≠ .done (.evaluated account)) : (stop ending).Queues org :=
  fun account evaluated => absurd evaluated (other account)

theorem queues_ask {effect : Effect} {next : effect.Answer → Flow Outcome}
    (rest : ∀ answer, (next answer).Queues org) : (ask effect next).Queues org := by
  intro _ answer _
  apply Leads.mono (rest answer)
  intro deeds _ ending queued account evaluated
  obtain ⟨item, audit, report, mem, isFor⟩ := queued account evaluated
  exact ⟨item, audit, report, List.mem_cons_of_mem _ mem, isFor⟩

/-- Whatever comes before it, what comes last is queued. -/
theorem queues_after {α : Type} {x : Flow α} {f : α → Flow Outcome}
    (rest : ∀ a, (f a).Queues org) : (x >>= f).Queues org := by
  change (x.bind f).Queues org
  induction x with
  | stop ending =>
      cases ending with
      | done a => exact rest a
      | failed why => exact queues_stop nofun
      | crashed => exact queues_stop nofun
  | ask effect next ih => exact queues_ask ih

end Flow

theorem queues_rejectUpload {about : Log.Context} {audit : Audit} {verdict : Verdict} {why : Fault}
    {org : String} : (rejectUpload about audit verdict why).Queues org :=
  queues_after fun _ => queues_after fun _ => queues_after fun _ => queues_stop nofun

theorem queues_ignoreUpload {about : Log.Context} {audit : Audit} {marker : Marker} {org : String} :
    (ignoreUpload about audit marker).Queues org :=
  queues_after fun _ => queues_after fun _ => queues_after fun _ => queues_stop nofun

theorem queues_storeUpload {about : Log.Context} {event : HostEvent} {host : Host}
    {inventoryId org : String} {audit : Audit} :
    (storeUpload about event host inventoryId org audit).Queues org := by
  apply queues_after
  intro account
  apply queues_after
  intro time
  apply queues_after
  intro row _ report _
  -- The outcome has the account with which the upload was just queued.
  have ends : (Flow.log (.uploaded about inventoryId account row.id (host.reporter.getD "unknown"))
      >>= fun _ => Flow.count .upload .evaluated >>= fun _ => pure (.evaluated account)).Excused
        (· = Outcome.evaluated account) :=
    excused_of_firm (firm_perform _) fun _ => excused_of_firm (firm_perform _) fun _ =>
      excused_pure rfl
  apply Leads.mono ends
  rintro deeds _ _ explained _ rfl
  cases explained
  exact ⟨_, _, report, List.mem_cons_self, rfl, rfl⟩

theorem queues_admitUpload {threshold : Nat} {about : Log.Context} {event : HostEvent} {host : Host}
    {inventoryId org : String} {audit : Audit} :
    (admitUpload threshold about event host inventoryId org audit).Queues org := by
  apply queues_after
  intro found
  cases found with
  | some marker => exact queues_ignoreUpload
  | none => exact queues_storeUpload

/-! ## Uploads -/

section

variable {threshold : Nat} {about : Log.Context} {event : HostEvent} {host : Host}
  {inventoryId org : String} (hosted : event.host = some host)
  (named : event.inventoryId = some inventoryId)

include hosted named

/-- What becomes of an upload is settled by what is found of its organization. -/
theorem handleUpload_of_hosted :
    handleUpload threshold about event =
      match event.organization host with
      | .error why =>
          rejectUpload about (.received inventoryId host.orgId event.requestId) .badIdentity why
      | .ok org =>
          match host.profile.check with
          | .error why =>
              rejectUpload about (.received inventoryId (some org) event.requestId) .badPackages why
          | .ok _ =>
              admitUpload threshold about event host inventoryId org
                (.received inventoryId (some org) event.requestId) := by
  rw [handleUpload, hosted, named]
  rfl

/-- Nothing else of the header matters than what is found of the organization. -/
theorem handleUpload_congr {one other : Option String}
    (same : { event with identity := one }.organization host =
      { event with identity := other }.organization host) :
    handleUpload threshold about { event with identity := one } =
      handleUpload threshold about { event with identity := other } := by
  have settled (identity : Option String) :
      handleUpload threshold about { event with identity } = _ :=
    handleUpload_of_hosted hosted named
  rw [settled one, settled other, same]
  rfl

/-- An upload is handled on behalf of the organization that was found for it. -/
theorem actsFor_of_organized (organized : event.organization host = .ok org) :
    (handleUpload threshold about event).ActsFor org := by
  have isFor : (Audit.received inventoryId (some org) event.requestId).org = some org := rfl
  rw [handleUpload_of_hosted hosted named, organized]
  dsimp only
  cases host.profile.check with
  | error why =>
      exact {
        deeds := (only_rejectUpload (mayDismiss_isFor isFor)).of_takes
        queued := queues_rejectUpload.of_takes
        identified := fun takes => by
          rw [ending_rejectUpload takes]
          nofun }
  | ok passed =>
      have named : org.isEmpty = false := HostEvent.organization_named organized
      exact {
        deeds := (only_admitUpload isFor).of_takes
        queued := queues_admitUpload.of_takes
        identified := by
          rintro aside w w' deeds _ takes rfl
          exact (excused_admitUpload _ _ _ _ _ _ named).of_takes takes _ rfl }

end

/-- On whose behalf the upload of a host is handled. -/
structure OrganizationFound (threshold : Nat) (about : Log.Context) (event : HostEvent)
    (host : Host) : Prop where
  headers : HeadersRead
  /-- It is on behalf of the organization of the host, and no header is looked at then. -/
  own {org : String} (own : nonEmpty host.orgId = some org) :
    (handleUpload threshold about event).ActsFor org ∧
      ∀ identity, handleUpload threshold about { event with identity } =
        handleUpload threshold about event
  /-- Where the host names none, it is on behalf of the organization that the header names, which is
  in either alphabet and with blanks around it or without. -/
  headed {alphabet : Alphabet} {bytes : List UInt8} {header : String} {identity : Identity}
    {org : String} (unowned : nonEmpty host.orgId = none) (isHeader : event.identity = some header)
    (form : IsSetOff (encode alphabet bytes) header)
    (decoded : Identity.ofBytes bytes = .ok identity)
    (names : nonEmpty identity.orgId = some org) :
    (handleUpload threshold about event).ActsFor org
  /-- Two headers that are forms of the same bytes make no difference. -/
  alike {alphabet other : Alphabet} {bytes : List UInt8} {header text : String}
    (form : IsSetOff (encode alphabet bytes) header) (same : IsSetOff (encode other bytes) text) :
    handleUpload threshold about { event with identity := some header } =
      handleUpload threshold about { event with identity := some text }
  /-- Where the host names none, the upload is turned down for that exactly if there is no header,
  or none that can be read, or the one that there is names none either. -/
  turnedDown {aside : World → World → Prop} {w w' : World} {deeds : List Deed}
    {ending : Ending Outcome} (unowned : nonEmpty host.orgId = none)
    (takes : (handleUpload threshold about event).Takes aside w deeds w' ending) :
    ending = .done (.rejected .badIdentity) ↔ event.Unheaded
  alone (unowned : nonEmpty host.orgId = none) (w : World) :
    ((handleUpload threshold about event).runIn w).2 = .done (.rejected .badIdentity) ↔
      event.Unheaded
  verdict : Verdict.badIdentity.text = "error-identity"

section

variable {threshold : Nat} {about : Log.Context} {event : HostEvent} {host : Host}
  {inventoryId : String}

theorem turnedDown_iff (hosted : event.host = some host)
    (named : event.inventoryId = some inventoryId) {aside : World → World → Prop} {w w' : World}
    {deeds : List Deed} {ending : Ending Outcome} (unowned : nonEmpty host.orgId = none)
    (takes : (handleUpload threshold about event).Takes aside w deeds w' ending) :
    ending = .done (.rejected .badIdentity) ↔ event.Unheaded := by
  constructor
  case mp =>
    rintro rfl
    by_contra headed
    obtain ⟨org, organized⟩ := HostEvent.exists_organization unowned headed
    exact (actsFor_of_organized hosted named organized).identified takes rfl
  case mpr =>
    intro unheaded
    obtain ⟨why, failed⟩ := HostEvent.organization_of_unheaded unowned unheaded
    rw [handleUpload_of_hosted hosted named, failed] at takes
    exact ending_rejectUpload takes

/-- Every upload is handled on behalf of the organization of its host or of its header, and of no
other. -/
theorem organization_found (threshold : Nat) (about : Log.Context) (hosted : event.host = some host)
    (named : event.inventoryId = some inventoryId) :
    OrganizationFound threshold about event host where
  headers := headersRead
  own {org} own := by
    have same (event : HostEvent) : event.organization host = .ok org :=
      HostEvent.organization_of_own own
    refine ⟨actsFor_of_organized hosted named (same event), fun identity => ?_⟩
    exact handleUpload_congr hosted named ((same _).trans (same _).symm)
  headed unowned isHeader form decoded names :=
    actsFor_of_organized hosted named <| HostEvent.organization_of_header unowned isHeader
      ((headersRead.read form).trans decoded) names
  alike form same := by
    apply handleUpload_congr hosted named
    simp only [HostEvent.organization, headersRead.read form, headersRead.read same]
  turnedDown := turnedDown_iff hosted named
  alone unowned w := by
    have takes : (handleUpload threshold about event).Takes (fun _ _ => True) w _ _ _ :=
      takes_runIn (fun _ _ => trivial) _ w
    exact turnedDown_iff hosted named unowned takes
  verdict := rfl

end

/-! ## One identity in two alphabets -/

/-- An upload with a header, of a host without an organization. -/
def HostEvent.headed (header : String) : HostEvent where
  identity := some header
  host := some { id := some "host-1" }

/-- What the lines about such an upload start with. -/
def Log.Context.sample : Log.Context :=
  .ofMessage "updated" (some "host-1")

/-- The bytes of an identity with which the two alphabets differ. -/
def Identity.sampleBytes : List UInt8 :=
  Text.encodeBytes "\x7b\"identity\":\x7b\"org_id\":\"?o:>\"\x7d\x7d"

/-- Both headers name the organization, and the one that mixes the alphabets names none. -/
theorem organization_found_sample :
    (HostEvent.headed "eyJpZGVudGl0eSI6eyJvcmdfaWQiOiI_bzo-In19").inventoryId = some "host-1" ∧
      (handleUpload 0 .sample
        (.headed "  eyJpZGVudGl0eSI6eyJvcmdfaWQiOiI/bzo+In19\n")).ActsFor "?o:>" ∧
      (handleUpload 0 .sample
        (.headed "eyJpZGVudGl0eSI6eyJvcmdfaWQiOiI_bzo-In19")).ActsFor "?o:>" ∧
      ∀ w, ((handleUpload 0 .sample
        (.headed "eyJpZGVudGl0eSI6eyJvcmdfaWQiOiI/bzo-In19")).runIn w).2 =
          .done (.rejected .badIdentity) := by
  have decoded : Identity.ofBytes Identity.sampleBytes = .ok { orgId := some "?o:>" } := by
    decide +kernel
  have form (alphabet : Alphabet) (header : String)
      (trimmed : Text.trim header = encode alphabet Identity.sampleBytes) :
      IsSetOff (encode alphabet Identity.sampleBytes) header :=
    (Text.trim_eq_iff fun _ => Text.Base64.isBlank_of_mem_encode).mp trimmed
  have mixed : Identity.ofHeader "eyJpZGVudGl0eSI6eyJvcmdfaWQiOiI/bzo-In19" =
      .error (.identity "base64: Invalid byte 47, offset 31.") := by
    decide +kernel
  refine ⟨rfl, ?standard, ?urlSafe, ?mixed⟩
  case standard =>
    exact (organization_found 0 .sample rfl rfl).headed rfl rfl
      (form .standard _ (by decide +kernel)) decoded rfl
  case urlSafe =>
    exact (organization_found 0 .sample rfl rfl).headed rfl rfl
      (form .urlSafe _ (by decide +kernel)) decoded rfl
  case mixed =>
    intro w
    exact ((organization_found 0 .sample rfl rfl).alone rfl w).mpr (.undecodable rfl mixed)

end FleetRoster
