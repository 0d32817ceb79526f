import FleetRoster.Proofs.Handler.Answered
import FleetRoster.Proofs.Handler.Heed
import FleetRoster.Proofs.Handler.Tries

/-!
# Permanent means independent of the state

Whether an event fails for good or is turned down is settled by its message, before the store is
asked for anything: it comes to the same end in every world, whatever others do meanwhile. An event
that gets past that point fails only because a call of the store was refused, and it fails with the
fault of that call. So a further attempt is never given up that could have gone otherwise, and none
is made but because the store has failed.
-/

namespace FleetRoster

open FleetRoster.Flow

/-- An event has failed for good or was turned down. -/
def Ending.IsSettled : Ending Outcome → Prop
  | .failed why => why.isPermanent
  | .done (.rejected _) => True
  | _ => False

/-- An effect that is no call of the store. -/
def Effect.IsStoreless : Effect → Prop
  | .store _ => False
  | _ => True

theorem Effect.IsStoreless.isAnswered {d : Deed} (storeless : d.effect.IsStoreless) :
    d.IsAnswered := by
  obtain ⟨effect, answer⟩ := d
  cases effect with
  | store call => exact storeless.elim
  | _ => trivial

/-- A call of the store was refused with this fault. -/
def Refused (deeds : List Deed) (why : Fault) : Prop :=
  ∃ call : Store.Call, why = call.refusal ∧ ⟨.store call, .error why⟩ ∈ deeds

/-- How a handler fails. -/
structure Flow.FailsReliably (x : Flow Outcome) : Prop where
  /-- Where it has failed for good or turned an upload down, it has not asked the store for anything.
  In every world it comes to that end, and to no other, whatever others do meanwhile. -/
  settled {aside : World → World → Prop} {w w' : World} {deeds : List Deed}
    {ending : Ending Outcome} (takes : x.Takes aside w deeds w' ending)
    (settled : ending.IsSettled) :
    (∀ d ∈ deeds, d.effect.IsStoreless) ∧ (∀ v, (x.runIn v).2 = ending) ∧
      ∀ {others v more v' other}, x.Takes others v more v' other → other = ending
  /-- Where it has failed for now, the store has refused it something. -/
  passing {aside : World → World → Prop} {w w' : World} {deeds : List Deed} {why : Fault}
    (takes : x.Takes aside w deeds w' (.failed why)) (passing : why.isPermanent = false) :
    Refused deeds why

/-- The attempts at a message were made for a reason. -/
structure TriedWithReason (settings : Settings) (payload : Text.Payload)
    (tries : List (Entry Nat Outcome)) : Prop where
  /-- An attempt that is followed by another one was refused something by the store. -/
  again : ∀ e ∈ tries.dropLast, ∃ why, e.ending = .failed why ∧ Refused e.deeds why
  /-- Where a message is given up before its time, every attempt at it would fail so. -/
  givenUp {last : Entry Nat Outcome} {why : Fault} (isLast : tries.getLast? = some last)
    (failed : last.ending = .failed why) (early : tries.length ≤ settings.retries) :
    ∃ value, Json.readValue payload = .ok value ∧
      ∀ v, (((Job.ofMessage value).handler settings.thresholdNanos).runIn v).2 = .failed why

/-- How a fault is classed says whether another attempt can go otherwise. -/
structure FaultsReliable (settings : Settings) : Prop where
  events (threshold : Nat) (job : Job) : (job.handler threshold).FailsReliably
  messages {aside : World → World → Prop} {e : Entry Inbound Unit}
    (takes : (handleMessage settings e.event).Takes aside e.before e.deeds e.after e.ending) :
    ∃ tries, Attempts settings aside e tries ∧ TriedWithReason settings e.event.payload tries

/-! ## Flows that fail only because of the store -/

/-- What the store may answer: where it refuses a call, it does so in its own words. -/
def Frank : View Unit
  | .store call, _, _, answer => ∀ why, answer = .error why → why = call.refusal
  | _, _, _, _ => True

/-- Nothing of a world is looked at. -/
def World.unseen (_ : World) : Unit :=
  ()

theorem frank_happen (effect : Effect) (w : World) :
    Frank effect w.unseen (World.happen effect w).1.unseen (World.happen effect w).2 := by
  cases effect with
  | store call =>
      intro why refused
      change (w.call call).2 = .error why at refused
      unfold World.call at refused
      split at refused
      · cases refused
        rfl
      · cases refused
  | _ => trivial

theorem Refused.after {deeds : List Deed} {why : Fault} (refused : Refused deeds why)
    (earlier : List Deed) : Refused (earlier ++ deeds) why := by
  obtain ⟨call, rfl, mem⟩ := refused
  exact ⟨call, rfl, List.mem_append_right _ mem⟩

namespace Flow

variable {α β : Type}

/-- An ending in failure is explained by a refusal, and a result is as claimed. -/
def Explained (good : α → Prop) (deeds : List Deed) : Ending α → Prop
  | .done a => good a
  | .failed why => Refused deeds why
  | .crashed => True

/-- A flow that fails only because the store refuses a call, and otherwise has such a result. -/
def Excused (good : α → Prop) (x : Flow α) : Prop :=
  x.Leads Frank () fun deeds _ ending => Explained good deeds ending

theorem Explained.after {good : α → Prop} {deeds : List Deed} {ending : Ending α}
    (explained : Explained good deeds ending) (earlier : List Deed) :
    Explained good (earlier ++ deeds) ending := by
  cases ending with
  | done a => exact explained
  | failed why => exact Refused.after explained earlier
  | crashed => trivial

theorem excused_pure {good : α → Prop} {a : α} (fine : good a) : (pure a : Flow α).Excused good :=
  fine

/-- Flows in a row fail only because of the store if each of them does. -/
theorem Excused.bind {x : Flow α} {f : α → Flow β} {good : α → Prop} {fine : β → Prop}
    (first : x.Excused good) (rest : ∀ a, good a → (f a).Excused fine) :
    (x >>= f).Excused fine := by
  rw [Excused, leads_bind]
  apply Leads.mono first
  intro deeds _ ending explained
  cases ending with
  | done a =>
      apply Leads.mono (rest a explained)
      intro more _ other explained
      exact explained.after deeds
  | failed why => exact explained
  | crashed => trivial

/-- A flow that cannot fail needs no excuse. -/
theorem Firm.excused {x : Flow α} (firm : x.Firm) : x.Excused fun _ => True := by
  apply firm.leads
  intro deeds _ ending notFailed
  cases ending with
  | done a => trivial
  | failed why => exact absurd rfl (notFailed why)
  | crashed => trivial

theorem excused_store (call : Store.Call) : (store call).Excused fun _ => True := by
  intro _ answer frank
  cases answer with
  | error why => exact ⟨call, frank why rfl, List.mem_singleton_self _⟩
  | ok found => trivial

/-- A flow that has run ended with a result as claimed, or was refused something. -/
theorem Excused.of_takes {aside : World → World → Prop} {x : Flow α} {w w' : World}
    {deeds : List Deed} {ending : Ending α} {good : α → Prop} (excused : x.Excused good)
    (takes : x.Takes aside w deeds w' ending) : Explained good deeds ending :=
  Leads.of_takes frank_happen (fun _ => rfl) excused takes

/-- What a flow has done is of the kind that it may do. -/
theorem Only.of_takes {allowed : Effect → Prop} {aside : World → World → Prop} {x : Flow α}
    {w w' : World} {deeds : List Deed} {ending : Ending α} (only : x.Only allowed)
    (takes : x.Takes aside w deeds w' ending) : ∀ d ∈ deeds, allowed d.effect := by
  induction takes with
  | stop ending w => simp
  | aside others rest ih => exact ih only
  | ask rest ih =>
      rw [List.forall_mem_cons]
      exact ⟨only.1, ih (only.2 _)⟩

end Flow

/-! ## Parts of handlers -/

theorem storeless_rejectUpload (about : Log.Context) (audit : Audit) (verdict : Verdict)
    (why : Fault) : (rejectUpload about audit verdict why).Only Effect.IsStoreless :=
  only_rejectUpload ⟨fun _ => trivial, fun _ => trivial, fun _ _ => trivial, fun _ => trivial⟩

/-- An upload that is turned down is turned down in every run. -/
theorem ending_rejectUpload {about : Log.Context} {audit : Audit} {verdict : Verdict} {why : Fault}
    {aside : World → World → Prop} {w w' : World} {deeds : List Deed} {ending : Ending Outcome}
    (takes : (rejectUpload about audit verdict why).Takes aside w deeds w' ending) :
    ending = .done (.rejected verdict) :=
  (ends_rejectUpload about audit verdict why).of_takes takes fun d mem =>
    ((storeless_rejectUpload about audit verdict why).of_takes takes d mem).isAnswered

/-- An outcome other than that an upload was turned down. -/
def Outcome.IsOpen (outcome : Outcome) : Prop :=
  ∀ verdict, outcome ≠ .rejected verdict

/-- A flow that cannot fail may come before any result. -/
theorem excused_of_firm {α β : Type} {x : Flow α} {f : α → Flow β} {good : β → Prop}
    (firm : x.Firm) (rest : ∀ a, (f a).Excused good) : (x >>= f).Excused good :=
  firm.excused.bind fun a _ => rest a

theorem excused_ignoreUpload (about : Log.Context) (audit : Audit) (marker : Marker) :
    (ignoreUpload about audit marker).Excused Outcome.IsOpen :=
  excused_of_firm (firm_perform _) fun _ => excused_of_firm (firm_perform _) fun _ =>
    excused_of_firm (firm_reportStatus _ _) fun _ => excused_pure nofun

theorem excused_recentMarker? (threshold : Nat) (inventoryId : String) :
    (recentMarker? threshold inventoryId).Excused fun _ => True := by
  apply (excused_store _).bind
  intro found _
  cases found with
  | none => exact excused_pure trivial
  | some marker => exact excused_of_firm (firm_perform _) fun _ => excused_pure trivial

/-- The account of a named organization is not found only where the store refuses to look it up. -/
theorem excused_resolveAccount (about : Log.Context) {org : String} (named : org.isEmpty = false) :
    (resolveAccount about org).Excused fun _ => True := by
  unfold resolveAccount
  rw [named, if_neg Bool.false_ne_true]
  have kept (found : Int) : (Flow.remember org found >>= fun kept => do
      if kept = found then Flow.log (.accountRemembered about org found)
      else Flow.log (.accountMismatch about org kept found)
      pure kept).Excused fun _ => True := by
    apply excused_of_firm (firm_perform _)
    intro kept
    dsimp only
    split
    · exact excused_of_firm (firm_perform _) fun _ => excused_pure trivial
    · exact excused_of_firm (firm_perform _) fun _ => excused_pure trivial
  apply excused_of_firm (firm_perform _)
  intro known
  cases known with
  | some account => exact excused_pure trivial
  | none =>
      intro _ answer frank
      cases answer with
      | error why =>
          intro _ _ _
          exact ⟨.upsertAccount org, frank why rfl, List.mem_cons_self⟩
      | ok found =>
          apply Leads.mono (kept found)
          intro more _ ending explained
          exact explained.after [_]

theorem excused_storeUpload (about : Log.Context) (event : HostEvent) (host : Host)
    (inventoryId : String) {org : String} (audit : Audit) (named : org.isEmpty = false) :
    (storeUpload about event host inventoryId org audit).Excused Outcome.IsOpen := by
  apply (excused_resolveAccount about named).bind
  intro account _
  apply excused_of_firm (firm_perform _)
  intro time
  apply (excused_store _).bind
  intro row _
  exact excused_of_firm (firm_perform _) fun _ => excused_of_firm (firm_perform _) fun _ =>
    excused_of_firm (firm_perform _) fun _ => excused_pure nofun

theorem excused_admitUpload (threshold : Nat) (about : Log.Context) (event : HostEvent) (host : Host)
    (inventoryId : String) {org : String} (audit : Audit) (named : org.isEmpty = false) :
    (admitUpload threshold about event host inventoryId org audit).Excused Outcome.IsOpen := by
  apply (excused_recentMarker? _ _).bind
  intro found _
  cases found with
  | some marker => exact excused_ignoreUpload _ _ _
  | none => exact excused_storeUpload _ _ _ _ _ named

theorem excused_finishDelete (threshold : Nat) (about : Log.Context) (inventoryId : String)
    (now : Calendar.Instant) (rows : Nat) :
    (finishDelete threshold about inventoryId now rows).Excused Outcome.IsOpen := by
  have rest : (clearOutdated threshold about now rows).Excused Outcome.IsOpen := by
    unfold clearOutdated
    split
    · trivial
    · exact excused_of_firm (firm_pruneMarkers _ _) fun _ => excused_pure nofun
  unfold finishDelete
  dsimp only
  split
  · exact excused_of_firm (firm_perform _) fun _ => excused_of_firm (firm_perform _) fun _ => rest
  · exact excused_of_firm (firm_perform _) fun _ => excused_of_firm (firm_perform _) fun _ => rest

/-! ## Events -/

/-- What settles how a flow fails. -/
inductive Flow.Settles (x : Flow Outcome) : Prop
  /-- The message does: it has led to one ending already, without the store. -/
  | message {ending : Ending Outcome} (settled : ending.IsSettled)
      (storeless : x.Only Effect.IsStoreless) (ends : x.Ends (· = ending))
  /-- The store does. -/
  | store (excused : x.Excused Outcome.IsOpen)

/-- No event fails but for its message or the store. -/
theorem Job.settles (threshold : Nat) (job : Job) : (job.handler threshold).Settles := by
  have sets := job.sets_handler threshold
  generalize job.handler threshold = x at sets
  cases sets with
  | skips _ => exact .store (excused_of_firm (firm_perform _) fun _ => excused_pure nofun)
  | @fails why _ permanent =>
      have settled : Ending.IsSettled (.failed why) := permanent
      exact .message settled trivial rfl
  | @rejects audit verdict why _ =>
      have settled : Ending.IsSettled (.done (.rejected verdict)) := trivial
      exact .message settled (storeless_rejectUpload _ _ _ _) (ends_rejectUpload _ _ _ _)
  | admits _ named => exact .store (excused_admitUpload _ _ _ _ _ _ named)
  | deletes _ about =>
      apply Settles.store
      rw [handleDelete_of_some _ _ about]
      apply excused_of_firm (firm_perform _)
      intro time
      apply (excused_store _).bind
      intro _ _
      apply (excused_store _).bind
      intro rows _
      exact excused_finishDelete _ _ _ _ _

namespace Flow.Settles

variable {x : Flow Outcome}

theorem failsReliably (settles : x.Settles) : x.FailsReliably := by
  constructor
  case settled =>
    intro aside w w' deeds ending takes settled
    cases settles with
    | @message certain _ storeless ends =>
        have same {aside : World → World → Prop} {v v' : World} {more : List Deed}
            {other : Ending Outcome} (takes : x.Takes aside v more v' other) : other = certain :=
          ends.of_takes takes fun d mem => (storeless.of_takes takes d mem).isAnswered
        refine ⟨storeless.of_takes takes, ?_, ?_⟩
        · intro v
          have alone : x.Takes (fun _ _ => True) v _ _ _ := takes_runIn (fun _ _ => trivial) x v
          rw [same alone, same takes]
        · intro others v more v' other alsoTakes
          rw [same alsoTakes, same takes]
    | store excused =>
        have explained := excused.of_takes takes
        cases ending with
        | done outcome =>
            cases outcome with
            | rejected verdict => exact absurd rfl (explained verdict)
            | _ => exact settled.elim
        | failed why =>
            obtain ⟨call, rfl, -⟩ := explained
            cases settled
        | crashed => exact settled.elim
  case passing =>
    intro aside w w' deeds why takes passing
    cases settles with
    | message settled storeless ends =>
        have answered : ∀ d ∈ deeds, d.IsAnswered :=
          fun d mem => (storeless.of_takes takes d mem).isAnswered
        cases ends.of_takes takes answered
        cases passing.symm.trans settled
    | store excused => exact excused.of_takes takes

end Flow.Settles

/-! ## Attempts -/

section

variable {delay : Nat} {about : Log.Context} {id : String} {lane : Lane} {work : Flow Outcome}
  {aside : World → World → Prop} {further made : Nat} {w w' : World}
  {tries : List (Entry Nat Outcome)} {deeds : List Deed} {ending : Ending Unit}

namespace Tries

/-- An attempt that is followed by another one was refused something. -/
theorem refused (t : Tries delay about id lane work aside further made w tries deeds w' ending)
    (reliable : work.FailsReliably) :
    ∀ e ∈ tries.dropLast, ∃ why, e.ending = .failed why ∧ Refused e.deeds why := by
  induction t with
  | @again _ _ _ _ _ _ _ _ _ why _ _ takes passing pauses rest ih =>
      rw [List.dropLast_cons_of_ne_nil rest.ne_nil, List.forall_mem_cons]
      exact ⟨⟨why, rfl, reliable.passing takes (Bool.eq_false_iff.mpr passing)⟩, ih⟩
  | _ => exact fun e mem => absurd mem List.not_mem_nil

/-- Where a message is given up before its time, its last attempt would fail so in every world. -/
theorem certain (t : Tries delay about id lane work aside further made w tries deeds w' ending)
    (reliable : work.FailsReliably) {last : Entry Nat Outcome} {why : Fault}
    (isLast : tries.getLast? = some last) (failed : last.ending = .failed why)
    (early : tries.length ≤ further) : ∀ v, (work.runIn v).2 = .failed why := by
  induction t with
  | done takes logs =>
      cases isLast
      cases failed
  | crashed takes =>
      cases isLast
      cases failed
  | abandoned takes noMore gives =>
      cases isLast
      cases failed
      rcases noMore with rfl | permanent
      · contradiction
      · exact (reliable.settled takes permanent).2.1
  | again takes passing pauses rest ih =>
      rw [List.getLast?_cons_of_ne_nil rest.ne_nil] at isLast
      exact ih isLast (Nat.le_of_succ_le_succ early)

end Tries

end

/-- A fault that is permanent does not depend on the state, and any other one is due to the store.
-/
theorem faults_reliable (settings : Settings) : FaultsReliable settings where
  events threshold job := (job.settles threshold).failsReliably
  messages {aside e} takes := by
    obtain ⟨tries, attempts⟩ := exists_attempts takes
    refine ⟨tries, attempts, ?_⟩
    cases attempts with
    | unread unread =>
        constructor
        case again =>
          intro t mem
          contradiction
        case givenUp =>
          intro last why isLast
          contradiction
    | @read value _ _ _ _ _ _ read numbers arrives tried goesOn =>
        have reliable := ((Job.ofMessage value).settles settings.thresholdNanos).failsReliably
        constructor
        case again => exact tried.refused reliable
        case givenUp =>
          intro last why isLast failed early
          exact ⟨value, read, tried.certain reliable isLast failed early⟩

end FleetRoster
