import FleetRoster.Proofs.Handler.Course

/-!
# Handlers take their courses

Each function that a handler is made of has one law here, which says what it leads to in the books;
the law of a caller rests on the laws of what it calls. The last one says that an event that is
dispatched takes one of its courses, whatever is refused and whatever the clock shows.
-/

namespace FleetRoster

open Calendar (Instant)
open Json (Value)

namespace Flow

variable {α β : Type} {b : Books}

/-- A claim about readings, queued uploads, ending and books. -/
def Told (claim : List Instant → List Item → Ending α → Books → Prop) :
    List Deed → Books → Ending α → Prop
  | deeds, b, ending => claim (readingsOf deeds) (itemsOf deeds) ending b

/-- The claim that the books are as before, nothing was queued and no clock was read. -/
def Untouched (b : Books) (a : α) : List Instant → List Item → Ending α → Books → Prop
  | readings, items, ending, b' => readings = [] ∧ items = [] ∧ ending = .done a ∧ b' = b

theorem Leads.mono_told {x : Flow α}
    {claim weaker : List Instant → List Item → Ending α → Books → Prop}
    (leads : x.Leads Books.Acts b (Told claim))
    (imp : ∀ readings items ending b', claim readings items ending b' →
      weaker readings items ending b') :
    x.Leads Books.Acts b (Told weaker) :=
  leads.mono fun deeds b' ending => imp (readingsOf deeds) (itemsOf deeds) ending b'

theorem leads_bind_told {x : Flow α} {f : α → Flow β}
    {claim : List Instant → List Item → Ending β → Books → Prop}
    (leads : x.Leads Books.Acts b <| Told fun readings items ending b' =>
      match ending with
      | .done a => (f a).Leads Books.Acts b' <| Told fun later more =>
          claim (readings ++ later) (items ++ more)
      | .failed why => claim readings items (.failed why) b'
      | .crashed => claim readings items .crashed b') :
    (x >>= f).Leads Books.Acts b (Told claim) := by
  rw [leads_bind]
  apply leads.mono
  intro deeds b' ending claimed
  cases ending with
  | failed why => exact claimed
  | crashed => exact claimed
  | done a =>
      apply Leads.mono claimed
      intro more b'' ending claimed
      simpa only [Told, readingsOf_append, itemsOf_append] using claimed

/-- What follows something that touches nothing leads on from the same books. -/
theorem leads_after {x : Flow α} {a : α} {f : α → Flow β}
    {claim : List Instant → List Item → Ending β → Books → Prop}
    (first : x.Leads Books.Acts b (Told (Untouched b a)))
    (second : (f a).Leads Books.Acts b (Told claim)) :
    (x >>= f).Leads Books.Acts b (Told claim) := by
  apply leads_bind_told
  apply first.mono_told
  rintro readings items ending b' ⟨rfl, rfl, rfl, rfl⟩
  exact second

theorem leads_ite {p : Prop} {_ : Decidable p} {x y : Flow α}
    {claim : List Deed → Books → Ending α → Prop}
    (yes : x.Leads Books.Acts b claim) (no : y.Leads Books.Acts b claim) :
    (if p then x else y).Leads Books.Acts b claim := by
  by_cases holds : p
  · rwa [if_pos holds]
  · rwa [if_neg holds]

/-! ## Single effects -/

theorem leads_log (notice : Notice) :
    (log notice).Leads Books.Acts b (Told (Untouched b ())) := by
  rintro b' ⟨⟩ rfl
  exact ⟨rfl, rfl, rfl, rfl⟩

theorem leads_count (lane : Lane) (verdict : Verdict) :
    (count lane verdict).Leads Books.Acts b (Told (Untouched b ())) := by
  rintro b' ⟨⟩ rfl
  exact ⟨rfl, rfl, rfl, rfl⟩

theorem leads_countFailedSend (channel : Channel) :
    (perform (.countFailedSend channel)).Leads Books.Acts b (Told (Untouched b ())) := by
  rintro b' ⟨⟩ rfl
  exact ⟨rfl, rfl, rfl, rfl⟩

/-! ## Effects with answers -/

theorem leads_now {f : Instant → Flow β}
    {claim : List Instant → List Item → Ending β → Books → Prop}
    (next : ∀ time, (f time).Leads Books.Acts b (Told fun later => claim (time :: later))) :
    (now >>= f).Leads Books.Acts b (Told claim) := by
  rintro b' time rfl
  exact next time

/-- A call of the store is refused without a trace, or the books have what it wrote. -/
theorem leads_call {call : Store.Call} {f : call.Answer → Flow β}
    {claim : List Instant → List Item → Ending β → Books → Prop}
    (refused : claim [] [] (.failed call.refusal) b)
    (answered : (f (b.store.answer call).2).Leads Books.Acts
      { b with store := (b.store.answer call).1 } (Told claim)) :
    (store call >>= f).Leads Books.Acts b (Told claim) := by
  rintro b' answer (⟨rfl, rfl⟩ | ⟨rfl, rfl⟩)
  · exact refused
  · exact answered

theorem leads_attemptCall {call : Store.Call} {f : Except Fault call.Answer → Flow β}
    {claim : List Instant → List Item → Ending β → Books → Prop}
    (refused : (f (.error call.refusal)).Leads Books.Acts b (Told claim))
    (answered : (f (.ok (b.store.answer call).2)).Leads Books.Acts
      { b with store := (b.store.answer call).1 } (Told claim)) :
    ((store call).attempt >>= f).Leads Books.Acts b (Told claim) := by
  rintro b' answer (⟨rfl, rfl⟩ | ⟨rfl, rfl⟩)
  · exact refused
  · exact answered

theorem leads_known {org : String} {f : Option Int → Flow β}
    {claim : List Instant → List Item → Ending β → Books → Prop}
    (next : (f (b.known org)).Leads Books.Acts b (Told claim)) :
    (known org >>= f).Leads Books.Acts b (Told claim) := by
  rintro b' answer ⟨rfl, rfl⟩
  exact next

/-- An organization without a remembered account is remembered with the one that is given. -/
theorem leads_remember {org : String} {account : Int} {f : Int → Flow β}
    {claim : List Instant → List Item → Ending β → Books → Prop} (unknown : b.known org = none)
    (next : (f account).Leads Books.Acts (b.remembering org account) (Told claim)) :
    (remember org account >>= f).Leads Books.Acts b (Told claim) := by
  rintro b' answer (⟨rfl, found⟩ | ⟨_, rfl, answered⟩)
  · rw [unknown] at found
    contradiction
  · cases answered.symm
    exact next

theorem leads_queue {item : Item} {audit : Audit} {f : Option FlushReport → Flow β}
    {claim : List Instant → List Item → Ending β → Books → Prop}
    (next : ∀ report, (f report).Leads Books.Acts b
      (Told fun later more => claim later (item :: more))) :
    (perform (.buffer item audit) >>= f).Leads Books.Acts b (Told claim) := by
  intro b' report same
  cases same
  exact next report

end Flow

open FleetRoster.Flow

variable {b : Books}

/-! ## Audit events -/

theorem leads_reportStatus (about : Log.Context) (audit : Audit) :
    (reportStatus about audit).Leads Books.Acts b (Told (Untouched b ())) := by
  unfold reportStatus
  rw [leads_bind]
  rintro b' answer rfl
  cases answer with
  | ok sent => exact ⟨rfl, rfl, rfl, rfl⟩
  | error why => exact leads_after (leads_log _) (leads_countFailedSend _)

theorem leads_rejectUpload (about : Log.Context) (audit : Audit) (verdict : Verdict)
    (why : Fault) :
    (rejectUpload about audit verdict why).Leads Books.Acts b
      (Told (Untouched b (.rejected verdict))) := by
  unfold rejectUpload
  apply leads_after (leads_log _)
  apply leads_after (leads_count _ _)
  apply leads_after (leads_reportStatus _ _)
  exact ⟨rfl, rfl, rfl, rfl⟩

theorem leads_ignoreUpload (about : Log.Context) (audit : Audit) (marker : Marker) :
    (ignoreUpload about audit marker).Leads Books.Acts b
      (Told (Untouched b .recentlyDeleted)) := by
  unfold ignoreUpload
  apply leads_after (leads_log _)
  apply leads_after (leads_count _ _)
  apply leads_after (leads_reportStatus _ _)
  exact ⟨rfl, rfl, rfl, rfl⟩

/-! ## Uploads -/

/-- The guard looks at the marker and at the clock, and leaves the books alone. -/
theorem leads_recentMarker? (threshold : Nat) (inventoryId : String) :
    (recentMarker? threshold inventoryId).Leads Books.Acts b <| Told
      fun readings items ending b' =>
        b.Guard threshold inventoryId readings ending ∧ items = [] ∧ b' = b := by
  unfold recentMarker?
  apply leads_call
  · exact ⟨.refused _, rfl, rfl⟩
  · cases found : (b.store.answer (.getDeleted inventoryId)).2 with
    | none => exact ⟨.unmarked found, rfl, rfl⟩
    | some marker =>
        apply leads_now
        intro time
        by_cases young : marker.isRecent time threshold = true
        · rw [if_pos young]
          exact ⟨.recent found young, rfl, rfl⟩
        · rw [if_neg young]
          exact ⟨.past found (Bool.eq_false_iff.mpr young), rfl, rfl⟩

/-- The account is resolved, or the store refuses to look it up and nothing changes. -/
theorem leads_resolveAccount (about : Log.Context) {org : String} (named : org.isEmpty = false) :
    (resolveAccount about org).Leads Books.Acts b <| Told
      fun readings items ending b' => readings = [] ∧ items = [] ∧
        match ending with
        | .done account => b.Resolves org account b'
        | .failed _ => b' = b
        | .crashed => False := by
  unfold resolveAccount
  rw [named, if_neg Bool.false_ne_true]
  apply leads_known
  cases looked : b.known org with
  | some account => exact ⟨rfl, rfl, .known looked⟩
  | none =>
      apply leads_attemptCall
      · apply leads_after (leads_log _)
        exact ⟨rfl, rfl, rfl⟩
      · refine leads_remember (b := { b with store := (b.store.upsertAccount org).1 }) looked ?_
        split
        · apply leads_after (leads_log _)
          exact ⟨rfl, rfl, .made looked⟩
        next other => exact absurd rfl other

/-- An upload that was not turned down is stored and queued, or it breaks off before its row is
written. -/
theorem leads_storeUpload (about : Log.Context) (event : HostEvent) (host : Host)
    (inventoryId : String) {org : String} (audit : Audit) (named : org.isEmpty = false) :
    (storeUpload about event host inventoryId org audit).Leads Books.Acts b <| Told
      fun readings items ending b' =>
        let report : Report := ⟨host, inventoryId, org, event.requestId⟩
        (∃ why, ending = .failed why ∧ items = [] ∧
          (b' = b ∨ ∃ account, b.Resolves org account b')) ∨
        ∃ account resolved time, b.Resolves org account resolved ∧ readings = [time] ∧
          items = [report.item account] ∧ ending = .done (.evaluated account) ∧
          b' = resolved.writing (report.upload account time) := by
  unfold storeUpload
  apply leads_bind_told
  apply (leads_resolveAccount about named).mono_told
  rintro readings items ending b' ⟨rfl, rfl, ended⟩
  cases ending with
  | crashed => exact ended.elim
  | failed why => exact .inl ⟨why, rfl, rfl, .inl ended⟩
  | done account =>
      apply leads_now
      intro time
      apply leads_call
      · exact .inl ⟨_, rfl, rfl, .inr ⟨account, ended⟩⟩
      · have item : (⟨(b'.store.upsertSystem
            (Report.upload ⟨host, inventoryId, org, event.requestId⟩ account time)).2.inventoryId,
              account, org, event.requestId.getD ""⟩ : Item) =
            Report.item ⟨host, inventoryId, org, event.requestId⟩ account := by
          rw [Store.upsertSystem_inventoryId]
          rfl
        apply leads_queue
        intro flushed
        apply leads_after (leads_log _)
        apply leads_after (leads_count _ _)
        exact .inr ⟨account, b', time, ended, rfl, congrArg (fun item => [item]) item, rfl, rfl⟩

theorem named_of_nonEmpty {text : Option String} {name : String}
    (found : nonEmpty text = some name) : name.isEmpty = false := by
  have kept := (Option.filter_eq_some_iff.mp found).2
  simpa using kept

/-- The organization of an upload has a name. -/
theorem HostEvent.organization_named {e : HostEvent} {h : Host} {org : String}
    (found : e.organization h = .ok org) : org.isEmpty = false := by
  unfold HostEvent.organization at found
  cases own : nonEmpty h.orgId with
  | some named =>
      rw [own] at found
      cases found
      exact named_of_nonEmpty own
  | none =>
      rw [own] at found
      cases headed : e.identity with
      | none =>
          rw [headed] at found
          cases found
      | some header =>
          rw [headed] at found
          dsimp only at found
          cases decoded : Identity.ofHeader header with
          | error why =>
              rw [decoded] at found
              cases found
          | ok identity =>
              rw [decoded] at found
              dsimp only at found
              cases named : identity.organization with
              | none =>
                  rw [named] at found
                  cases found
              | some named' =>
                  rw [named] at found
                  cases found
                  exact named_of_nonEmpty named

/-- Past the guard, an upload is filed or breaks off early. -/
theorem leads_storeGuarded {threshold : Nat} (about : Log.Context) {event : HostEvent} {host : Host}
    {inventoryId org : String} {audit : Audit} {job : Job} {guarded : List Instant}
    (reported : job.report? = some ⟨host, inventoryId, org, event.requestId⟩)
    (guard : b.Guard threshold inventoryId guarded (.done none))
    (named : org.isEmpty = false) :
    (storeUpload about event host inventoryId org audit).Leads Books.Acts b <| Told
      fun readings items => Course threshold job b (guarded ++ readings) items := by
  apply (leads_storeUpload about event host inventoryId audit named).mono_told
  rintro readings items ending b' (⟨why, rfl, rfl, rfl | ⟨account, resolves⟩⟩ |
    ⟨account, resolved, time, resolves, rfl, rfl, rfl, rfl⟩)
  · exact .idle _ trivial
  · exact .resolved _ why reported resolves
  · exact .filed reported guard resolves

theorem leads_handleUpload (threshold : Nat) (about : Log.Context) {event : HostEvent} {job : Job}
    (reported : job.report? = event.report?) :
    (handleUpload threshold about event).Leads Books.Acts b
      (Told (Course threshold job b)) := by
  unfold handleUpload
  cases hosted : event.host with
  | none => exact .idle [] trivial
  | some host =>
      cases named : event.inventoryId with
      | none => exact .idle [] trivial
      | some inventoryId =>
          dsimp only
          cases organized : event.organization host with
          | error why =>
              apply (leads_rejectUpload _ _ _ _).mono_told
              rintro readings items ending b' ⟨rfl, rfl, rfl, rfl⟩
              exact .idle [] trivial
          | ok org =>
              dsimp only
              cases checked : host.profile.check with
              | error why =>
                  apply (leads_rejectUpload _ _ _ _).mono_told
                  rintro readings items ending b' ⟨rfl, rfl, rfl, rfl⟩
                  exact .idle [] trivial
              | ok _ =>
                  have report : job.report? = some ⟨host, inventoryId, org, event.requestId⟩ := by
                    rw [reported, HostEvent.report?, hosted, named]
                    dsimp only
                    rw [organized]
                  apply leads_bind_told
                  apply (leads_recentMarker? threshold inventoryId).mono_told
                  rintro guarded items ending b' ⟨guard, rfl, rfl⟩
                  cases ending with
                  | failed why => exact .idle guarded trivial
                  | crashed => contradiction
                  | done found =>
                      cases found with
                      | some marker =>
                          cases guard with
                          | recent found young =>
                              apply (leads_ignoreUpload _ _ _).mono_told
                              rintro readings items ending b' ⟨rfl, rfl, rfl, rfl⟩
                              exact .ignored report found young
                      | none =>
                          exact leads_storeGuarded about report guard
                            (HostEvent.organization_named organized)

/-! ## Deletions -/

/-- Clearing away old markers succeeds or changes nothing. -/
theorem leads_pruneMarkers (about : Log.Context) (limit : Instant) :
    (pruneMarkers about limit).Leads Books.Acts b <| Told
      fun readings items ending b' =>
        readings = [] ∧ items = [] ∧ ending = .done () ∧ (b' = b ∨ b' = b.pruning limit) := by
  unfold pruneMarkers
  apply leads_attemptCall
  · apply (leads_log _).mono_told
    rintro readings items ending b' ⟨rfl, rfl, rfl, rfl⟩
    exact ⟨rfl, rfl, rfl, .inl rfl⟩
  · dsimp only
    split
    · exact ⟨rfl, rfl, rfl, .inr rfl⟩
    · apply (leads_log _).mono_told
      rintro readings items ending b' ⟨rfl, rfl, rfl, rfl⟩
      exact ⟨rfl, rfl, rfl, .inr rfl⟩

/-- Once the rows are marked, a deletion is done, unless its threshold reaches back too far. -/
theorem leads_pruneAfter {threshold : Nat} (about : Log.Context) {inventoryId : String} {job : Job}
    {time : Instant} (reported : job.deletion? = some inventoryId) (rows : Nat) :
    (match time.earlier? threshold with
      | none => crash
      | some limit => do
        pruneMarkers about limit
        pure (.deleted rows) : Flow Outcome).Leads Books.Acts
      ((b.marking inventoryId time).staling inventoryId time)
      (Told fun readings items => Course threshold job b (time :: readings) items) := by
  cases back : time.earlier? threshold with
  | none => exact .crashed reported back
  | some limit =>
      apply leads_bind_told
      apply (leads_pruneMarkers about limit).mono_told
      rintro readings items ending b' ⟨rfl, rfl, rfl, cleared⟩
      exact .deleted rows reported back cleared

theorem leads_handleDelete (threshold : Nat) (about : Log.Context) {event : HostEvent} {job : Job}
    (reported : job.deletion? = event.inventoryId) :
    (handleDelete threshold about event).Leads Books.Acts b
      (Told (Course threshold job b)) := by
  unfold handleDelete
  cases named : event.inventoryId with
  | none => exact .idle [] trivial
  | some inventoryId =>
      have deletion : job.deletion? = some inventoryId := reported.trans named
      apply leads_now
      intro time
      apply leads_call
      · exact .idle [time] trivial
      apply leads_call
      · exact .marked _ deletion
      apply leads_ite
      · apply leads_after (leads_log _)
        apply leads_after (leads_count _ _)
        exact leads_pruneAfter about deletion _
      · apply leads_after (leads_log _)
        apply leads_after (leads_count _ _)
        exact leads_pruneAfter about deletion _

/-! ## Events -/

/-- An event that is dispatched takes one of its courses. -/
theorem leads_dispatch (threshold : Nat) (job : Job) :
    (dispatch threshold job.about job.kind job.message).Leads Books.Acts b
      (Told (Course threshold job b)) := by
  unfold dispatch
  cases lane : job.kind.lane with
  | other =>
      apply leads_after (leads_count _ _)
      exact .idle [] trivial
  | delete =>
      cases decoded : HostEvent.ofMessage job.message with
      | error why => exact .idle [] trivial
      | ok event =>
          apply leads_handleDelete
          simp only [Job.deletion?, EventKind.deletion?, lane, decoded]
          rfl
  | upload =>
      cases decoded : HostEvent.ofMessage job.message with
      | error why => exact .idle [] trivial
      | ok event =>
          apply leads_handleUpload
          simp only [Job.report?, EventKind.report?, lane, decoded]
          rfl

end FleetRoster
