import FleetRoster.Proofs.Handler.Answered
import FleetRoster.Proofs.Handler.Counts

/-!
# What an event does while nothing goes wrong

The handlers of uploads and deletions, and the retries around them, in a world without failures.
Where the store answers every call and the clock shows one instant, there is nothing left that could
decide an event but its message and the books. Each function that a handler is made of has one law
here, which says what it makes of the books and what it counts. The last one lists the turns that an
event can take.
-/

namespace FleetRoster

open Calendar (Instant)

/-- What an effect makes of the books, with its answer, where the store answers every call and the
clock shows one instant. -/
def Books.Serves (now : Instant) : View Books
  | .store call, b, b', answer =>
      b' = { b with store := (b.store.answer call).1 } ∧ answer = .ok (b.store.answer call).2
  | .now, b, b', time => b' = b ∧ time = now
  | effect, b, b', answer => Books.Acts effect b b' answer

/-- What a flow asks for first to be counted, if it does nothing before but write to the log. -/
def Flow.openingCount? {α : Type} : Flow α → Option (Lane × Verdict)
  | .ask (.count lane verdict) _ => some (lane, verdict)
  | .ask (.log _) next => (next ()).openingCount?
  | _ => none

/-- The turns that an event can take at an instant from the books `b`: what it counts, and the books
in the end. -/
inductive Job.Turns (threshold : Nat) (now : Instant) (job : Job) (b : Books) :
    List (Lane × Verdict) → Books → Prop
  /-- Nothing comes of the event. -/
  | idle (idle : job.IsIdle) :
      job.Turns threshold now b (job.handler threshold).openingCount?.toList b
  /-- The host was deleted not long before. -/
  | ignored {r : Report} (accepted : job.accepted? = some r)
      (guarded : (b.store.marker? r.inventoryId).any (·.isRecent now threshold) = true) :
      job.Turns threshold now b [(.upload, .deleted)] b
  /-- The row of the host is written. -/
  | filed {r : Report} {account : Int} {b' : Books} (accepted : job.accepted? = some r)
      (unguarded : (b.store.marker? r.inventoryId).any (·.isRecent now threshold) = false)
      (resolves : b.Resolves r.org account b') :
      job.Turns threshold now b [(.upload, .evaluated)] (b'.writing (r.upload account now))
  /-- The host is marked as deleted, with all its rows, and old markers are cleared away. -/
  | deleted {inventoryId : String} {limit : Instant} (deletion : job.deletion? = some inventoryId)
      (back : now.earlier? threshold = some limit) :
      job.Turns threshold now b
        [(.delete, if (b.store.markStale inventoryId now).2 = 0 then .noRows else .deleted)]
        (((b.marking inventoryId now).staling inventoryId now).pruning limit)

/-- Whatever is not refused, and read at that instant, happens to the books as the view says. -/
theorem World.serves_happen {now : Instant} (effect : Effect) (w : World)
    (answered : Deed.IsAnswered ⟨effect, (World.happen effect w).2⟩)
    (read : ∀ time ∈ readingsOf [⟨effect, (World.happen effect w).2⟩], time = now) :
    Books.Serves now effect w.books (World.happen effect w).1.books (World.happen effect w).2 := by
  have acts := w.acts_happen effect
  cases effect with
  | store call =>
      rcases acts with ⟨same, refused⟩ | served
      · rw [refused] at answered
        exact answered.elim
      · exact served
  | now => exact ⟨acts, read _ (List.mem_singleton_self _)⟩
  | _ => exact acts

namespace Flow

variable {α β : Type} {now : Instant} {b : Books}

/-! ## The judgement -/

/-- A flow that was refused nothing and read nothing else from the clock ended as claimed. -/
theorem Leads.of_calm {aside : World → World → Prop} {x : Flow α} {w w' : World}
    {deeds : List Deed} {ending : Ending α} {claim : List Deed → Books → Ending α → Prop}
    (leads : x.Leads (Books.Serves now) w.books claim)
    (blind : ∀ {w met}, aside w met → met.books = w.books)
    (takes : x.Takes aside w deeds w' ending) (answered : ∀ d ∈ deeds, d.IsAnswered)
    (read : ∀ time ∈ readingsOf deeds, time = now) : claim deeds w'.books ending := by
  induction takes generalizing claim with
  | stop ending w => exact leads
  | aside others rest ih =>
      refine ih ?_ answered read
      rw [blind others]
      exact leads
  | @ask effect next w w' deeds ending rest ih =>
      rw [List.forall_mem_cons] at answered
      rw [← List.singleton_append, readingsOf_append, List.forall_mem_append] at read
      exact ih (leads _ _ (w.serves_happen effect answered.1 read.1)) answered.2 read.2

/-- While nothing goes wrong the flow comes to a result, with which the books and what was counted
are as claimed. -/
def Yields (now : Instant) (b : Books) (x : Flow α)
    (claim : α → List (Lane × Verdict) → Books → Prop) : Prop :=
  x.Leads (Books.Serves now) b fun deeds b' ending =>
    ∃ a, ending = .done a ∧ claim a (countsOf deeds) b'

/-- The flow counts nothing and leaves the books alone. -/
def Idles (now : Instant) (b : Books) (x : Flow α) : Prop :=
  x.Yields now b fun _ counts b' => counts = [] ∧ b' = b

variable {claim weaker : α → List (Lane × Verdict) → Books → Prop}

theorem Yields.mono {x : Flow α} (yields : x.Yields now b claim)
    (imp : ∀ a counts b', claim a counts b' → weaker a counts b') : x.Yields now b weaker := by
  apply Leads.mono yields
  rintro deeds b' ending ⟨a, rfl, claimed⟩
  exact ⟨a, rfl, imp a _ b' claimed⟩

theorem yields_pure {a : α} (claimed : claim a [] b) : (pure a : Flow α).Yields now b claim :=
  ⟨a, rfl, claimed⟩

/-- What follows goes on from the result and adds its counts. -/
theorem yields_bind {x : Flow β} {f : β → Flow α}
    (yields : x.Yields now b fun c counts b' =>
      (f c).Yields now b' fun a more => claim a (counts ++ more)) :
    (x >>= f).Yields now b claim := by
  rw [Yields, leads_bind]
  apply Leads.mono yields
  rintro deeds b' ending ⟨c, rfl, rest⟩
  apply Leads.mono rest
  rintro more b'' other ⟨a, rfl, claimed⟩
  rw [← countsOf_append] at claimed
  exact ⟨a, rfl, claimed⟩

/-- What follows on an idle flow does it all. -/
theorem yields_after {x : Flow β} {f : β → Flow α} (idles : x.Idles now b)
    (rest : ∀ c, (f c).Yields now b claim) : (x >>= f).Yields now b claim := by
  apply yields_bind
  apply idles.mono
  rintro c counts b' ⟨rfl, rfl⟩
  exact rest c

theorem Idles.bind {x : Flow β} {f : β → Flow α} (idles : x.Idles now b)
    (rest : ∀ c, (f c).Idles now b) : (x >>= f).Idles now b :=
  yields_after idles rest

theorem idles_pure (a : α) : (pure a : Flow α).Idles now b :=
  yields_pure ⟨rfl, rfl⟩

/-! ## Single effects -/

/-- An effect that is no count and leaves the books alone. -/
theorem idles_perform {effect : Effect} (silent : effect.counted? = none)
    (apart : ∀ {b' answer}, Books.Serves now effect b b' answer → b' = b) :
    (perform effect).Idles now b := by
  intro b' answer serves
  refine ⟨answer, rfl, ?_, apart serves⟩
  rw [countsOf_cons, silent]
  rfl

theorem idles_log (notice : Notice) : (log notice).Idles now b :=
  idles_perform rfl id

theorem yields_count {lane : Lane} {verdict : Verdict} {f : Unit → Flow α}
    (rest : (f ()).Yields now b fun a counts => claim a ((lane, verdict) :: counts)) :
    (count lane verdict >>= f).Yields now b claim := by
  rintro b' ⟨⟩ rfl
  exact rest

theorem yields_now {f : Instant → Flow α} (rest : (f now).Yields now b claim) :
    (Flow.now >>= f).Yields now b claim := by
  rintro b' time ⟨rfl, rfl⟩
  exact rest

/-- A call of the store is answered, and the books have what it wrote. -/
theorem yields_call {call : Store.Call} {f : call.Answer → Flow α}
    (rest : (f (b.store.answer call).2).Yields now { b with store := (b.store.answer call).1 }
      claim) :
    (store call >>= f).Yields now b claim := by
  rintro b' answer ⟨rfl, rfl⟩
  exact rest

theorem yields_attemptCall {call : Store.Call} {f : Except Fault call.Answer → Flow α}
    (rest : (f (.ok (b.store.answer call).2)).Yields now
      { b with store := (b.store.answer call).1 } claim) :
    ((store call).attempt >>= f).Yields now b claim := by
  rintro b' answer ⟨rfl, rfl⟩
  exact rest

theorem yields_known {org : String} {f : Option Int → Flow α}
    (rest : (f (b.known org)).Yields now b claim) : (known org >>= f).Yields now b claim := by
  rintro b' answer ⟨rfl, rfl⟩
  exact rest

theorem yields_remember {org : String} {account : Int} {f : Int → Flow α}
    (unknown : b.known org = none)
    (rest : (f account).Yields now (b.remembering org account) claim) :
    (remember org account >>= f).Yields now b claim := by
  rintro b' answer (⟨rfl, found⟩ | ⟨_, rfl, answered⟩)
  · rw [unknown] at found
    contradiction
  · cases answered.symm
    exact rest

end Flow

open FleetRoster.Flow

variable {threshold : Nat} {now : Instant} {b : Books}

/-! ## Uploads -/

theorem idles_reportStatus (about : Log.Context) (audit : Audit) :
    (reportStatus about audit).Idles now b := by
  apply (idles_perform rfl id).bind
  intro answer
  cases answer with
  | ok sent => exact idles_pure ()
  | error why => exact (idles_log _).bind fun _ => idles_perform rfl id

theorem yields_rejectUpload (about : Log.Context) (audit : Audit) (verdict : Verdict)
    (why : Fault) :
    (rejectUpload about audit verdict why).Yields now b fun _ counts b' =>
      counts = [(.upload, verdict)] ∧ b' = b :=
  yields_after (idles_log _) fun _ => yields_count <| yields_after (idles_reportStatus _ _) fun _ =>
    yields_pure ⟨rfl, rfl⟩

theorem yields_ignoreUpload (about : Log.Context) (audit : Audit) (marker : Marker) :
    (ignoreUpload about audit marker).Yields now b fun _ counts b' =>
      counts = [(.upload, .deleted)] ∧ b' = b :=
  yields_after (idles_log _) fun _ => yields_count <| yields_after (idles_reportStatus _ _) fun _ =>
    yields_pure ⟨rfl, rfl⟩

/-- The guard finds the marker of the host, if it is recent. -/
theorem yields_recentMarker? (threshold : Nat) (inventoryId : String) :
    (recentMarker? threshold inventoryId).Yields now b fun found counts b' =>
      found = (b.store.marker? inventoryId).filter (·.isRecent now threshold) ∧ counts = [] ∧
        b' = b := by
  apply yields_call
  have answered : (b.store.answer (.getDeleted inventoryId)).2 = b.store.marker? inventoryId := rfl
  rw [← answered]
  cases (b.store.answer (.getDeleted inventoryId)).2 with
  | none => exact yields_pure ⟨rfl, rfl, rfl⟩
  | some marker =>
      apply yields_now
      exact yields_pure ⟨rfl, rfl, rfl⟩

theorem yields_resolveAccount (about : Log.Context) {org : String} (named : org.isEmpty = false) :
    (resolveAccount about org).Yields now b fun account counts b' =>
      b.Resolves org account b' ∧ counts = [] := by
  unfold resolveAccount
  rw [named, if_neg Bool.false_ne_true]
  apply yields_known
  cases known : b.known org with
  | some account => exact yields_pure ⟨.known known, rfl⟩
  | none =>
      apply yields_attemptCall
      have unknown : ({ b with store := (b.store.upsertAccount org).1 } : Books).known org = none :=
        known
      apply yields_remember unknown
      dsimp only
      split
      · exact yields_after (idles_log _) fun _ => yields_pure ⟨.made known, rfl⟩
      · exact yields_after (idles_log _) fun _ => yields_pure ⟨.made known, rfl⟩

theorem yields_storeUpload (about : Log.Context) (event : HostEvent) (host : Host)
    (inventoryId : String) {org : String} (audit : Audit) (named : org.isEmpty = false) :
    (storeUpload about event host inventoryId org audit).Yields now b fun _ counts b' =>
      counts = [(.upload, .evaluated)] ∧ ∃ account resolved, b.Resolves org account resolved ∧
        b' = resolved.writing
          (Report.upload ⟨host, inventoryId, org, event.requestId⟩ account now) := by
  apply yields_bind
  apply (yields_resolveAccount about named).mono
  rintro account counts resolved ⟨resolves, rfl⟩
  apply yields_now
  apply yields_call
  apply yields_after (idles_perform rfl id)
  intro report
  apply yields_after (idles_log _)
  intro _
  apply yields_count
  exact yields_pure ⟨rfl, account, resolved, resolves, rfl⟩

/-! ## Deletions -/

theorem yields_pruneMarkers (about : Log.Context) (limit : Instant) :
    (pruneMarkers about limit).Yields now b fun _ counts b' =>
      counts = [] ∧ b' = b.pruning limit := by
  apply yields_attemptCall
  dsimp only
  split
  · exact yields_pure ⟨rfl, rfl⟩
  · exact idles_log _

theorem yields_finishDelete (about : Log.Context) (inventoryId : String) {limit : Instant}
    (rows : Nat) (back : now.earlier? threshold = some limit) :
    (finishDelete threshold about inventoryId now rows).Yields now b fun _ counts b' =>
      counts = [(.delete, if rows = 0 then .noRows else .deleted)] ∧ b' = b.pruning limit := by
  have cleared {verdict : Verdict} : (clearOutdated threshold about now rows).Yields now b
      fun _ counts b' => (.delete, verdict) :: counts = [(.delete, verdict)] ∧
        b' = b.pruning limit := by
    unfold clearOutdated
    rw [back]
    apply yields_bind
    apply (yields_pruneMarkers about limit).mono
    rintro _ counts b' ⟨rfl, rfl⟩
    exact yields_pure ⟨rfl, rfl⟩
  unfold finishDelete
  dsimp only
  split
  · exact yields_after (idles_log _) fun _ => yields_count cleared
  · exact yields_after (idles_log _) fun _ => yields_count cleared

theorem yields_handleDelete (about : Log.Context) {event : HostEvent} {inventoryId : String}
    {limit : Instant} (named : event.inventoryId = some inventoryId)
    (back : now.earlier? threshold = some limit) :
    (handleDelete threshold about event).Yields now b fun _ counts b' =>
      counts = [(.delete, if (b.store.markStale inventoryId now).2 = 0 then .noRows else .deleted)] ∧
        b' = ((b.marking inventoryId now).staling inventoryId now).pruning limit := by
  have rows : ((b.store.upsertMarker inventoryId now).markStale inventoryId now).2 =
      (b.store.markStale inventoryId now).2 := by
    rw [Store.markStale, Store.markStale, Store.upsertMarker_systems]
  rw [handleDelete_of_some threshold about named, ← rows]
  apply yields_now
  apply yields_call
  apply yields_call
  exact yields_finishDelete about inventoryId _ back

/-! ## Events -/

/-- An upload that is taken in is ignored because of a recent marker, or its row is written. -/
theorem yields_admitUpload (about : Log.Context) {event : HostEvent} {host : Host}
    {inventoryId org : String} {audit : Audit} {job : Job}
    (accepted : job.accepted? = some ⟨host, inventoryId, org, event.requestId⟩)
    (named : org.isEmpty = false) :
    (admitUpload threshold about event host inventoryId org audit).Yields now b fun _ =>
      job.Turns threshold now b := by
  apply yields_bind
  apply (yields_recentMarker? threshold inventoryId).mono
  rintro found counts b' ⟨guard, rfl, rfl⟩
  cases found with
  | some marker =>
      have recent := Option.filter_eq_some_iff.mp guard.symm
      have guarded : (b'.store.marker? inventoryId).any (·.isRecent now threshold) = true := by
        rw [recent.1]
        exact recent.2
      apply (yields_ignoreUpload about audit marker).mono
      rintro _ counts _ ⟨rfl, rfl⟩
      exact .ignored accepted guarded
  | none =>
      have unguarded : (b'.store.marker? inventoryId).any (·.isRecent now threshold) = false := by
        have notRecent := Option.filter_eq_none_iff.mp guard.symm
        simpa [Option.any_eq_false] using notRecent
      apply (yields_storeUpload about event host inventoryId audit named).mono
      rintro _ counts _ ⟨rfl, account, resolved, resolves, rfl⟩
      exact .filed accepted unguarded resolves

/-- While nothing goes wrong, an event takes one of its turns. -/
theorem leads_turns (back : (now.earlier? threshold).isSome) (job : Job) :
    (job.handler threshold).Leads (Books.Serves now) b fun deeds b' _ =>
      job.Turns threshold now b (countsOf deeds) b' := by
  have sets := job.sets_handler threshold
  have idle (idle : job.IsIdle) : job.Turns threshold now b _ b := .idle idle
  generalize job.handler threshold = x at sets idle ⊢
  cases sets with
  | skips isIdle =>
      rintro b' ⟨⟩ rfl
      exact idle isIdle
  | fails isIdle _ => exact idle isIdle
  | rejects isIdle =>
      apply Leads.mono (yields_rejectUpload _ _ _ _)
      rintro deeds b' ending ⟨_, rfl, counts, rfl⟩
      rw [counts]
      exact idle isIdle
  | admits accepted named =>
      apply Leads.mono (yields_admitUpload _ accepted named)
      rintro deeds b' ending ⟨_, rfl, turns⟩
      exact turns
  | deletes deletion about =>
      obtain ⟨limit, found⟩ := Option.isSome_iff_exists.mp back
      apply Leads.mono (yields_handleDelete _ about found)
      rintro deeds b' ending ⟨_, rfl, counts, rfl⟩
      rw [counts]
      exact .deleted deletion found

end FleetRoster
