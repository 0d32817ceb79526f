import FleetRoster.Proofs.Handler.Duties

/-!
# What comes of an event where the store answers

As long as the store refuses no call, an event comes to the end to which its message has set its
handler. An upload that is taken in is evaluated, or ignored because its host was deleted not long
before; a deletion is done, unless the threshold reaches back too far; and nothing else comes of any
other event.
-/

namespace FleetRoster

open FleetRoster.Flow

/-- A deed that is not a refused call of the store. -/
def Deed.IsAnswered : Deed → Prop
  | ⟨.store _, .error _⟩ => False
  | _ => True

namespace Flow

variable {α β : Type}

/-- As long as no call of the store is refused, a flow ends in a good way. -/
def Ends (good : Ending α → Prop) : Flow α → Prop
  | .stop ending => good ending
  | .ask effect next => ∀ answer, Deed.IsAnswered ⟨effect, answer⟩ → (next answer).Ends good

/-- An ending with a result. -/
def IsDone (ending : Ending α) : Prop :=
  ∃ a, ending = .done a

theorem Ends.mono {x : Flow α} {good fine : Ending α → Prop} (ends : x.Ends good)
    (imp : ∀ ending, good ending → fine ending) : x.Ends fine := by
  induction x with
  | stop ending => exact imp ending ends
  | ask effect next ih => exact fun answer answered => ih answer (ends answer answered)

/-- The second of two flows in a row ends them both, where the first one has a result. -/
theorem Ends.bind {x : Flow α} {f : α → Flow β} {good : Ending β → Prop} (first : x.Ends IsDone)
    (rest : ∀ a, (f a).Ends good) : (x >>= f).Ends good := by
  change (x.bind f).Ends good
  induction x with
  | stop ending =>
      obtain ⟨a, rfl⟩ := first
      exact rest a
  | ask effect next ih => exact fun answer answered => ih answer (first answer answered)

theorem ends_perform (effect : Effect) : (perform effect).Ends IsDone :=
  fun answer _ => ⟨answer, rfl⟩

theorem ends_store (call : Store.Call) : (store call).Ends IsDone := by
  intro answer answered
  cases answer with
  | error why => exact answered.elim
  | ok found => exact ⟨found, rfl⟩

/-- A flow that has run without a refusal has ended in a good way. -/
theorem Ends.of_takes {aside : World → World → Prop} {x : Flow α} {w w' : World}
    {deeds : List Deed} {ending : Ending α} {good : Ending α → Prop} (ends : x.Ends good)
    (takes : x.Takes aside w deeds w' ending) (answered : ∀ d ∈ deeds, d.IsAnswered) :
    good ending := by
  induction takes with
  | stop ending w => exact ends
  | aside others rest ih => exact ih ends answered
  | ask rest ih =>
      rw [List.forall_mem_cons] at answered
      exact ih (ends _ answered.1) answered.2

end Flow

/-! ## A store without outages -/

namespace World

theorem isApart_outage : IsApart fun w w' => w'.outage = w.outage where
  trans first second := second.trans first
  readClock _ := rfl
  send _ channel _ := by cases channel <;> rfl
  note _ _ := rfl
  countFailedSend _ _ := rfl
  setBuffer _ _ := rfl

/-- Nothing that happens changes when the store is out. -/
theorem outage_happen (effect : Effect) (w : World) :
    (World.happen effect w).1.outage = w.outage := by
  cases effect with
  | now => rfl
  | next series => cases series <;> rfl
  | store call =>
      change (w.call call).1.outage = w.outage
      unfold World.call
      split
      · rfl
      · rfl
  | known org => rfl
  | remember org account =>
      change (w.remember org account).1.outage = w.outage
      unfold World.remember
      split
      · rfl
      · rfl
  | buffer item audit => exact isApart_outage.add w item audit
  | sendAudit audit => exact isApart_outage.sendAudits w [audit]
  | sendTargets targets batchSize => exact isApart_outage.sendTargets w targets batchSize
  | count lane verdict => rfl
  | countFailedSend channel => rfl
  | log notice => rfl
  | sleep ms => rfl

/-- A store that is never out refuses nothing. -/
theorem isAnswered_happen {w : World} (healthy : ∀ n, w.outage n = false) (effect : Effect) :
    Deed.IsAnswered ⟨effect, (World.happen effect w).2⟩ := by
  cases effect with
  | store call =>
      have answered : (w.call call).2 = .ok (w.store.answer call).2 := by
        rw [World.call, healthy, if_neg Bool.false_ne_true]
      change Deed.IsAnswered ⟨.store call, (w.call call).2⟩
      rw [answered]
      trivial
  | _ => trivial

end World

/-- Where the store is never out, a flow that runs on its own is refused nothing. -/
theorem Flow.isAnswered_of_mem_deedsIn {α : Type} {x : Flow α} {w : World}
    (healthy : ∀ n, w.outage n = false) : ∀ d ∈ x.deedsIn w, d.IsAnswered := by
  induction x generalizing w with
  | stop ending => simp [Flow.deedsIn]
  | ask effect next ih =>
      rw [Flow.deedsIn, List.forall_mem_cons]
      constructor
      · exact World.isAnswered_happen (w := w.after _) healthy effect
      · apply ih
        intro n
        exact (congrFun (World.outage_happen effect _) n).trans (healthy n)

/-! ## Parts of handlers -/

theorem ends_reportStatus (about : Log.Context) (audit : Audit) :
    (reportStatus about audit).Ends IsDone := by
  apply (ends_perform _).bind
  intro answer
  cases answer with
  | ok sent => exact ⟨(), rfl⟩
  | error why => exact (ends_perform _).bind fun _ => ends_perform _

theorem ends_rejectUpload (about : Log.Context) (audit : Audit) (verdict : Verdict) (why : Fault) :
    (rejectUpload about audit verdict why).Ends (· = .done (.rejected verdict)) :=
  (ends_perform _).bind fun _ => (ends_perform _).bind fun _ =>
    (ends_reportStatus _ _).bind fun _ => rfl

theorem ends_ignoreUpload (about : Log.Context) (audit : Audit) (marker : Marker) :
    (ignoreUpload about audit marker).Ends (· = .done .recentlyDeleted) :=
  (ends_perform _).bind fun _ => (ends_perform _).bind fun _ =>
    (ends_reportStatus _ _).bind fun _ => rfl

theorem ends_recentMarker? (threshold : Nat) (inventoryId : String) :
    (recentMarker? threshold inventoryId).Ends IsDone := by
  apply (ends_store _).bind
  intro found
  cases found with
  | none => exact ⟨none, rfl⟩
  | some marker => exact (ends_perform _).bind fun _ => ⟨_, rfl⟩

theorem ends_resolveAccount (about : Log.Context) {org : String} (named : org.isEmpty = false) :
    (resolveAccount about org).Ends IsDone := by
  unfold resolveAccount
  rw [named, if_neg Bool.false_ne_true]
  apply (ends_perform _).bind
  intro known
  cases known with
  | some account => exact ⟨account, rfl⟩
  | none =>
      intro answer answered
      cases answer with
      | error why => exact answered.elim
      | ok found =>
          refine (ends_perform (.remember org found)).bind fun kept => ?_
          dsimp only
          split
          · exact (ends_perform _).bind fun _ => ⟨kept, rfl⟩
          · exact (ends_perform _).bind fun _ => ⟨kept, rfl⟩

theorem ends_storeUpload (about : Log.Context) (event : HostEvent) (host : Host)
    (inventoryId : String) {org : String} (audit : Audit) (named : org.isEmpty = false) :
    (storeUpload about event host inventoryId org audit).Ends
      fun ending => ∃ account, ending = .done (.evaluated account) := by
  apply (ends_resolveAccount about named).bind
  intro account
  exact (ends_perform _).bind fun _ => (ends_store _).bind fun _ => (ends_perform _).bind
    fun _ => (ends_perform _).bind fun _ => (ends_perform _).bind fun _ => ⟨account, rfl⟩

theorem ends_pruneMarkers (about : Log.Context) (limit : Calendar.Instant) :
    (pruneMarkers about limit).Ends IsDone := by
  have told : ∀ count : Nat,
      (if count = 0 then pure () else Flow.log (.markersPruned about count) : Flow Unit).Ends
        IsDone := by
    intro count
    split
    · exact ⟨(), rfl⟩
    · exact ends_perform _
  intro answer answered
  cases answer with
  | error why => exact answered.elim
  | ok count => exact told count

/-- A deletion is done, or has crashed. -/
theorem ends_finishDelete (threshold : Nat) (about : Log.Context) (inventoryId : String)
    (now : Calendar.Instant) (rows : Nat) :
    (finishDelete threshold about inventoryId now rows).Ends
      fun ending => ending = .done (.deleted rows) ∨ ending = .crashed := by
  have rest : (clearOutdated threshold about now rows).Ends
      fun ending => ending = .done (.deleted rows) ∨ ending = .crashed := by
    unfold clearOutdated
    split
    · exact .inr rfl
    · exact (ends_pruneMarkers _ _).bind fun _ => .inl rfl
  unfold finishDelete
  dsimp only
  split
  · exact (ends_perform _).bind fun _ => (ends_perform _).bind fun _ => rest
  · exact (ends_perform _).bind fun _ => (ends_perform _).bind fun _ => rest

/-! ## Events -/

/-- What comes of an event where the store answers. -/
inductive Job.Concludes (job : Job) : Ending Outcome → Prop
  | idle {ending : Ending Outcome} (idle : job.IsIdle) (nothing : ending.IsIdle) :
      job.Concludes ending
  | evaluated {r : Report} (account : Int) (accepted : job.accepted? = some r) :
      job.Concludes (.done (.evaluated account))
  | ignored {r : Report} (accepted : job.accepted? = some r) :
      job.Concludes (.done .recentlyDeleted)
  | deleted {inventoryId : String} (rows : Nat) (deletion : job.deletion? = some inventoryId) :
      job.Concludes (.done (.deleted rows))
  | crashed {inventoryId : String} (deletion : job.deletion? = some inventoryId) :
      job.Concludes .crashed

/-- Where the store answers, an event comes to what its message has set it to. -/
theorem ends_handler (threshold : Nat) (job : Job) :
    (job.handler threshold).Ends job.Concludes := by
  have sets := job.sets_handler threshold
  generalize job.handler threshold = x at sets
  cases sets with
  | skips idle => exact (ends_perform _).bind fun _ => .idle idle trivial
  | fails idle _ => exact .idle idle trivial
  | rejects idle =>
      apply (ends_rejectUpload _ _ _ _).mono
      rintro ending rfl
      exact .idle idle trivial
  | admits accepted named =>
      apply (ends_recentMarker? _ _).bind
      intro found
      cases found with
      | some marker =>
          apply (ends_ignoreUpload _ _ _).mono
          rintro ending rfl
          exact .ignored accepted
      | none =>
          apply (ends_storeUpload _ _ _ _ _ named).mono
          rintro ending ⟨account, rfl⟩
          exact .evaluated account accepted
  | deletes deletion named =>
      rw [handleDelete_of_some threshold job.about named]
      refine (ends_perform .now).bind fun time => ?_
      refine (ends_store _).bind fun _ => (ends_store _).bind fun rows => ?_
      apply (ends_finishDelete _ _ _ _ _).mono
      rintro ending (rfl | rfl)
      · exact .deleted rows deletion
      · exact .crashed deletion

end FleetRoster
