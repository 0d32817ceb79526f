import FleetRoster.Proofs.Handler.Demands
import FleetRoster.Proofs.World.Pairs

/-!
# Nothing is let out too early

The order of effects within the handlers of uploads and deletions and in the account lookup that
they share. Whatever is sent, queued or counted stays so even if the handler fails afterwards. So a
handler does such things only once nothing can fail any more. When it has failed, all that it did
was inside the books.
-/

namespace FleetRoster

open FleetRoster.Flow

/-- An effect that changes nothing but the books, the clock, the log and the number of messages. -/
def Effect.IsInward : Effect → Prop
  | .next .lookups => False
  | .buffer _ _ => False
  | .sendAudit _ => False
  | .sendTargets _ _ => False
  | .count _ _ => False
  | .countFailedSend _ => False
  | _ => True

/-- Nothing but the books, the time, the log and the number of messages has changed, and the clock
is the same. -/
structure World.Inside (w w' : World) : Prop where
  clock : w'.clock = w.clock
  buffer : w'.buffer = w.buffer
  topic : ∀ channel, w'.topic channel = w.topic channel
  tally : w'.tally = w.tally
  lookups : w'.lookups = w.lookups

namespace World

theorem Inside.refl (w : World) : w.Inside w :=
  ⟨rfl, rfl, fun _ => rfl, rfl, rfl⟩

theorem Inside.trans {w₁ w₂ w₃ : World} (first : w₁.Inside w₂) (second : w₂.Inside w₃) :
    w₁.Inside w₃ where
  clock := second.clock.trans first.clock
  buffer := second.buffer.trans first.buffer
  topic channel := (second.topic channel).trans (first.topic channel)
  tally := second.tally.trans first.tally
  lookups := second.lookups.trans first.lookups

theorem Elapses.inside {w w' : World} (elapses : w.Elapses w') : w.Inside w' := by
  obtain ⟨ms, rfl⟩ := elapses
  exact ⟨rfl, rfl, fun _ => rfl, rfl, rfl⟩

theorem inside_call (w : World) (call : Store.Call) : w.Inside (w.call call).1 := by
  unfold World.call
  by_cases out : w.outage w.calls
  · rw [if_pos out]
    exact ⟨rfl, rfl, fun _ => rfl, rfl, rfl⟩
  · rw [if_neg out]
    exact ⟨rfl, rfl, fun _ => rfl, rfl, rfl⟩

theorem inside_remember (w : World) (org : String) (account : Int) :
    w.Inside (w.remember org account).1 := by
  unfold World.remember
  split
  · exact .refl w
  · exact ⟨rfl, rfl, fun _ => rfl, rfl, rfl⟩

/-- What happens in an inward effect stays inside. -/
theorem inside_happen {effect : Effect} (inward : effect.IsInward) (w : World) :
    w.Inside (World.happen effect w).1 := by
  cases effect with
  | now => exact ⟨rfl, rfl, fun _ => rfl, rfl, rfl⟩
  | store call => exact w.inside_call call
  | known org => exact .refl w
  | remember org account => exact w.inside_remember org account
  | log notice => exact ⟨rfl, rfl, fun _ => rfl, rfl, rfl⟩
  | sleep ms => exact .refl w
  | next series =>
      cases series with
      | messages => exact ⟨rfl, rfl, fun _ => rfl, rfl, rfl⟩
      | lookups => exact inward.elim
  | buffer item audit => exact inward.elim
  | sendAudit audit => exact inward.elim
  | sendTargets targets batchSize => exact inward.elim
  | count lane verdict => exact inward.elim
  | countFailedSend channel => exact inward.elim

end World

namespace Flow

variable {α β : Type} {w w' : World} {deeds : List Deed}

/-! ## Firm flows -/

/-- A flow that cannot fail. -/
def Firm : Flow α → Prop
  | .stop (.failed _) => False
  | .stop _ => True
  | .ask _ next => ∀ answer, (next answer).Firm

theorem firm_perform (effect : Effect) : (perform effect).Firm :=
  fun _ => trivial

theorem Firm.bind {x : Flow α} {f : α → Flow β} (firm : x.Firm) (rest : ∀ a, (f a).Firm) :
    (x >>= f).Firm := by
  change (x.bind f).Firm
  induction x with
  | stop ending =>
      cases ending with
      | done a => exact rest a
      | failed why => exact firm.elim
      | crashed => trivial
  | ask effect next ih => exact fun answer => ih answer (firm answer)

/-- A failure of what is attempted is a result. -/
theorem firm_attempt (x : Flow α) : x.attempt.Firm := by
  induction x with
  | stop ending => cases ending <;> trivial
  | ask effect next ih => exact ih

theorem Firm.not_failed {aside : World → World → Prop} {x : Flow α} {why : Fault} (firm : x.Firm)
    (takes : x.Takes aside w deeds w' (.failed why)) : False := by
  generalize ended : Ending.failed why = ending at takes
  induction takes with
  | stop own w =>
      cases ended
      exact firm
  | aside others rest ih => exact ih firm ended
  | ask rest ih => exact ih (firm _) ended

/-- What a firm flow leads to is of no account to a claim about failures. -/
theorem Firm.leads {σ : Type} {acts : View σ} {x : Flow α} {s : σ}
    {claim : List Deed → σ → Ending α → Prop} (firm : x.Firm)
    (other : ∀ deeds s ending, (∀ why, ending ≠ .failed why) → claim deeds s ending) :
    x.Leads acts s claim := by
  induction x generalizing s claim with
  | stop ending =>
      apply other
      rintro why rfl
      exact firm
  | ask effect next ih =>
      intro s' answer _
      exact ih answer (firm answer) fun deeds => other (_ :: deeds)

/-! ## Heedful flows -/

/-- A flow that cannot fail any more once it has let something out. -/
def Heedful : Flow α → Prop
  | .stop _ => True
  | .ask effect next =>
      (effect.IsInward ∨ ∀ answer, (next answer).Firm) ∧ ∀ answer, (next answer).Heedful

theorem Firm.heedful {x : Flow α} (firm : x.Firm) : x.Heedful := by
  induction x with
  | stop ending => trivial
  | ask effect next ih => exact ⟨.inr firm, fun answer => ih answer (firm answer)⟩

/-- A flow may let something out after one that stays inside. -/
theorem heedful_after {x : Flow α} {f : α → Flow β} (inward : x.Only Effect.IsInward)
    (rest : ∀ a, (f a).Heedful) : (x >>= f).Heedful := by
  change (x.bind f).Heedful
  induction x with
  | stop ending =>
      cases ending with
      | done a => exact rest a
      | failed why => trivial
      | crashed => trivial
  | ask effect next ih => exact ⟨.inl inward.1, fun answer => ih answer (inward.2 answer)⟩

/-- A flow that stays inside leaves what is outside alone. -/
theorem Only.inside {x : Flow α} {ending : Ending α} (inward : x.Only Effect.IsInward)
    (takes : x.Takes World.Elapses w deeds w' ending) : w.Inside w' := by
  induction takes with
  | stop ending w => exact .refl w
  | aside others rest ih => exact others.inside.trans (ih inward)
  | ask rest ih => exact (World.inside_happen inward.1 _).trans (ih (inward.2 _))

/-- A heedful flow that has failed has let nothing out. -/
theorem Heedful.inside {x : Flow α} {why : Fault} (heedful : x.Heedful)
    (takes : x.Takes World.Elapses w deeds w' (.failed why)) : w.Inside w' := by
  generalize ended : Ending.failed why = ending at takes
  induction takes with
  | stop ending w => exact .refl w
  | aside others rest ih => exact others.inside.trans (ih heedful ended)
  | ask rest ih =>
      rcases heedful with ⟨inward | firm, goesOn⟩
      · exact (World.inside_happen inward _).trans (ih (goesOn _) ended)
      · subst ended
        exact ((firm _).not_failed rest).elim

end Flow

/-! ## Handlers -/

theorem inward_now : Flow.now.Only Effect.IsInward :=
  only_perform trivial

theorem firm_reportStatus (about : Log.Context) (audit : Audit) :
    (reportStatus about audit).Firm := by
  apply (firm_perform _).bind
  intro answer
  cases answer with
  | ok sent => trivial
  | error why => exact (firm_perform _).bind fun _ => firm_perform _

theorem firm_rejectUpload (about : Log.Context) (audit : Audit) (verdict : Verdict) (why : Fault) :
    (rejectUpload about audit verdict why).Firm :=
  (firm_perform _).bind fun _ => (firm_perform _).bind fun _ =>
    (firm_reportStatus _ _).bind fun _ => trivial

theorem firm_ignoreUpload (about : Log.Context) (audit : Audit) (marker : Marker) :
    (ignoreUpload about audit marker).Firm :=
  (firm_perform _).bind fun _ => (firm_perform _).bind fun _ =>
    (firm_reportStatus _ _).bind fun _ => trivial

theorem firm_pruneMarkers (about : Log.Context) (limit : Calendar.Instant) :
    (pruneMarkers about limit).Firm := by
  apply (firm_attempt _).bind
  intro answer
  cases answer with
  | error why => exact firm_perform _
  | ok count =>
      dsimp only
      split
      · trivial
      · exact firm_perform _

/-- Once the rows are marked, a deletion cannot fail. -/
theorem firm_finishDelete (threshold : Nat) (about : Log.Context) (inventoryId : String)
    (now : Calendar.Instant) (rows : Nat) :
    (finishDelete threshold about inventoryId now rows).Firm := by
  have rest : (clearOutdated threshold about now rows).Firm := by
    unfold clearOutdated
    split
    · trivial
    · exact (firm_pruneMarkers _ _).bind fun _ => trivial
  unfold finishDelete
  dsimp only
  split
  · exact (firm_perform _).bind fun _ => (firm_perform _).bind fun _ => rest
  · exact (firm_perform _).bind fun _ => (firm_perform _).bind fun _ => rest

theorem inward_recentMarker? (threshold : Nat) (inventoryId : String) :
    (recentMarker? threshold inventoryId).Only Effect.IsInward :=
  only_recentMarker? trivial trivial

theorem heedful_storeUpload (about : Log.Context) (event : HostEvent) (host : Host)
    (inventoryId org : String) (audit : Audit) :
    (storeUpload about event host inventoryId org audit).Heedful := by
  apply heedful_after
    (only_resolveAccount about trivial trivial (fun _ => trivial) fun _ => trivial)
  intro account
  apply heedful_after inward_now
  intro time
  apply heedful_after (only_store trivial)
  intro row
  apply Firm.heedful
  exact (firm_perform _).bind fun _ => (firm_perform _).bind fun _ => (firm_perform _).bind
    fun _ => trivial

theorem heedful_handleDelete (threshold : Nat) (about : Log.Context) (event : HostEvent) :
    (handleDelete threshold about event).Heedful := by
  cases named : event.inventoryId with
  | none =>
      unfold handleDelete
      rw [named]
      trivial
  | some inventoryId =>
      rw [handleDelete_of_some threshold about named]
      apply heedful_after inward_now
      intro time
      apply heedful_after (only_store trivial)
      intro _
      apply heedful_after (only_store trivial)
      intro rows
      exact (firm_finishDelete threshold about inventoryId time rows).heedful

/-- No handler lets anything out while it can still fail. -/
theorem heedful_handler (threshold : Nat) (job : Job) : (job.handler threshold).Heedful := by
  have sets := job.sets_handler threshold
  generalize job.handler threshold = x at sets
  cases sets with
  | skips _ => exact Firm.heedful ((firm_perform _).bind fun _ => trivial)
  | fails _ _ => trivial
  | rejects _ => exact (firm_rejectUpload _ _ _ _).heedful
  | admits _ _ =>
      apply heedful_after (inward_recentMarker? _ _)
      intro found
      cases found with
      | some marker => exact (firm_ignoreUpload _ _ _).heedful
      | none => exact heedful_storeUpload _ _ _ _ _ _
  | deletes _ _ => exact heedful_handleDelete _ _ _

end FleetRoster
