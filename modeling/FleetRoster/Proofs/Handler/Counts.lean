import FleetRoster.Handler.Dispatch
import FleetRoster.Proofs.Flow.Leads

/-!
# What a dispatch counts

An event that is dispatched is counted once, under the lane of its kind and as what became of it; an
event whose handler has failed is not counted at all. Nothing crashes while the clock shows instants
from which the threshold can be taken away.
-/

namespace FleetRoster

open Calendar (Instant)

/-! ## Counts -/

/-- What an effect counts. -/
def Effect.counted? : Effect → Option (Lane × Verdict)
  | .count lane verdict => some (lane, verdict)
  | _ => none

/-- What was counted, the first one first. -/
def countsOf (deeds : List Deed) : List (Lane × Verdict) :=
  deeds.filterMap (·.effect.counted?)

theorem countsOf_cons (deed : Deed) (deeds : List Deed) :
    countsOf (deed :: deeds) = deed.effect.counted?.toList ++ countsOf deeds := by
  cases counted : deed.effect.counted? <;> simp [countsOf, counted]

theorem countsOf_append (deeds more : List Deed) :
    countsOf (deeds ++ more) = countsOf deeds ++ countsOf more :=
  List.filterMap_append

/-- As what an outcome is counted. -/
def Outcome.verdict : Outcome → Verdict
  | .evaluated _ => .evaluated
  | .recentlyDeleted => .deleted
  | .rejected why => why
  | .deleted 0 => .noRows
  | .deleted (_ + 1) => .deleted
  | .skipped => .otherKind

/-! ## The judgement -/

/-- What an effect may answer while the clock stays the same. -/
def ClockActs : View (Nat → Instant)
  | .now, clock, clock', time => clock' = clock ∧ ∃ n, time = clock n
  | _, clock, clock', _ => clock' = clock

theorem ClockActs.same {effect : Effect} {clock clock' : Nat → Instant} {answer : effect.Answer}
    (acts : ClockActs effect clock clock' answer) : clock' = clock := by
  cases effect with
  | now => exact acts.1
  | _ => exact acts

namespace Flow

variable {α β : Type} {clock : Nat → Instant}

/-- Whatever else the answers are, while the clock shows its readings, what is counted and how the flow
ends are as claimed. -/
def Counts (clock : Nat → Instant) (x : Flow α)
    (claim : List (Lane × Verdict) → Ending α → Prop) : Prop :=
  x.Leads ClockActs clock fun deeds clock' ending =>
    clock' = clock ∧ claim (countsOf deeds) ending

/-- The flow counts nothing and does not fail. -/
def Quiet (clock : Nat → Instant) (x : Flow α) : Prop :=
  x.Counts clock fun counts ending => counts = [] ∧ ∃ a, ending = .done a

/-- The flow counts nothing and does not crash. -/
def Mild (clock : Nat → Instant) (x : Flow α) : Prop :=
  x.Counts clock fun counts ending => counts = [] ∧ ending ≠ .crashed

theorem Counts.mono {x : Flow α} {claim weaker : List (Lane × Verdict) → Ending α → Prop}
    (counts : x.Counts clock claim)
    (imp : ∀ made ending, claim made ending → weaker made ending) : x.Counts clock weaker :=
  Leads.mono counts fun deeds _ ending => And.imp_right (imp (countsOf deeds) ending)

/-- What follows on a flow adds its counts to those of the flow. -/
theorem counts_bind {x : Flow α} {f : α → Flow β}
    {claim : List (Lane × Verdict) → Ending β → Prop}
    (counts : x.Counts clock fun made ending =>
      match ending with
      | .done a => (f a).Counts clock fun more => claim (made ++ more)
      | .failed why => claim made (.failed why)
      | .crashed => claim made .crashed) :
    (x >>= f).Counts clock claim := by
  rw [Counts, leads_bind]
  apply Leads.mono counts
  rintro deeds clock' ending ⟨rfl, claimed⟩
  cases ending with
  | failed why => exact ⟨rfl, claimed⟩
  | crashed => exact ⟨rfl, claimed⟩
  | done a =>
      apply Leads.mono claimed
      intro more clock' ending claimed
      simpa only [countsOf_append] using claimed

/-- An effect that is no count leads on to whatever follows its answer. -/
theorem counts_ask {effect : Effect} {next : effect.Answer → Flow β}
    {claim : List (Lane × Verdict) → Ending β → Prop} (silent : effect.counted? = none)
    (rest : ∀ answer, ClockActs effect clock clock answer → (next answer).Counts clock claim) :
    (ask effect next).Counts clock claim := by
  intro clock' answer acts
  obtain rfl := acts.same
  apply Leads.mono (rest answer acts)
  intro deeds clock' ending claimed
  simpa only [countsOf_cons, silent, Option.toList_none, List.nil_append] using claimed

/-- What follows on a quiet flow makes all the counts. -/
theorem counts_after {x : Flow α} {f : α → Flow β}
    {claim : List (Lane × Verdict) → Ending β → Prop} (quiet : x.Quiet clock)
    (rest : ∀ a, (f a).Counts clock claim) : (x >>= f).Counts clock claim := by
  apply counts_bind
  apply quiet.mono
  rintro made ending ⟨rfl, a, rfl⟩
  exact rest a

/-- What follows on a mild flow makes all the counts, unless the flow fails. -/
theorem counts_afterMild {x : Flow α} {f : α → Flow β}
    {claim : List (Lane × Verdict) → Ending β → Prop} (mild : x.Mild clock)
    (failed : ∀ why, claim [] (.failed why)) (rest : ∀ a, (f a).Counts clock claim) :
    (x >>= f).Counts clock claim := by
  apply counts_bind
  apply mild.mono
  rintro made ending ⟨rfl, safe⟩
  cases ending with
  | done a => exact rest a
  | failed why => exact failed why
  | crashed => contradiction

/-- A count comes before those that follow. -/
theorem counts_count {lane : Lane} {verdict : Verdict} {f : Unit → Flow β}
    {claim : List (Lane × Verdict) → Ending β → Prop}
    (rest : (f ()).Counts clock fun more => claim ((lane, verdict) :: more)) :
    (count lane verdict >>= f).Counts clock claim := by
  rintro clock' ⟨⟩ rfl
  apply Leads.mono rest
  intro deeds clock' ending claimed
  exact claimed

/-! ## Quiet flows -/

theorem quiet_perform {effect : Effect} (silent : effect.counted? = none) :
    (perform effect).Quiet clock :=
  counts_ask silent fun answer _ => ⟨rfl, rfl, answer, rfl⟩

theorem quiet_log (notice : Notice) : (log notice).Quiet clock :=
  quiet_perform rfl

/-- A call of the store may fail. -/
theorem mild_store (call : Store.Call) : (store call).Mild clock := by
  apply counts_ask rfl
  intro answer _
  cases answer with
  | ok a => exact ⟨rfl, rfl, by simp⟩
  | error why => exact ⟨rfl, rfl, by simp⟩

/-- An attempt of a mild flow is quiet. -/
theorem Mild.quiet_attempt {x : Flow α} (mild : x.Mild clock) : x.attempt.Quiet clock := by
  rw [Quiet, Counts, leads_attempt]
  apply Leads.mono mild
  rintro deeds clock' ending ⟨rfl, none, safe⟩
  cases ending with
  | done a => exact ⟨rfl, none, .ok a, rfl⟩
  | failed why => exact ⟨rfl, none, .error why, rfl⟩
  | crashed => contradiction

theorem Quiet.mild {x : Flow α} (quiet : x.Quiet clock) : x.Mild clock := by
  apply Counts.mono quiet
  rintro made ending ⟨none, a, rfl⟩
  exact ⟨none, by simp⟩

/-- Quiet flows in a row are quiet. -/
theorem Quiet.bind {x : Flow α} {f : α → Flow β} (quiet : x.Quiet clock)
    (rest : ∀ a, (f a).Quiet clock) : (x >>= f).Quiet clock :=
  counts_after quiet rest

/-- Mild flows in a row are mild. -/
theorem Mild.bind {x : Flow α} {f : α → Flow β} (mild : x.Mild clock)
    (rest : ∀ a, (f a).Mild clock) : (x >>= f).Mild clock :=
  counts_afterMild mild (fun _ => ⟨rfl, by simp⟩) rest

theorem quiet_done (a : α) : (pure a : Flow α).Quiet clock :=
  ⟨rfl, rfl, a, rfl⟩

theorem mild_fail (why : Fault) : (fail why : Flow α).Mild clock :=
  ⟨rfl, rfl, by simp⟩

end Flow

open FleetRoster.Flow

variable {clock : Nat → Instant}

/-! ## Parts of handlers -/

theorem quiet_reportStatus (about : Log.Context) (audit : Audit) :
    (reportStatus about audit).Quiet clock := by
  apply (quiet_perform rfl).bind
  intro answer
  cases answer with
  | ok sent => exact quiet_done _
  | error why => exact (quiet_log _).bind fun _ => quiet_perform rfl

theorem quiet_pruneMarkers (about : Log.Context) (limit : Instant) :
    (pruneMarkers about limit).Quiet clock := by
  apply (mild_store _).quiet_attempt.bind
  intro answer
  cases answer with
  | error why => exact quiet_log _
  | ok count =>
      dsimp only
      split
      · exact quiet_done _
      · exact quiet_log _

theorem mild_resolveAccount (about : Log.Context) (org : String) :
    (resolveAccount about org).Mild clock := by
  unfold resolveAccount
  split
  · exact mild_fail _
  · apply (quiet_perform rfl).mild.bind
    intro known
    cases known with
    | some account => exact (quiet_done _).mild
    | none =>
        apply (mild_store _).quiet_attempt.mild.bind
        intro answer
        cases answer with
        | error why => exact (quiet_log _).mild.bind fun _ => mild_fail _
        | ok found =>
            apply (quiet_perform rfl).mild.bind
            intro kept
            dsimp only
            split
            · exact ((quiet_log _).bind fun _ => quiet_done _).mild
            · exact ((quiet_log _).bind fun _ => quiet_done _).mild

theorem mild_recentMarker? (threshold : Nat) (inventoryId : String) :
    (recentMarker? threshold inventoryId).Mild clock := by
  apply (mild_store _).bind
  intro found
  cases found with
  | none => exact (quiet_done _).mild
  | some marker => exact ((quiet_perform rfl).bind fun _ => quiet_done _).mild

/-! ## Handlers -/

/-- An event with an outcome was counted once, in its lane and as what became of it, and an event that
has failed was not counted. -/
def Judged (lane : Lane) (counts : List (Lane × Verdict)) : Ending Outcome → Prop
  | .done outcome => counts = [(lane, outcome.verdict)] ∧ outcome.verdict ≠ .failed
  | .failed _ => counts = []
  | .crashed => False

/-- Once an event was counted, what its handler still does cannot fail. -/
theorem judged_counted {x : Flow Unit} {lane : Lane} (outcome : Outcome) (quiet : x.Quiet clock)
    (verdict : outcome.verdict ≠ .failed) :
    (count lane outcome.verdict >>= fun _ => x >>= fun _ => pure outcome).Counts clock
      (Judged lane) :=
  counts_count (counts_after quiet fun _ => ⟨rfl, rfl, verdict⟩)

theorem judged_storeUpload (about : Log.Context) (event : HostEvent) (host : Host)
    (inventoryId org : String) (audit : Audit) :
    (storeUpload about event host inventoryId org audit).Counts clock (Judged .upload) := by
  apply counts_afterMild (mild_resolveAccount _ _) fun _ => rfl
  intro account
  apply counts_after (quiet_perform rfl)
  intro time
  apply counts_afterMild (mild_store _) fun _ => rfl
  intro row
  apply counts_after (quiet_perform rfl)
  intro report
  apply counts_after (quiet_log _)
  intro _
  exact counts_count ⟨rfl, rfl, by simp [Outcome.verdict]⟩

theorem judged_handleUpload (threshold : Nat) (about : Log.Context) (event : HostEvent) :
    (handleUpload threshold about event).Counts clock (Judged .upload) := by
  unfold handleUpload
  split
  · exact ⟨rfl, rfl⟩
  · exact ⟨rfl, rfl⟩
  · split
    · exact counts_after (quiet_log _) fun _ =>
        judged_counted (.rejected .badIdentity) (quiet_reportStatus _ _) (by decide)
    · dsimp only
      split
      · exact counts_after (quiet_log _) fun _ =>
          judged_counted (.rejected .badPackages) (quiet_reportStatus _ _) (by decide)
      · apply counts_afterMild (mild_recentMarker? _ _) fun _ => rfl
        intro found
        cases found with
        | some marker =>
            exact counts_after (quiet_log _) fun _ =>
              judged_counted .recentlyDeleted (quiet_reportStatus _ _) (by decide)
        | none => exact judged_storeUpload _ _ _ _ _ _

/-- The threshold can be taken away from whatever the clock shows. -/
def IsSafe (clock : Nat → Instant) (threshold : Nat) : Prop :=
  ∀ n, ((clock n).earlier? threshold).isSome

theorem judged_handleDelete {threshold : Nat} (safe : IsSafe clock threshold)
    (about : Log.Context) (event : HostEvent) :
    (handleDelete threshold about event).Counts clock (Judged .delete) := by
  unfold handleDelete
  split
  · exact ⟨rfl, rfl⟩
  · apply counts_ask rfl
    rintro time ⟨_, n, rfl⟩
    apply counts_afterMild (mild_store _) fun _ => rfl
    intro _
    apply counts_afterMild (mild_store _) fun _ => rfl
    intro rows
    obtain ⟨limit, back⟩ := Option.isSome_iff_exists.mp (safe n)
    rw [back]
    have pruned : (pruneMarkers about limit).Quiet clock := quiet_pruneMarkers about limit
    dsimp only
    split
    next none =>
      subst none
      exact counts_after (quiet_log _) fun _ =>
        judged_counted (.deleted 0) pruned (by decide)
    next some =>
      obtain ⟨more, rfl⟩ := Nat.exists_eq_succ_of_ne_zero some
      exact counts_after (quiet_log _) fun _ =>
        judged_counted (.deleted (more + 1)) pruned (by simp [Outcome.verdict])

/-- An event that is dispatched is counted once, under the lane of its kind, unless it fails. -/
theorem judged_dispatch {threshold : Nat} (safe : IsSafe clock threshold) (about : Log.Context)
    (kind : EventKind) (message : Json.Value) :
    (dispatch threshold about kind message).Counts clock (Judged kind.lane) := by
  unfold dispatch
  cases kind.lane with
  | other => exact counts_count ⟨rfl, rfl, by decide⟩
  | delete =>
      cases HostEvent.ofMessage message with
      | error why => exact ⟨rfl, rfl⟩
      | ok event => exact judged_handleDelete safe about event
  | upload =>
      cases HostEvent.ofMessage message with
      | error why => exact ⟨rfl, rfl⟩
      | ok event => exact judged_handleUpload threshold about event

end FleetRoster
