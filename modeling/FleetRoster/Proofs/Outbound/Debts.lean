import FleetRoster.Proofs.Handler.Heed
import FleetRoster.Proofs.Handler.Tries
import FleetRoster.Proofs.Outbound.Calls

/-!
# Every refused send is counted once

Whoever has a send refused owes a count of it, and pays it before sending anything else and before
coming to an end. Nobody counts what was not refused. The judgement follows a flow from effect to
effect with what it owes.
-/

namespace FleetRoster

open FleetRoster.Flow

/-! ## What is owed -/

/-- The channel of which a failed send is still to be counted after something was done, where one
was owed before. -/
def Deed.owed (before : Option Channel) : Deed → Option Channel
  | ⟨.countFailedSend _, _⟩ => none
  | ⟨.sendAudit _, .error _⟩ => some .audits
  | ⟨.sendTargets _ _, .error _⟩ => some .requests
  | _ => before

/-- What is owed after all that was done. -/
def owedAfter (deeds : List Deed) : Option Channel :=
  deeds.foldl Deed.owed none

theorem owedAfter_snoc (deeds : List Deed) (deed : Deed) :
    owedAfter (deeds ++ [deed]) = deed.owed (owedAfter deeds) := by
  rw [owedAfter, List.foldl_append]
  rfl

/-- An effect keeps to the rules: what is counted is owed, and nothing is sent while a count is
owed. -/
def Effect.Honours (owed : Option Channel) : Effect → Prop
  | .countFailedSend channel => owed = some channel
  | .sendAudit _ | .sendTargets _ _ => owed = none
  | _ => True

/-- The channel to which an effect sends right away, or of which it counts a failed send. -/
def Effect.channel? : Effect → Option Channel
  | .countFailedSend channel => some channel
  | .sendAudit _ => some .audits
  | .sendTargets _ _ => some .requests
  | _ => none

/-- An effect that neither sends right away nor counts a failed send. -/
def Effect.IsSendless (effect : Effect) : Prop :=
  effect.channel? = none

theorem Effect.IsSendless.honours {effect : Effect} (sendless : effect.IsSendless) (owed : Option Channel) :
    effect.Honours owed := by
  cases effect with
  | countFailedSend _ | sendAudit _ | sendTargets _ _ => cases sendless
  | _ => trivial

theorem Effect.IsSendless.owed {effect : Effect} (sendless : effect.IsSendless) (answer : effect.Answer)
    (before : Option Channel) : Deed.owed before ⟨effect, answer⟩ = before := by
  cases effect with
  | countFailedSend _ | sendAudit _ | sendTargets _ _ => cases sendless
  | _ => rfl

/-! ## The judgement -/

namespace Flow

variable {α β : Type} {owed : Option Channel}

/-- Whatever the answers, a flow that owes so much keeps to the rules and owes nothing in the
end. -/
def Squares : Option Channel → Flow α → Prop
  | owed, .stop _ => owed = none
  | owed, .ask effect next =>
      effect.Honours owed ∧ ∀ answer, (next answer).Squares (Deed.owed owed ⟨effect, answer⟩)

/-- A flow may follow on one that has paid. -/
theorem Squares.bind {x : Flow α} {f : α → Flow β} (squares : x.Squares owed)
    (rest : ∀ a, (f a).Squares none) : (x >>= f).Squares owed := by
  change (x.bind f).Squares owed
  induction x generalizing owed with
  | stop ending =>
      cases squares
      cases ending with
      | done a => exact rest a
      | failed why => rfl
      | crashed => rfl
  | ask effect next ih => exact ⟨squares.1, fun answer => ih answer (squares.2 answer)⟩

theorem Squares.attempt {x : Flow α} (squares : x.Squares owed) : x.attempt.Squares owed := by
  induction x generalizing owed with
  | stop ending =>
      cases squares
      cases ending <;> rfl
  | ask effect next ih => exact ⟨squares.1, fun answer => ih answer (squares.2 answer)⟩

/-- A flow that sends and counts nothing owes nothing. -/
theorem Only.squares {x : Flow α} (sendless : x.Only Effect.IsSendless) : x.Squares none := by
  induction x with
  | stop ending => rfl
  | ask effect next ih =>
      refine ⟨sendless.1.honours none, fun answer => ?_⟩
      rw [sendless.1.owed answer none]
      exact ih answer (sendless.2 answer)

/-- A flow may follow on one that sends and counts nothing. -/
theorem squares_after {x : Flow α} {f : α → Flow β} (sendless : x.Only Effect.IsSendless)
    (rest : ∀ a, (f a).Squares none) : (x >>= f).Squares none :=
  sendless.squares.bind rest

/-- A failed send is owed until it is counted, and a line of the log comes first. -/
theorem squares_failure (notice : Notice) (channel : Channel) :
    (Flow.log notice >>= fun _ => perform (.countFailedSend channel)).Squares (some channel) :=
  ⟨trivial, fun _ => ⟨rfl, fun _ => rfl⟩⟩

theorem sendless_log (notice : Notice) : (Flow.log notice).Only Effect.IsSendless :=
  only_perform rfl

theorem sendless_count (lane : Lane) (verdict : Verdict) :
    (Flow.count lane verdict).Only Effect.IsSendless :=
  only_perform rfl

theorem sendless_now : Flow.now.Only Effect.IsSendless :=
  only_perform rfl

theorem sendless_store (call : Store.Call) : (Flow.store call).Only Effect.IsSendless :=
  only_store rfl

end Flow

/-! ## Handlers -/

theorem squares_reportStatus (about : Log.Context) (audit : Audit) :
    (reportStatus about audit).Squares none := by
  refine ⟨rfl, fun answer => ?_⟩
  cases answer with
  | ok sent => rfl
  | error why => exact squares_failure _ .audits

theorem squares_rejectUpload (about : Log.Context) (audit : Audit) (verdict : Verdict)
    (why : Fault) : (rejectUpload about audit verdict why).Squares none :=
  squares_after (sendless_log _) fun _ => squares_after (sendless_count _ _) fun _ =>
    (squares_reportStatus _ _).bind fun _ => rfl

theorem squares_ignoreUpload (about : Log.Context) (audit : Audit) (marker : Marker) :
    (ignoreUpload about audit marker).Squares none :=
  squares_after (sendless_log _) fun _ => squares_after (sendless_count _ _) fun _ =>
    (squares_reportStatus _ _).bind fun _ => rfl

theorem sendless_storeUpload (about : Log.Context) (event : HostEvent) (host : Host)
    (inventoryId org : String) (audit : Audit) :
    (storeUpload about event host inventoryId org audit).Only Effect.IsSendless :=
  only_storeUpload {
    knows := rfl
    asks := rfl
    remembers := fun _ => rfl
    reads := rfl
    writes := fun _ => rfl
    queues := fun _ _ _ _ _ => rfl
    logs := fun _ => rfl
    counts := fun _ => rfl }

theorem sendless_recentMarker? (threshold : Nat) (inventoryId : String) :
    (recentMarker? threshold inventoryId).Only Effect.IsSendless :=
  only_recentMarker? rfl rfl

theorem sendless_pruneMarkers (about : Log.Context) (limit : Calendar.Instant) :
    (pruneMarkers about limit).Only Effect.IsSendless :=
  only_pruneMarkers rfl fun _ => rfl

theorem sendless_finishDelete (threshold : Nat) (about : Log.Context) (inventoryId : String)
    (now : Calendar.Instant) (rows : Nat) :
    (finishDelete threshold about inventoryId now rows).Only Effect.IsSendless := by
  have rest : (clearOutdated threshold about now rows).Only Effect.IsSendless := by
    unfold clearOutdated
    split
    · trivial
    · exact (sendless_pruneMarkers _ _).bind fun _ => trivial
  unfold finishDelete
  dsimp only
  split
  · exact (sendless_log _).bind fun _ => (sendless_count _ _).bind fun _ => rest
  · exact (sendless_log _).bind fun _ => (sendless_count _ _).bind fun _ => rest

/-- The handler of every event owes nothing in the end. -/
theorem squares_handler (threshold : Nat) (job : Job) : (job.handler threshold).Squares none := by
  have sets := job.sets_handler threshold
  generalize job.handler threshold = x at sets
  cases sets with
  | skips _ => exact squares_after (sendless_count _ _) fun _ => rfl
  | fails _ _ => rfl
  | rejects _ => exact squares_rejectUpload _ _ _ _
  | admits _ _ =>
      apply squares_after (sendless_recentMarker? _ _)
      intro found
      cases found with
      | some marker => exact squares_ignoreUpload _ _ _
      | none => exact (sendless_storeUpload _ _ _ _ _ _).squares
  | deletes _ about =>
      rw [handleDelete_of_some _ _ about]
      refine squares_after sendless_now fun time => ?_
      refine squares_after (sendless_store _) fun _ => ?_
      refine squares_after (sendless_store _) fun rows => ?_
      exact (sendless_finishDelete _ _ _ _ _).squares

/-! ## Messages and requests -/

/-- Nothing is owed between two attempts or after the last one. -/
theorem squares_attemptMessage (delay : Nat) (about : Log.Context) (id : String) (lane : Lane)
    {work : Flow Outcome} (squares : work.Squares none) (further made : Nat) :
    (attemptMessage delay about id lane work further made).Squares none := by
  have abandons : ∀ made why, (abandonMessage about id lane made why).Squares none := fun _ _ =>
    squares_after (sendless_log _) fun _ => (sendless_count _ _).squares
  have pauses : (perform (.sleep delay)).Only Effect.IsSendless := only_perform rfl
  induction further generalizing made with
  | zero =>
      apply squares.attempt.bind
      intro result
      cases result with
      | ok outcome => exact (sendless_log _).squares
      | error why => exact abandons _ _
  | succ further ih =>
      apply squares.attempt.bind
      intro result
      cases result with
      | ok outcome => exact (sendless_log _).squares
      | error why =>
          dsimp only
          split
          · exact abandons _ _
          · exact squares_after (sendless_log _) fun _ => squares_after pauses fun _ => ih _

/-- The handler of every message owes nothing in the end. -/
theorem squares_handleMessage (settings : Settings) (message : Inbound) :
    (handleMessage settings message).Squares none := by
  have numbers : (perform (.next .messages)).Only Effect.IsSendless := only_perform rfl
  refine squares_after numbers fun serial => ?_
  dsimp only
  split
  · exact squares_after (sendless_log _) fun _ => (sendless_count _ _).squares
  next value _ =>
    refine squares_after (sendless_log _) fun _ => ?_
    exact squares_attemptMessage _ _ _ _
      (squares_handler settings.thresholdNanos (Job.ofMessage value)) _ _

theorem squares_sendRequested (batchSize : Nat) (targets : List Target) :
    (sendRequested batchSize targets).Squares none := by
  unfold sendRequested
  split
  · rfl
  · refine ⟨rfl, fun answer => ?_⟩
    cases answer with
    | ok sent => exact (sendless_log _).squares
    | error why => exact squares_failure _ .requests

/-- The work on every request owes nothing in the end. -/
theorem squares_processRequest (batchSize : Nat) (request : Request) :
    (processRequest batchSize request).Squares none := by
  cases request with
  | systems targets => exact squares_sendRequested batchSize targets
  | baseline account assigned =>
      apply squares_after (sendless_store _).attempt
      intro answer
      cases answer with
      | ok targets => exact squares_sendRequested batchSize targets
      | error why => exact (sendless_log _).squares

/-! ## Accounts -/

/-- Whatever the effect, what was owed before or is refused now is counted now or still owed. -/
theorem Effect.Honours.account {effect : Effect} {owed : Option Channel}
    (honours : effect.Honours owed) (w : World) (channel : Channel) :
    effect.countedSend?.toList.count channel +
        (Deed.owed owed ⟨effect, (World.happen effect w).2⟩).toList.count channel =
      (attemptsOn channel (w.callsIn effect)).countP (!·.taken) + owed.toList.count channel := by
  cases effect with
  | countFailedSend own =>
      have due : owed = some own := honours
      subst due
      exact Nat.add_comm _ _
  | sendAudit audit =>
      have square : owed = none := honours
      subst square
      have owes : ∀ answer : Except Fault Nat,
          (Deed.owed none ⟨.sendAudit audit, answer⟩).toList = countOf .audits answer.toBool := by
        intro answer
        cases answer <;> rfl
      exact (Nat.zero_add _).trans ((congrArg _ (owes _)).trans
        (refused_callOf w.audits channel .audits (auditTexts [audit] (w.clock w.readings))).symm)
  | sendTargets targets batchSize =>
      have square : owed = none := honours
      subst square
      have owes : ∀ answer : Except Fault Nat,
          (Deed.owed none ⟨.sendTargets targets batchSize, answer⟩).toList =
            countOf .requests answer.toBool := by
        intro answer
        cases answer <;> rfl
      exact (Nat.zero_add _).trans ((congrArg _ (owes _)).trans
        (refused_callOf w.requests channel .requests
          (requestTexts targets batchSize (w.clock w.readings))).symm)
  | _ => rfl

end FleetRoster
