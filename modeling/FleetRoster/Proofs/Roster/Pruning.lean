import FleetRoster.Proofs.Handler.Heed
import FleetRoster.Proofs.Roster.Deletion
import FleetRoster.Proofs.Store.Shedding

/-!
# Clearing markers away goes unnoticed

The same events are handled over a store that clears markers away and over one that keeps them all.
After every event both are the same but for markers that are gone from the first one. The guard
would look at such a marker, and find that it is not recent: a deletion clears away what is older
than the threshold by its own reading of the clock, and the clock does not go back.
-/

namespace FleetRoster

open Calendar (Instant IsSteady)
open FleetRoster.Flow

/-! ## Runs of events -/

/-- Whether the guard will look at the clock: an upload is taken in, the store answers, and there is
a marker. -/
def Job.looks (job : Job) (w : World) : Bool :=
  !w.outage w.calls && job.accepted?.any fun r => (w.store.marker? r.inventoryId).isSome

/-- The world in which an event is handled. The first reading of the clock is for the guard, and is
passed over where the guard does not look at it. So the other readings are the same whatever markers
there are. -/
def World.facing (w : World) (job : Job) : World :=
  { w with readings := w.readings + if job.looks w then 0 else 1 }

/-- Handles events one after another over a store that answers in a given way. Each event has its
world and its ending. -/
def runEvents (answering : Store.Answering) (threshold : Nat) :
    World → List Job → List (World × Ending Outcome)
  | _, [] => []
  | w, job :: jobs =>
      let after := (job.handler threshold).run (World.performBy answering) (w.facing job)
      after :: runEvents answering threshold after.1 jobs

/-- A marker is not recent by the last reading of the clock, nor by any later one. -/
def World.Outdated (threshold : Nat) (w : World) (m : Marker) : Prop :=
  ∀ n, w.readings ≤ n + 1 → m.isRecent (w.clock n) threshold = false

/-- After an event all is the same where markers are cleared away and where they are kept, but for
markers that are not recent any more. -/
structure Unnoticed (threshold : Nat) (cleared kept : World × Ending Outcome) : Prop where
  ending : kept.2 = cleared.2
  systems : kept.1.store.systems = cleared.1.store.systems
  accounts : kept.1.store.accounts = cleared.1.store.accounts
  remembered : kept.1.accounts = cleared.1.accounts
  buffer : kept.1.buffer = cleared.1.buffer
  topic : ∀ channel, kept.1.topic channel = cleared.1.topic channel
  tally : kept.1.tally = cleared.1.tally
  markers : ∀ inventoryId,
    kept.1.store.marker? inventoryId = cleared.1.store.marker? inventoryId ∨
      cleared.1.store.marker? inventoryId = none ∧
        ∃ m, kept.1.store.marker? inventoryId = some m ∧ cleared.1.Outdated threshold m

/-! ## Effects that do not look at the markers -/

/-- The same is refused and remembered on both sides, and the one store sheds markers that are gone.
-/
structure Backing.Sheds (gone : Marker → Prop) (b c : Backing) : Prop where
  refusals : c.refusals = b.refusals
  accounts : c.books.accounts = b.books.accounts
  store : b.books.store.Sheds gone c.books.store

theorem Backing.Sheds.mono {gone wider : Marker → Prop} {b c : Backing} (sheds : b.Sheds gone c)
    (imp : ∀ m, gone m → wider m) : b.Sheds wider c where
  refusals := sheds.refusals
  accounts := sheds.accounts
  store := sheds.store.mono imp

theorem Backing.lasts_sheds (gone : Marker → Prop) : Backing.Lasts (Backing.Sheds gone) where
  refusals := Sheds.refusals
  accounts := Sheds.accounts
  refused sheds := { sheds with
    refusals := by simp only [refused, sheds.refusals] }
  remembering sheds accounts := { sheds with accounts := rfl }

/-- An effect that neither asks for the markers nor touches them. -/
def Effect.IsBlind : Effect → Prop
  | .store call => call.IsBlind
  | _ => True

theorem Effect.IsBlind.isAlike {gone : Marker → Prop} {effect : Effect} (blind : effect.IsBlind) :
    effect.IsAlike Store.answer Store.answerKeeping (Backing.Sheds gone) := by
  cases effect with
  | store call =>
      intro b c sheds
      obtain ⟨same, store⟩ := sheds.store.blind blind
      exact ⟨same, Backing.refusals_served sheds.refusals, sheds.accounts, store⟩
  | _ => trivial

theorem blind_log (notice : Notice) : (Flow.log notice).Only Effect.IsBlind :=
  only_perform trivial

theorem blind_count (lane : Lane) (verdict : Verdict) :
    (Flow.count lane verdict).Only Effect.IsBlind :=
  only_perform trivial

theorem mayDismiss_isBlind (audit : Audit) : MayDismiss Effect.IsBlind audit where
  logs _ := trivial
  counts _ := trivial
  sends _ _ := trivial
  owes _ := trivial

theorem blind_rejectUpload (about : Log.Context) (audit : Audit) (verdict : Verdict) (why : Fault) :
    (rejectUpload about audit verdict why).Only Effect.IsBlind :=
  only_rejectUpload (mayDismiss_isBlind audit)

theorem blind_ignoreUpload (about : Log.Context) (audit : Audit) (marker : Marker) :
    (ignoreUpload about audit marker).Only Effect.IsBlind :=
  only_ignoreUpload (mayDismiss_isBlind audit)

theorem blind_storeUpload (about : Log.Context) (event : HostEvent) (host : Host)
    (inventoryId org : String) (audit : Audit) :
    (storeUpload about event host inventoryId org audit).Only Effect.IsBlind :=
  only_storeUpload {
    knows := trivial
    asks := trivial
    remembers := fun _ => trivial
    reads := trivial
    writes := fun _ => trivial
    queues := fun _ _ _ _ _ => trivial
    logs := fun _ => trivial
    counts := fun _ => trivial }

theorem blind_settleUpload (about : Log.Context) (event : HostEvent) (host : Host)
    (inventoryId org : String) (audit : Audit) (found : Option Marker) :
    (settleUpload about event host inventoryId org audit found).Only Effect.IsBlind := by
  cases found with
  | some marker => exact blind_ignoreUpload about audit marker
  | none => exact blind_storeUpload about event host inventoryId org audit

/-! ## Handlers over both stores -/

section

variable {α β : Type} {threshold : Nat} {gone : Marker → Prop} {job : Job} {u w v : World}

/-- A flow goes alike over a store that sheds markers and over one that keeps them. -/
abbrev Flow.Sheds (gone : Marker → Prop) (x : Flow α) (w v : World) : Prop :=
  Pairs Store.answer Store.answerKeeping x x w v fun _ w' v' =>
    w'.Matches True (Backing.Sheds gone) v'

theorem sheds_of_blind {x : Flow α} (blind : x.Only Effect.IsBlind)
    (matching : w.Matches True (Backing.Sheds gone) v) : x.Sheds gone w v :=
  pairs_of_alike (Backing.lasts_sheds gone) (blind.mono fun _ => Effect.IsBlind.isAlike) matching

theorem sheds_bind {x : Flow α} {f : α → Flow β} (first : x.Sheds gone w v)
    (rest : ∀ {a w' v'}, w'.Matches True (Backing.Sheds gone) v' → (f a).Sheds gone w' v') :
    (x >>= f).Sheds gone w v := by
  apply twins_bind
  apply first.mono
  intro ending w' v' matching
  cases ending with
  | done a => exact rest matching
  | failed why => exact matching
  | crashed => exact matching

/-- What was gone before is gone later. -/
theorem World.Outdated.of_ticks {m : Marker} (outdated : w.Outdated threshold m)
    (ticks : w.Ticks v) : v.Outdated threshold m := by
  intro n le
  rw [ticks.clock]
  exact outdated n (Nat.le_trans ticks.readings le)

theorem World.ticks_run (w : World) (x : Flow α) :
    w.Ticks (x.run (World.performBy Store.answer) w).1 := by
  rw [World.performBy_answer]
  exact (takes_runIn World.elapses_after x w).inAside.clock.1

/-- Afterwards all that is gone is outdated still. -/
theorem Flow.Sheds.settle {x : Flow α} (sheds : x.Sheds (u.Outdated threshold) w v)
    (ticks : u.Ticks w) :
    Pairs Store.answer Store.answerKeeping x x w v fun _ w' v' =>
      w'.Matches True (Backing.Sheds (w'.Outdated threshold)) v' := by
  obtain ⟨same, matching⟩ := sheds
  have goesOn := w.ticks_run x
  refine ⟨same, matching.relate (matching.backing.mono fun m outdated => ?_)⟩
  exact outdated.of_ticks (ticks.trans goesOn)

/-! ### Deletions -/

/-- Clearing away lets go of markers that are gone, in the one store. -/
theorem sheds_pruneMarkers (about : Log.Context) {limit : Instant}
    (old : ∀ m, m.deletedAt.IsOrdinary → m.deletedAt.before limit = true → gone m)
    (matching : w.Matches True (Backing.Sheds gone) v) :
    (pruneMarkers about limit).Sheds gone w v := by
  unfold pruneMarkers
  refine pairs_call matching (congrFun matching.backing.refusals 0) ?_ ?_
  · intro w' v' met
    exact sheds_of_blind (only_perform trivial)
      (met.of_are ((Backing.lasts_sheds gone).refused matching.backing))
  · intro w' v' _ met
    have cleared : w'.Matches True (Backing.Sheds gone) v' := by
      apply met.of_are
      exact ⟨Backing.refusals_served matching.backing.refusals, matching.backing.accounts,
        matching.backing.store.prune old⟩
    change Pairs _ _ (if (w.store.pruneMarkers limit).2 = 0 then pure () else _ : Flow Unit)
      (pure ()) w' v' _
    split
    · exact ⟨rfl, cleared⟩
    · exact ⟨rfl, cleared.noteLeft _⟩

theorem sheds_finishDelete (about : Log.Context) (inventoryId : String) {time : Instant}
    (rows : Nat) (old : ∀ limit, time.earlier? threshold = some limit → ∀ m : Marker,
      m.deletedAt.IsOrdinary → m.deletedAt.before limit = true → gone m)
    (matching : w.Matches True (Backing.Sheds gone) v) :
    (finishDelete threshold about inventoryId time rows).Sheds gone w v := by
  have rest : ∀ {w' v'}, w'.Matches True (Backing.Sheds gone) v' →
      (clearOutdated threshold about time rows).Sheds gone w' v' := by
    intro w' v' met
    unfold clearOutdated
    split
    next => exact ⟨rfl, met⟩
    next limit back =>
      exact sheds_bind (sheds_pruneMarkers about (old limit back) met) fun met => ⟨rfl, met⟩
  unfold finishDelete
  dsimp only
  split
  · apply sheds_bind (sheds_of_blind (blind_log _) matching)
    intro _ _ _ met
    exact sheds_bind (sheds_of_blind (blind_count _ _) met) rest
  · apply sheds_bind (sheds_of_blind (blind_log _) matching)
    intro _ _ _ met
    exact sheds_bind (sheds_of_blind (blind_count _ _) met) rest

/-- What a deletion clears away is outdated from its reading of the clock on. -/
theorem sheds_handleDelete (about : Log.Context) {event : HostEvent} {inventoryId : String}
    (named : event.inventoryId = some inventoryId) (steady : IsSteady w.clock)
    (matching : w.Matches True (Backing.Sheds (w.Outdated threshold)) v) :
    Pairs Store.answer Store.answerKeeping (handleDelete threshold about event)
      (handleDelete threshold about event) w v fun _ w' v' =>
        w'.Matches True (Backing.Sheds (w'.Outdated threshold)) v' := by
  obtain ⟨same, read⟩ := matching.readClock
  have ticks : w.Ticks w.readClock.1 := ⟨rfl, Nat.le_succ _⟩
  have ordinary := steady.ordinary w.readings
  have old : ∀ limit, (w.clock w.readings).earlier? threshold = some limit → ∀ m : Marker,
      m.deletedAt.IsOrdinary → m.deletedAt.before limit = true →
        w.readClock.1.Outdated threshold m := by
    intro limit back m ordinaryMarker before n le
    exact Marker.isRecent_of_before ordinaryMarker ordinary (steady.ordinary n) back
      (steady.nanos_le (Nat.le_of_succ_le_succ le)) before
  have start : w.readClock.1.Matches True
      (Backing.Sheds (w.readClock.1.Outdated threshold)) v.readClock.1 :=
    read.relate (read.backing.mono fun m outdated => outdated.of_ticks ticks)
  rw [handleDelete_of_some threshold about named]
  refine twins_ask same (Flow.Sheds.settle ?_ (.refl w.readClock.1))
  refine pairs_call start (congrFun start.backing.refusals 0) ?_ ?_
  · intro w' v' met
    exact ⟨rfl, met.of_are ((Backing.lasts_sheds _).refused start.backing)⟩
  · intro w' v' _ met
    have marked : w'.Matches True (Backing.Sheds (w.readClock.1.Outdated threshold)) v' := by
      apply met.of_are
      exact ⟨Backing.refusals_served start.backing.refusals, start.backing.accounts,
        start.backing.store.mark inventoryId ordinary⟩
    have stales : (Effect.store (.markStale inventoryId (w.clock w.readings))).IsBlind := trivial
    apply sheds_bind (sheds_of_blind (only_store stales) marked)
    intro rows _ _ met
    exact sheds_finishDelete about inventoryId rows old met

/-! ### Uploads -/

theorem World.Matches.facing {timely : Prop} {related : Backing → Backing → Prop}
    (matching : w.Matches timely related v) (same : job.looks v = job.looks w) :
    (w.facing job).Matches timely related (v.facing job) :=
  { matching with
    clock := by
      intro n
      simp only [World.facing, same, Nat.add_assoc]
      exact matching.clock _ }

theorem World.facing_of_looks (looks : job.looks w = true) : w.facing job = w := by
  rw [facing, looks, if_pos rfl]
  rfl

theorem World.facing_of_not_looks (passes : job.looks w = false) :
    w.facing job = w.readClock.1 := by
  rw [facing, passes, if_neg Bool.false_ne_true]
  rfl

theorem World.ticks_facing (w : World) (job : Job) : w.Ticks (w.facing job) :=
  ⟨rfl, Nat.le_add_right _ _⟩

theorem Job.looks_of_idle (w : World) (unaccepted : job.accepted? = none) :
    job.looks w = false := by
  rw [looks, unaccepted, Option.any_none, Bool.and_false]

/-- With the same marker on both sides, or none, an upload goes alike. -/
theorem sheds_admitUpload_of_same (about : Log.Context) {event : HostEvent} {host : Host}
    {inventoryId org : String} {audit : Audit}
    (found : v.store.marker? inventoryId = w.store.marker? inventoryId)
    (matching : w.Matches True (Backing.Sheds gone) v) :
    (admitUpload threshold about event host inventoryId org audit).Sheds gone w v := by
  unfold admitUpload recentMarker?
  rw [bind_assoc]
  refine pairs_call matching (congrFun matching.backing.refusals 0) ?_ ?_
  · intro w' v' met
    exact ⟨rfl, met.of_are ((Backing.lasts_sheds gone).refused matching.backing)⟩
  · intro w' v' _ met
    have looked : w'.Matches True (Backing.Sheds gone) v' := by
      apply met.of_are
      exact ⟨Backing.refusals_served matching.backing.refusals, matching.backing.accounts,
        matching.backing.store⟩
    have same : (v.store.answerKeeping (.getDeleted inventoryId)).2 =
        (w.store.answer (.getDeleted inventoryId)).2 := found
    rw [same]
    cases (w.store.answer (.getDeleted inventoryId)).2 with
    | none => exact sheds_of_blind (blind_storeUpload _ _ _ _ _ _) looked
    | some marker =>
        have reads : Effect.now.IsPlain := trivial
        refine pairs_plain looked reads ?_
        intro w'' v'' met
        apply sheds_of_blind _ met
        exact blind_settleUpload _ _ _ _ _ _ _

/-- The guard fails where the store does not answer. -/
theorem run_recentMarker?_of_refused {answering : Store.Answering} {inventoryId : String}
    (refused : w.backing.refusals 0 = true) :
    (recentMarker? threshold inventoryId).run (World.performBy answering) w =
      ({ w.after (pauseLength w.latency) with calls := w.calls + 1 },
        .failed (Store.Call.getDeleted inventoryId).refusal) :=
  run_call_of_refused refused

/-- Where there is no marker, the guard does not look at the clock. -/
theorem run_recentMarker?_of_none {inventoryId : String}
    (answered : w.backing.refusals 0 = false) (absent : w.store.marker? inventoryId = none) :
    (recentMarker? threshold inventoryId).run (World.performBy Store.answer) w =
      ({ w.after (pauseLength w.latency) with calls := w.calls + 1 }, .done none) := by
  have same : (w.store.answer (.getDeleted inventoryId)).2 = none := absent
  refine (run_call_of_answered answered).trans ?_
  rw [same]
  rfl

/-- Where there is a marker, the guard does, and lets pass what is not recent. -/
theorem run_recentMarker?_of_old {inventoryId : String} {m : Marker}
    (answered : w.backing.refusals 0 = false) (found : w.store.marker? inventoryId = some m)
    (old : m.isRecent (w.clock w.readings) threshold = false) :
    (recentMarker? threshold inventoryId).run (World.performBy Store.answerKeeping) w =
      (({ w.after (pauseLength w.latency) with calls := w.calls + 1 } : World).readClock.1,
        .done none) := by
  have same : (w.store.answerKeeping (.getDeleted inventoryId)).2 = some m := found
  refine (run_call_of_answered answered).trans ?_
  rw [same]
  change (_, Ending.done (if m.isRecent (w.clock w.readings) threshold then some m else none)) = _
  rw [old]
  rfl

/-- An upload of a host whose marker is gone goes as if there were one, which is not recent. -/
theorem sheds_admitUpload_of_gone {event : HostEvent} {host : Host} {inventoryId org : String}
    {audit : Audit} {m : Marker}
    (accepted : job.accepted? = some ⟨host, inventoryId, org, event.requestId⟩)
    (absent : w.store.marker? inventoryId = none) (found : v.store.marker? inventoryId = some m)
    (old : m.isRecent (w.clock w.readings) threshold = false)
    (matching : w.Matches True (Backing.Sheds gone) v) :
    (admitUpload threshold job.about event host inventoryId org audit).Sheds gone
      (w.facing job) (v.facing job) := by
  have refusals : v.backing.refusals 0 = w.backing.refusals 0 :=
    congrFun matching.backing.refusals 0
  have passes : job.looks w = false := by
    simp only [Job.looks, accepted, Option.any_some, absent, Option.isSome_none, Bool.and_false]
  apply twins_bind
  unfold Twins
  cases refusal : w.backing.refusals 0 with
  | true =>
      have out : v.outage v.calls = true := refusals.trans refusal
      have alsoPasses : job.looks v = false := by
        simp only [Job.looks, out, Bool.not_true, Bool.false_and]
      have refused := (matching.facing (alsoPasses.trans passes.symm)).pause
        (.store (.getDeleted inventoryId))
      have left : (recentMarker? threshold inventoryId).run (World.performBy Store.answer)
          (w.facing job) = _ := run_recentMarker?_of_refused refusal
      have right : (recentMarker? threshold inventoryId).run (World.performBy Store.answerKeeping)
          (v.facing job) = _ := run_recentMarker?_of_refused out
      rw [left, right]
      exact ⟨rfl, refused.refused ((Backing.lasts_sheds gone).refused matching.backing)⟩
  | false =>
      have up : v.outage v.calls = false := refusals.trans refusal
      have looks : job.looks v = true := by
        simp only [Job.looks, accepted, Option.any_some, found, up, Option.isSome_some,
          Bool.not_false, Bool.and_true]
      rw [World.facing_of_not_looks passes, World.facing_of_looks looks]
      have left : (recentMarker? threshold inventoryId).run (World.performBy Store.answer)
          w.readClock.1 = _ := run_recentMarker?_of_none refusal absent
      have shown : v.clock v.readings = w.clock w.readings := matching.clock 0
      have right := run_recentMarker?_of_old up found (shown ▸ old)
      rw [left, right]
      refine ⟨rfl, sheds_of_blind (blind_storeUpload _ _ _ _ _ _) ?_⟩
      have paused := matching.pause (.store (.getDeleted inventoryId))
      have served : Backing.Sheds gone (w.backing.served Store.answer (.getDeleted inventoryId))
          (v.backing.served Store.answerKeeping (.getDeleted inventoryId)) :=
        ⟨Backing.refusals_served matching.backing.refusals, matching.backing.accounts,
          matching.backing.store⟩
      exact (paused.served served).readClock.2

theorem sheds_admitUpload {event : HostEvent} {host : Host} {inventoryId org : String}
    {audit : Audit}
    (accepted : job.accepted? = some ⟨host, inventoryId, org, event.requestId⟩)
    (matching : w.Matches True (Backing.Sheds (w.Outdated threshold)) v) :
    (admitUpload threshold job.about event host inventoryId org audit).Sheds (w.Outdated threshold)
      (w.facing job) (v.facing job) := by
  rcases matching.backing.store.markers inventoryId with same | ⟨absent, m, found, outdated⟩
  · have looks : job.looks v = job.looks w := by
      have out : v.outage v.calls = w.outage w.calls := congrFun matching.backing.refusals 0
      have found : v.store.marker? inventoryId = w.store.marker? inventoryId := same
      simp only [Job.looks, accepted, Option.any_some, out, found]
    exact sheds_admitUpload_of_same job.about same (matching.facing looks)
  · exact sheds_admitUpload_of_gone accepted absent found (outdated w.readings (Nat.le_succ _))
      matching

/-! ### Events -/

/-- One event goes alike over both stores. -/
theorem sheds_handler (job : Job) (steady : IsSteady w.clock)
    (matching : w.Matches True (Backing.Sheds (w.Outdated threshold)) v) :
    Pairs Store.answer Store.answerKeeping (job.handler threshold) (job.handler threshold)
      (w.facing job) (v.facing job) fun _ w' v' =>
        w'.Matches True (Backing.Sheds (w'.Outdated threshold)) v' := by
  have ticks := w.ticks_facing job
  have passing : job.accepted? = none → (w.facing job).Matches True
      (Backing.Sheds (w.Outdated threshold)) (v.facing job) := by
    intro unaccepted
    apply matching.facing
    rw [job.looks_of_idle w unaccepted, job.looks_of_idle v unaccepted]
  have sets := job.sets_handler threshold
  generalize job.handler threshold = x at sets ⊢
  cases sets with
  | skips idle =>
      refine Flow.Sheds.settle ?_ ticks
      exact sheds_bind (sheds_of_blind (blind_count _ _) (passing idle.notAccepted))
        fun met => ⟨rfl, met⟩
  | fails idle _ => exact Flow.Sheds.settle ⟨rfl, passing idle.notAccepted⟩ ticks
  | rejects idle =>
      exact (sheds_of_blind (blind_rejectUpload _ _ _ _) (passing idle.notAccepted)).settle ticks
  | admits accepted _ => exact (sheds_admitUpload accepted matching).settle ticks
  | deletes deletion named =>
      have met := passing (Job.accepted?_of_deletion? deletion)
      have sameClock : IsSteady (w.facing job).clock := steady
      apply sheds_handleDelete _ named sameClock
      exact met.relate (met.backing.mono fun m outdated => outdated.of_ticks ticks)

end

/-! ## All events -/

/-- A buffer is what it is without its deadline, and its deadline. -/
theorem World.Agrees.buffer_eq {related : Backing → Backing → Prop} {w v : World}
    (agrees : w.Agrees True related v) : v.buffer = w.buffer := by
  obtain ⟨_, _, deadline⟩ := agrees.timing trivial
  have undated := agrees.buffer
  generalize v.buffer = b at deadline undated ⊢
  generalize w.buffer = c at deadline undated ⊢
  cases b
  cases c
  simp only [Buffer.undated, Buffer.mk.injEq] at deadline undated ⊢
  simp only [undated, deadline, and_self]

theorem Unnoticed.of_matches {threshold : Nat} {cleared kept : World × Ending Outcome}
    (same : kept.2 = cleared.2)
    (matching : cleared.1.Matches True (Backing.Sheds (cleared.1.Outdated threshold)) kept.1) :
    Unnoticed threshold cleared kept where
  ending := same
  systems := matching.backing.store.systems
  accounts := matching.backing.store.accounts
  remembered := matching.backing.accounts
  buffer := matching.buffer_eq
  topic := matching.topic
  tally := matching.tally
  markers := matching.backing.store.markers

/-- From worlds that match, events go alike one after another. -/
theorem unnoticed_of_matches {threshold : Nat} {w v : World} (jobs : List Job)
    (steady : IsSteady w.clock)
    (matching : w.Matches True (Backing.Sheds (w.Outdated threshold)) v) :
    List.Forall₂ (Unnoticed threshold) (runEvents Store.answer threshold w jobs)
      (runEvents Store.answerKeeping threshold v jobs) := by
  induction jobs generalizing w v with
  | nil => exact .nil
  | cons job jobs ih =>
      obtain ⟨same, met⟩ := sheds_handler job steady matching
      have sameClock := ((w.facing job).ticks_run (job.handler threshold)).clock
      exact .cons (.of_matches same met) (ih (sameClock ▸ steady) met)

/-- By a clock that does not go back, and whatever is refused, events go alike over a store that
clears markers away and over one that keeps them all. -/
theorem pruning_unnoticed {threshold : Nat} {start : World} (steady : IsSteady start.clock)
    (sound : start.store.IsSound) (ordinary : ∀ m ∈ start.store.markers, m.deletedAt.IsOrdinary)
    (jobs : List Job) :
    List.Forall₂ (Unnoticed threshold) (runEvents Store.answer threshold start jobs)
      (runEvents Store.answerKeeping threshold start jobs) := by
  apply unnoticed_of_matches jobs steady
  exact (World.Matches.refl start).relate ⟨rfl, rfl, .refl sound ordinary⟩


namespace Sample

/-- The deletion of another host. -/
def otherDeletion : Job where
  about := ⟨"delete", none⟩
  kind := .delete
  message := .object [("id", .string "g")]

/-- A host is deleted, then another one, and then the first one is uploaded. -/
def deletions : List Job :=
  [deletion, otherDeletion, upload]

/-- A threshold of one second. -/
def short : Nat := Calendar.nanosPerSecond

end Sample

/-- The marker of the first host is cleared away by the second deletion, and its upload is taken in
all the same. -/
theorem pruning_unnoticed_sample :
    (runEvents Store.answer Sample.short Sample.world Sample.deletions).map
        (fun after => after.1.store.markers.map (·.inventoryId)) = [["h"], ["g"], ["g"]] ∧
      (runEvents Store.answerKeeping Sample.short Sample.world Sample.deletions).map
        (fun after => after.1.store.markers.map (·.inventoryId)) =
          [["h"], ["h", "g"], ["h", "g"]] ∧
      (runEvents Store.answer Sample.short Sample.world Sample.deletions).map (·.2) =
        [.done (.deleted 0), .done (.deleted 0), .done (.evaluated 1)] ∧
      List.Forall₂ (Unnoticed Sample.short)
        (runEvents Store.answer Sample.short Sample.world Sample.deletions)
        (runEvents Store.answerKeeping Sample.short Sample.world Sample.deletions) :=
  ⟨rfl, rfl, rfl, pruning_unnoticed Sample.steady Store.isSound_empty
    (fun _ mem => absurd mem List.not_mem_nil) Sample.deletions⟩

end FleetRoster
