import Mathlib.Logic.Function.Iterate
import FleetRoster.Proofs.Consumer.Regular

/-!
# What the consumer promises

Whatever the consumer and its timer do by the clock is a number of steps. Left to itself the consumer
reads whatever was fed and then waits, or it ends; told to stop, it ends. Wherever it has come, each
message that was read was handled and then committed, once and in the order of the feed.
-/

namespace FleetRoster.Service

variable {s s' : Service}

/-! ## The consumer by the clock -/

/-- Going on with a message, up to the next pause, is a number of steps. -/
theorem reaches_proceed {flow : Flow Unit} {due : Option Nat} {offset : Int} {h : Handling}
    (phase : s.consumer.phase = .handling offset ⟨flow, due⟩) (current : s.current = some h)
    (paused : Bool) :
    ∃ s' : Service, s.Reaches s' ∧ s'.world = (Task.proceed paused flow s.world).1 ∧
      s'.consumer = s.consumer.enter (.after offset (Task.proceed paused flow s.world).2) := by
  induction flow generalizing s due h paused with
  | stop ending =>
      exact ⟨s.finish h offset ending, .single (.turn (.finish phase current)), rfl, rfl⟩
  | ask effect next ih =>
      rw [Task.proceed]
      by_cases goes : paused || effect.pause s.world.latency = 0
      · obtain ⟨s', reaches, world, consumer⟩ :=
          ih _ (s := s.act h offset effect next) rfl rfl false
        simp only [if_pos goes]
        exact ⟨s', .head (.turn (.act phase current)) reaches, world, consumer⟩
      · simp only [if_neg goes]
        exact ⟨_, .single (.pause phase _), rfl, rfl⟩

/-- Whatever the consumer does next, by the clock, is a number of steps. -/
theorem reaches_move {settings : Settings} {begin : World} {c : Consumer} {w : World}
    (regular : Regular settings begin s) (moves : s.consumer.move? s.world = some (c, w)) :
    ∃ s' : Service, s.Reaches s' ∧ s'.consumer = c ∧ s'.world = w := by
  cases phase : s.consumer.phase with
  | checking =>
      rw [Consumer.move?, phase] at moves
      cases moves
      refine ⟨s.look, .single (.turn (.look phase)), ?_⟩
      rw [look]
      split <;> exact ⟨rfl, rfl⟩
  | reading deadline =>
      rw [Consumer.move?, phase] at moves
      exact ⟨_, .single (.turn (.hear phase moves)), rfl, rfl⟩
  | handling offset work =>
      rcases work with ⟨flow, due⟩
      obtain ⟨h, current, _⟩ := regular.within phase
      obtain ⟨s', reaches, world, consumer⟩ := reaches_proceed phase current due.isSome
      rw [Consumer.move?, phase] at moves
      cases ready : Task.isReady ⟨flow, due⟩ s.world with
      | false => simp [ready] at moves
      | true =>
          have advance : Task.advance ⟨flow, due⟩ s.world =
              Task.proceed due.isSome flow s.world := if_pos ready
          simp only [ready, if_true, Consumer.handle_eq, advance] at moves
          cases moves
          exact ⟨s', reaches, consumer, world⟩
  | committing offset =>
      rw [Consumer.move?, phase] at moves
      have same := Option.some.inj moves
      exact ⟨_, .single (.turn (.commit phase)), congrArg Prod.fst same, congrArg Prod.snd same⟩
  | closing result =>
      rw [Consumer.move?, phase] at moves
      have same := Option.some.inj moves
      exact ⟨_, .single (.turn (.close phase)), congrArg Prod.fst same, congrArg Prod.snd same⟩
  | finished result => simp [Consumer.move?, phase] at moves
  | crashed => simp [Consumer.move?, phase] at moves

/-- Whatever the timer does next, by the clock, is a step. -/
theorem reaches_timerMove {c : Consumer} {w : World}
    (moves : s.consumer.timerMove? s.world = some (c, w)) :
    s.Reaches { s with consumer := c, world := w } := by
  cases running : s.consumer.timer with
  | none => simp [Consumer.timerMove?, running] at moves
  | some timer =>
      simp only [Consumer.timerMove?, running, Option.map_eq_some_iff] at moves
      obtain ⟨⟨next, w'⟩, first, same⟩ := moves
      cases same
      exact .single (.timer running (List.mem_of_mem_head? first))

/-! ## The consumer on its own -/

/-- What the consumer does next, if it has something to do. -/
def goOn (s : Service) : Service :=
  match s.consumer.phase, s.current with
  | .checking, _ => s.look
  | .reading deadline, _ =>
    match s.consumer.read? s.world deadline with
    | some (c, w) => s.hear c w s.consumer.heard
    | none => s
  | .handling offset ⟨.ask effect next, _⟩, some h => s.act h offset effect next
  | .handling offset ⟨.stop ending, _⟩, some h => s.finish h offset ending
  | .handling _ _, none => s
  | .committing offset, _ => s.commit offset
  | .closing result, _ => s.close result
  | .finished _, _ => s
  | .crashed, _ => s

/-- The consumer has ended, or waits with nothing left to read while more may come and nobody tells it
to stop. -/
inductive IsAtRest (s : Service) : Prop
  | finished {result : Except Fault Unit} (phase : s.consumer.phase = .finished result)
  | waiting {deadline : Nat} (phase : s.consumer.phase = .reading deadline)
      (undisturbed : s.consumer.IsUndisturbed) (allRead : s.consumer.reader.arrivals = [])
      (feedOpen : s.consumer.reader.feedOpen)

/-- Left to itself the consumer comes to rest. -/
def Rests (s : Service) : Prop :=
  ∃ n, (goOn^[n] s).IsAtRest

theorem reaches_goOn (s : Service) : s.Reaches s.goOn := by
  unfold goOn
  split
  next phase => exact .single (.turn (.look phase))
  next phase =>
    split
    next reads => exact .single (.turn (.hear phase reads))
    next => exact .refl
  next phase current => exact .single (.turn (.act phase current))
  next phase current => exact .single (.turn (.finish phase current))
  next => exact .refl
  next phase => exact .single (.turn (.commit phase))
  next phase => exact .single (.turn (.close phase))
  next => exact .refl
  next => exact .refl

theorem reaches_iterate (s : Service) (n : Nat) : s.Reaches (goOn^[n] s) := by
  induction n with
  | zero => exact .refl
  | succ n ih =>
      rw [Function.iterate_succ_apply']
      exact ih.trans (reaches_goOn _)

/-- The consumer does not change what the signal says. -/
theorem keeps_goOn (s : Service) : s.goOn.consumer.signal.value = s.consumer.signal.value ∧
    s.goOn.consumer.signal.isDropped = s.consumer.signal.isDropped := by
  unfold goOn
  split
  next =>
    rw [look]
    split <;> exact ⟨rfl, rfl⟩
  next =>
    split
    next reads => exact (Consumer.reads_of_read? reads).keeps
    next => exact ⟨rfl, rfl⟩
  next => exact ⟨rfl, rfl⟩
  next => exact ⟨rfl, rfl⟩
  next => exact ⟨rfl, rfl⟩
  next =>
    rw [commit, Consumer.commit]
    split <;> exact ⟨rfl, rfl⟩
  next => exact ⟨rfl, rfl⟩
  next => exact ⟨rfl, rfl⟩
  next => exact ⟨rfl, rfl⟩

theorem keeps_iterate (s : Service) (n : Nat) :
    (goOn^[n] s).consumer.signal.value = s.consumer.signal.value ∧
      (goOn^[n] s).consumer.signal.isDropped = s.consumer.signal.isDropped := by
  induction n with
  | zero => exact ⟨rfl, rfl⟩
  | succ n ih =>
      rw [Function.iterate_succ_apply']
      exact ⟨(keeps_goOn _).1.trans ih.1, (keeps_goOn _).2.trans ih.2⟩

theorem Rests.next (next : s.goOn = s') (rests : s'.Rests) : s.Rests := by
  obtain ⟨n, atRest⟩ := rests
  refine ⟨n + 1, ?_⟩
  rwa [Function.iterate_succ_apply, next]

/-- What is left to read, and whether the signal is still to be noticed. -/
def pending (s : Service) : Nat :=
  s.consumer.reader.arrivals.length + s.consumer.signal.isNew.toNat

section

variable {settings : Settings} {begin : World}

theorem rests_closing {result : Except Fault Unit} (phase : s.consumer.phase = .closing result) :
    s.Rests := by
  have next : s.goOn = s.close result := by rw [goOn, phase]
  exact .next next ⟨0, .finished rfl⟩

/-- A message that is handled is to be committed some time. -/
theorem rests_handling (safe : IsSafe begin.clock settings.thresholdNanos) {flow : Flow Unit}
    {due : Option Nat} {offset : Int} {h : Handling} (regular : Regular settings begin s)
    (phase : s.consumer.phase = .handling offset ⟨flow, due⟩) (current : s.current = some h)
    (rest : ∀ s' : Service, Regular settings begin s' → s'.consumer.phase = .committing offset →
      s'.pending = s.pending → s'.Rests) : s.Rests := by
  induction flow generalizing s due h with
  | stop ending =>
      have next : s.goOn = s.finish h offset ending := by rw [goOn, phase, current]
      have finished := regular.finish safe phase current
      apply Rests.next next
      apply rest _ finished _ rfl
      cases ending with
      | crashed => exact absurd rfl finished.follows.not_crashed
      | _ => rfl
  | ask effect following ih =>
      have next : s.goOn = s.act h offset effect following := by rw [goOn, phase, current]
      apply Rests.next next
      exact ih _ (regular.act phase current) rfl rfl rest

theorem rests_committing {offset : Int} (regular : Regular settings begin s)
    (phase : s.consumer.phase = .committing offset)
    (rest : ∀ s' : Service, Regular settings begin s' → s'.consumer.phase = .checking →
      s'.pending = s.pending → s'.Rests) : s.Rests := by
  have next : s.goOn = s.commit offset := by rw [goOn, phase]
  apply Rests.next next
  apply rest _ (regular.commit phase)
  · rw [commit, Consumer.commit]
    split <;> rfl
  · rw [commit, Consumer.commit, pending]
    split <;> rfl

theorem rests_reading (safe : IsSafe begin.clock settings.thresholdNanos) {deadline : Nat}
    (regular : Regular settings begin s) (phase : s.consumer.phase = .reading deadline)
    (fewer : ∀ s' : Service, Regular settings begin s' → s'.consumer.phase = .checking →
      s'.pending < s.pending → s'.Rests) : s.Rests := by
  cases reads : s.consumer.read? s.world deadline with
  | none =>
      obtain ⟨undisturbed, allRead, feedOpen⟩ := Consumer.waits_of_read? reads
      exact ⟨0, .waiting phase undisturbed allRead feedOpen⟩
  | some result =>
      rcases result with ⟨c, w⟩
      have next : s.goOn = s.hear c w s.consumer.heard := by rw [goOn, phase]; simp only [reads]
      have heard := regular.hear phase (Consumer.reads_of_read? reads)
      have inversion := Consumer.reads_of_read? reads
      generalize s.consumer.heard = i at next heard inversion
      cases inversion with
      | stop seen => exact .next next (rests_closing rfl)
      | stir isNew stays =>
          apply Rests.next next
          apply fewer _ heard rfl
          simp [pending, hear, record, Consumer.noticing, Consumer.enter, isNew]
      | @message m rest undisturbed arrivals =>
          apply Rests.next next
          apply rests_handling safe heard rfl rfl
          intro s₁ regular₁ committing same₁
          apply rests_committing regular₁ committing
          intro s₂ regular₂ checking same₂
          apply fewer s₂ regular₂ checking
          rw [same₂, same₁]
          simp [pending, hear, record, Consumer.reading, Consumer.enter, arrivals]
      | failure undisturbed arrivals => exact .next next (rests_closing rfl)
      | ended undisturbed arrivals feedClosed => exact .next next (rests_closing rfl)
      | timeOut undisturbed arrivals feedOpen passed =>
          exact ⟨0, .waiting phase undisturbed arrivals feedOpen⟩

theorem rests_checking (safe : IsSafe begin.clock settings.thresholdNanos)
    (regular : Regular settings begin s) (phase : s.consumer.phase = .checking) : s.Rests := by
  induction left : s.pending using Nat.strongRecOn generalizing s with
  | ind k ih =>
      have next : s.goOn = s.look := by rw [goOn, phase]
      have looked := regular.look phase
      cases value : s.consumer.signal.value with
      | true =>
          rw [look_of_stop value] at next
          exact .next next (rests_closing rfl)
      | false =>
          rw [look_of_go value] at next looked
          apply Rests.next next
          apply rests_reading safe looked rfl
          intro s' regular' checking fewer
          exact ih _ (left ▸ fewer) regular' checking rfl

/-- Left to itself the consumer comes to rest wherever it is. -/
theorem rests (safe : IsSafe begin.clock settings.thresholdNanos)
    (regular : Regular settings begin s) : s.Rests := by
  have commits : ∀ {offset : Int} {s' : Service}, Regular settings begin s' →
      s'.consumer.phase = .committing offset → s'.Rests := by
    intro offset s' regular' committing
    apply rests_committing regular' committing
    exact fun _ regular checking _ => rests_checking safe regular checking
  cases phase : s.consumer.phase with
  | checking => exact rests_checking safe regular phase
  | reading deadline =>
      exact rests_reading safe regular phase fun _ regular checking _ =>
        rests_checking safe regular checking
  | handling offset work =>
      obtain ⟨h, current, _⟩ := regular.within phase
      exact rests_handling safe regular phase current fun _ regular committing _ =>
        commits regular committing
  | committing offset => exact commits regular phase
  | closing result => exact rests_closing phase
  | finished result => exact ⟨0, .finished phase⟩
  | crashed => exact absurd phase regular.follows.not_crashed

/-- Told to stop, or with nobody left to tell it, the consumer ends. -/
theorem stops (safe : IsSafe begin.clock settings.thresholdNanos) (regular : Regular settings begin s)
    (told : s.consumer.signal.value ∨ s.consumer.signal.isDropped) :
    ∃ n result, (goOn^[n] s).consumer.phase = .finished result := by
  obtain ⟨n, atRest⟩ := rests safe regular
  have met := regular.reaches safe (reaches_iterate s n)
  obtain ⟨value, isDropped⟩ := keeps_iterate s n
  cases atRest with
  | finished phase => exact ⟨n, _, phase⟩
  | waiting phase undisturbed allRead feedOpen =>
      -- a consumer that waits knows of no reason to stop
      have minds := met.minds
      rw [phase] at minds
      have stays := minds undisturbed.1
      rw [value] at stays
      have given := undisturbed.2
      rw [isDropped] at given
      simp [stays, given] at told

/-! ## What the consumer promises -/

/-- What can be said of the consumer at any moment. -/
structure Conforms (settings : Settings) (s : Service) : Prop where
  /-- Up to now the loop has gone through rounds; each message in them was read, handled, committed. -/
  rounds : Follows s.consumer.phase s.current s.incidents
  /-- Nothing that was fed is lost, overtaken or read twice. -/
  feed : s.fed = arrivalsOf s.incidents ++ s.consumer.reader.arrivals
  numbered : IsNumbered s.fed
  /-- What was read was handled, each message once and in its order, up to the one in hand. -/
  handled : messagesOf (arrivalsOf s.incidents) =
    s.history.map (·.event) ++ (s.current.map (·.message)).toList
  /-- Each message was handled to the end. -/
  done : ∀ e ∈ s.history, e.ending = .done () ∧
    (handleMessage settings e.event).Takes World.SameClock e.before e.deeds e.after e.ending
  /-- What was handled was to be committed, each offset once, up to the one in hand. -/
  offered : s.history.map (·.event.offset) =
    offeredOf s.incidents ++ s.consumer.phase.offered?.toList
  /-- They are zero, one, two and so on. -/
  offsets : offeredOf s.incidents = (List.range (offeredOf s.incidents).length).map Int.ofNat
  /-- What was committed is what was to be, apart from what was refused. -/
  committed : s.consumer.reader.committed = acceptedOf s.incidents
  /-- Nothing is read while the signal says to stop or is dropped, and only these stop the loop. -/
  heeds : ∀ i ∈ s.incidents, i.Heeds
  /-- The result is that with which the loop has ended. -/
  result : s.incidents.filterMap (·.result?) = s.consumer.phase.result?.toList
  /-- The reader is closed once, at the end, and then the timer does not run. -/
  closings : s.incidents.countP (·.isClosing) = s.consumer.phase.isFinished.toNat
  closed : s.consumer.reader.isClosed = s.consumer.phase.isFinished
  timer : s.consumer.timer.isNone = s.consumer.phase.isFinished
  /-- Left to itself it reads whatever was fed and then waits, or it ends. -/
  rests : s.Rests
  /-- Told to stop, or with nobody left to tell it, it ends. -/
  stops : s.consumer.signal.value ∨ s.consumer.signal.isDropped →
    ∃ n result, (goOn^[n] s).consumer.phase = .finished result

/-- The offsets that were to be committed are the first ones of those that were fed. -/
theorem Regular.offsets (regular : Regular settings begin s) :
    offeredOf s.incidents = (List.range (offeredOf s.incidents).length).map Int.ofNat := by
  have yields := regular.follows.yields
  have numbered := regular.numbered
  rw [IsNumbered, regular.ledger.feed, messagesOf, List.filterMap_append, List.map_append,
    ← messagesOf, yields.handled, List.map_append, yields.offered, List.append_assoc,
    List.append_assoc] at numbered
  exact eq_range_of_append numbered

theorem Regular.handled (regular : Regular settings begin s) : ∃ met,
    Handled (handleMessage settings) World.SameClock begin s.history met := by
  have progress := regular.progress
  generalize s.consumer.phase = phase, s.current = current at progress
  cases progress with
  | between others handled => exact ⟨_, handled⟩
  | within handled comes => exact ⟨_, handled⟩

/-- Each message was handled to its end. -/
theorem Regular.done (regular : Regular settings begin s)
    (safe : IsSafe begin.clock settings.thresholdNanos) :
    ∀ e ∈ s.history, e.ending = .done () ∧
      (handleMessage settings e.event).Takes World.SameClock e.before e.deeds e.after e.ending := by
  intro e mem
  obtain ⟨met, handled⟩ := regular.handled
  obtain ⟨earlier, later, cut⟩ := List.append_of_mem mem
  obtain ⟨before, takes, -⟩ := (cut ▸ handled).cut
  obtain ⟨verdict, isCounted⟩ := Entry.isCounted_of_takes id (before.sameClock ▸ safe) takes
  exact ⟨isCounted.ends, takes⟩

/-- Wherever a consumer has come, whatever was fed to it, refused and signalled, and whatever else went
on, it has kept to its protocol, as long as the threshold can be taken from what the clock shows. -/
theorem consumer_conforms {signal : Signal} {w : World}
    (safe : IsSafe w.clock settings.thresholdNanos)
    (reaches : Reaches (start settings signal w) s) : s.Conforms settings := by
  have safe : IsSafe (start settings signal w).world.clock settings.thresholdNanos := safe
  have regular := (Regular.initial settings signal w).reaches safe reaches
  have yields := regular.follows.yields
  have ledger := regular.ledger
  constructor
  case rounds => exact regular.follows
  case feed => exact ledger.feed
  case numbered => exact regular.numbered
  case handled => rw [ledger.handled, yields.handled]
  case done => exact regular.done safe
  case offered =>
    rw [← yields.offered, ← ledger.handled, List.map_map]
    rfl
  case offsets => exact regular.offsets
  case committed => exact ledger.committed
  case heeds => exact ledger.heeds
  case result => exact yields.result
  case closings => exact yields.closings
  case closed => exact regular.isUp.closed
  case timer => exact regular.isUp.timer
  case rests => exact rests safe regular
  case stops => exact stops safe regular

end

namespace Sample

open FleetRoster.Sample (twice shaken isSafe_shaken)

/-- A message that cannot be read and a deletion are fed. -/
def fed : Service :=
  ((start twice {} shaken).push (Text.payload "[delete")).push
    (Text.payload "\x7b\"type\":\"delete\",\"id\":\"h\"\x7d")

/-- Commits are refused while the first message is handled. -/
def refused : Service :=
  goOn^[7] (fed.withReader { fed.consumer.reader with refusesCommits := true })

/-- Then they are accepted, and the consumer reads all there is. -/
def waiting : Service :=
  goOn^[18] (refused.withReader { refused.consumer.reader with
    refusesCommits := false, refusesClosing := false })

/-- At last it is told to stop. -/
def stopped : Service :=
  goOn^[2] (waiting.withSignal { waiting.consumer.signal with value := true, isNew := true })

theorem reaches_refused : Reaches (start twice {} shaken) refused := by
  have reaches : Reaches (start twice {} shaken) fed :=
    .tail (.single (.push rfl _)) (.push rfl _)
  exact (reaches.tail (.refuse fed true false)).trans (reaches_iterate _ 7)

theorem reaches_waiting : Reaches (start twice {} shaken) waiting :=
  (reaches_refused.tail (.refuse refused false false)).trans (reaches_iterate _ 18)

theorem reaches_stopped : Reaches (start twice {} shaken) stopped := by
  have given : waiting.consumer.signal.isDropped = false := by decide +kernel
  exact (reaches_waiting.tail (.signal given true)).trans (reaches_iterate _ 2)

end Sample

theorem consumer_conforms_sample :
    Sample.stopped.Conforms FleetRoster.Sample.twice ∧ Sample.stopped.consumer.phase.isFinished ∧
      offeredOf Sample.stopped.incidents = [0, 1] ∧
      Sample.stopped.consumer.reader.committed = [1] :=
  ⟨consumer_conforms FleetRoster.Sample.isSafe_shaken Sample.reaches_stopped,
    by decide +kernel, by decide +kernel, by decide +kernel⟩

end FleetRoster.Service
