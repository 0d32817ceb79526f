import FleetRoster.Proofs.Buffer.Conservation
import FleetRoster.Proofs.Flow.Errands
import FleetRoster.Proofs.Outbound.Debts

/-!
# All who send

The senders of the program together: the handlers, the event buffer with its timer, and the writer
of the recalculation queue. Messages are handled, events dispatched, requests worked on and uploads
put into the buffer, any number of them at a time; the buffer is flushed when it is full, when it is
idle and by hand. All of this sends to the same topics and counts in the same place, and topics
change their mind about what they take at any moment. Every call of a topic is written down on the
side.

Between a refused send and its count nobody waits, but others may be at work. In every state, what
was refused is what was counted and what is still owed by someone who is between the two.
-/

namespace FleetRoster

open Calendar (Instant)
open FleetRoster.Flow

/-! ## Duties -/

/-- What someone is to do. -/
inductive Duty
  /-- To handle a message. -/
  | message (settings : Settings) (inbound : Inbound)
  /-- To dispatch an event. -/
  | event (threshold : Nat) (job : Job)
  /-- To work on a request. -/
  | request (batchSize : Nat) (r : Request)
  /-- To put an upload into the buffer. -/
  | entry (item : Item) (audit : Audit)

/-- How a duty is done, with the outcome of an event. -/
def Duty.flow : Duty → Flow (Option Outcome)
  | .message settings inbound => do
    handleMessage settings inbound
    pure none
  | .event threshold job => do
    let outcome ← job.handler threshold
    pure (some outcome)
  | .request batchSize r => do
    processRequest batchSize r
    pure none
  | .entry item audit => do
    let _ ← Flow.perform (.buffer item audit)
    pure none

/-- Whoever has done a duty owes nothing. -/
theorem Duty.squares_flow (duty : Duty) : duty.flow.Squares none := by
  have ended : ∀ outcome : Option Outcome, (pure outcome : Flow _).Squares none := fun _ => rfl
  cases duty with
  | message settings inbound =>
      exact (squares_handleMessage settings inbound).bind fun _ => ended none
  | event threshold job =>
      exact (squares_handler threshold job).bind fun outcome => ended (some outcome)
  | request batchSize r =>
      exact (squares_processRequest batchSize r).bind fun _ => ended none
  | entry item audit =>
      have queues : (perform (.buffer item audit)).Only Effect.IsSendless := only_perform rfl
      exact squares_after queues fun _ => ended none

namespace Errand

variable {ε α : Type} (e : Errand ε α)

/-- What was done so far. -/
def deeds : List Deed :=
  e.moves.map (·.deed)

/-- The calls that were made so far. -/
def calls : List (Channel × Attempt) :=
  e.moves.flatMap fun m => m.before.callsIn m.deed.effect

/-- The channel of which a failed send is still to be counted. -/
def owed : Option Channel :=
  owedAfter e.deeds

/-! One more move, whatever is left of the flow then. -/

variable (event : ε) (rest rest' : Flow α) (moves : List Move) (move : Move)

theorem deeds_snoc :
    deeds ⟨event, rest', moves ++ [move]⟩ = deeds ⟨event, rest, moves⟩ ++ [move.deed] := by
  rw [deeds, List.map_append]
  rfl

theorem calls_snoc : calls ⟨event, rest', moves ++ [move]⟩ =
    calls ⟨event, rest, moves⟩ ++ move.before.callsIn move.deed.effect := by
  rw [calls, List.flatMap_append, List.flatMap_singleton]
  rfl

theorem owed_snoc :
    owed ⟨event, rest', moves ++ [move]⟩ = move.deed.owed (owed ⟨event, rest, moves⟩) := by
  rw [owed, deeds_snoc event rest]
  exact owedAfter_snoc _ _

end Errand

/-! ## The buffer at work -/

namespace Desk

variable (d : Desk)

/-- The call that the holder of the lock makes next. -/
def callsDue : List (Channel × Attempt) :=
  match d.turn with
  | .evaluating => callOf .evaluations d.world.evaluationsDue d.world.flushItems.2.toBool
  | .auditing _ _ => callOf .audits d.world.auditsDue d.world.flushAudits.2.toBool
  | _ => []

/-- What happens in an effect at the desk. What an addition answers depends on the flush that it
causes, which is not over yet, so the answer is that of the addition in a world of its own. -/
def act (met : World) : (effect : Effect) → Desk × effect.Answer
  | .buffer item audit => (d.add item audit, (met.add item audit).2)
  | effect => (d.inWorld (World.happen effect d.world).1, (World.happen effect d.world).2)

/-- What the buffer does without those who add to it, and the calls that this makes. -/
inductive Works : Desk → List (Channel × Attempt) → Desk → Prop
  | flush {d : Desk} (free : d.turn = .free) : Works d [] (d.startFlush .manual)
  | goOn (d : Desk) : Works d d.callsDue d.goOn
  | timer {d : Desk} {timer : IdleTimer} {w : World} (asleep : d.timer ≠ .awake)
      (free : d.timer = .looking → d.turn = .free) (moves : (timer, w) ∈ d.timer.moves d.world) :
      Works d [] { d with timer, world := w }
  | check {d : Desk} (awake : d.timer = .awake) (free : d.turn = .free) : Works d [] d.check

variable {d}

theorem standsBy_startFlush (d : Desk) (reason : FlushReason) :
    d.world.StandsBy (d.startFlush reason).world := by
  unfold startFlush
  split
  · exact .of_same rfl rfl rfl rfl
  · exact d.world.standsBy_note _

theorem standsBy_add (d : Desk) (item : Item) (audit : Audit) :
    d.world.StandsBy (d.add item audit).world := by
  have put : d.world.StandsBy (d.put item audit).world :=
    .of_same rfl rfl rfl rfl
  unfold add
  split
  · exact put.trans (standsBy_startFlush _ .full)
  · exact put

theorem act_of_other {effect : Effect} (other : ¬ effect.IsAddition) (d : Desk) (met : World) :
    d.act met effect =
      (d.inWorld (World.happen effect d.world).1, (World.happen effect d.world).2) := by
  cases effect with
  | buffer item audit => exact absurd trivial other
  | _ => rfl

/-- What happens in an effect makes its calls and its count. -/
theorem conveys_act (d : Desk) (met : World) (effect : Effect) :
    d.world.Conveys (d.world.callsIn effect) effect.countedSend?.toList
      (d.act met effect).1.world := by
  by_cases addition : effect.IsAddition
  · cases effect with
    | buffer item audit => exact (d.standsBy_add item audit).conveys
    | _ => exact addition.elim
  · rw [act_of_other addition]
    exact World.conveys_happen addition d.world

/-- Whatever happens in an effect, what was owed before or is refused now is counted now or still
owed. -/
theorem account_act {effect : Effect} {owed : Option Channel} (honours : effect.Honours owed)
    (d : Desk) (met : World) (channel : Channel) :
    effect.countedSend?.toList.count channel +
        (Deed.owed owed ⟨effect, (d.act met effect).2⟩).toList.count channel =
      (attemptsOn channel (d.world.callsIn effect)).countP (!·.taken) +
        owed.toList.count channel := by
  by_cases addition : effect.IsAddition
  · cases effect with
    | buffer item audit => rfl
    | _ => exact addition.elim
  · rw [act_of_other addition]
    exact honours.account d.world channel

/-- Whatever the buffer does, a count goes with each call that is refused and with no other. -/
theorem Works.conveys {calls : List (Channel × Attempt)} {d' : Desk} (works : d.Works calls d') :
    ∃ counted, d.world.Conveys calls counted d'.world ∧
      ∀ channel, counted.count channel = (attemptsOn channel calls).countP (!·.taken) := by
  cases works with
  | flush free => exact ⟨[], (d.standsBy_startFlush _).conveys, fun _ => rfl⟩
  | goOn =>
      unfold Desk.goOn Desk.callsDue
      cases d.turn with
      | free => exact ⟨[], .refl _, fun _ => rfl⟩
      | evaluating =>
          refine ⟨_, d.world.conveys_flushItems, fun channel => ?_⟩
          rw [World.flushItems_answer]
          exact (refused_callOf _ _ _ _).symm
      | auditing evaluatedAt evaluated =>
          refine ⟨_, d.world.conveys_flushAudits, fun channel => ?_⟩
          rw [World.flushAudits_answer]
          exact (refused_callOf _ _ _ _).symm
      | emptying _ _ _ _ =>
          refine ⟨[], World.StandsBy.conveys ?_, fun _ => rfl⟩
          exact .of_same rfl rfl rfl rfl
  | timer asleep free moves =>
      rcases IdleTimer.moves_spec asleep moves with rfl | rfl
      · exact ⟨[], .refl _, fun _ => rfl⟩
      · refine ⟨[], World.StandsBy.conveys ?_, fun _ => rfl⟩
        exact .of_same rfl rfl rfl rfl
  | check awake free =>
      refine ⟨[], World.StandsBy.conveys ?_, fun _ => rfl⟩
      unfold Desk.check
      dsimp only
      split
      · exact standsBy_startFlush { d with timer := .looking } .timeout
      · exact .of_same rfl rfl rfl rfl

end Desk

/-! ## The mailroom -/

/-- The buffer in its world, with all that was ever under way there and the calls of the topics, the
first one first. -/
structure Mailroom where
  desk : Desk
  errands : List (Errand Duty (Option Outcome)) := []
  calls : List (Channel × Attempt) := []

namespace Mailroom

/-- What can happen next: someone takes up a duty or makes a move, which waits for the lock if it
adds to the buffer, the buffer is at work, or something else happens. -/
inductive Step : Mailroom → Mailroom → Prop
  | begin {m : Mailroom} (duty : Duty) :
      Step m { m with errands := m.errands ++ [⟨duty, duty.flow, []⟩] }
  | move {d : Desk} {calls : List (Channel × Attempt)}
      {earlier later : List (Errand Duty (Option Outcome))} {duty : Duty} {effect : Effect}
      {next : effect.Answer → Flow (Option Outcome)} {moves : List Move}
      (free : effect.IsAddition → d.turn = .free) (met : World) :
      Step ⟨d, earlier ++ ⟨duty, .ask effect next, moves⟩ :: later, calls⟩
        ⟨(d.act met effect).1,
          earlier ++ ⟨duty, next (d.act met effect).2, moves ++
            [⟨⟨effect, (d.act met effect).2⟩, d.world, (d.act met effect).1.world⟩]⟩ :: later,
          calls ++ d.world.callsIn effect⟩
  | work {m : Mailroom} {calls : List (Channel × Attempt)} {d : Desk}
      (works : m.desk.Works calls d) : Step m { m with desk := d, calls := m.calls ++ calls }
  | others {m : Mailroom} {w : World} (standsBy : m.desk.world.StandsBy w)
      (buffer : w.buffer = m.desk.world.buffer) : Step m { m with desk := m.desk.inWorld w }

/-- What can happen in the end. -/
def Reaches : Mailroom → Mailroom → Prop :=
  Relation.ReflTransGen Step

/-- A mailroom where nothing has happened yet. -/
def opening (start : World) : Mailroom where
  desk := { world := start }

/-- The failed sends that are still to be counted. -/
def owing (m : Mailroom) : List Channel :=
  m.errands.flatMap (·.owed.toList)

/-! ## Single steps -/

/-- Someone takes up a duty. -/
def begin (m : Mailroom) (duty : Duty) : Mailroom :=
  { m with errands := m.errands ++ [⟨duty, duty.flow, []⟩] }

/-- The holder of the lock, if there is one, goes on until it gives it back. -/
def finish (m : Mailroom) : Mailroom :=
  let goOn (m : Mailroom) : Mailroom :=
    { m with desk := m.desk.goOn, calls := m.calls ++ m.desk.callsDue }
  goOn (goOn (goOn m))

/-- The errand with this index makes its next move, if it has one, once the lock is free. -/
def play (m : Mailroom) (index : Nat) : Mailroom :=
  match m.errands[index]? with
  | some ⟨duty, .ask effect next, moves⟩ =>
    let acted := m.finish.desk.act m.finish.desk.world effect
    ⟨acted.1, m.errands.set index ⟨duty, next acted.2,
        moves ++ [⟨⟨effect, acted.2⟩, m.finish.desk.world, acted.1.world⟩]⟩,
      m.finish.calls ++ m.finish.desk.world.callsIn effect⟩
  | _ => m

theorem reaches_finish (m : Mailroom) : m.Reaches m.finish :=
  .tail (.tail (.single (.work (.goOn _))) (.work (.goOn _))) (.work (.goOn _))

theorem reaches_play (m : Mailroom) (index : Nat) : m.Reaches (m.play index) := by
  unfold play
  split
  next duty effect next moves found =>
    obtain ⟨lt, found⟩ := List.getElem?_eq_some_iff.mp found
    have cut : m.errands.take index ++ ⟨duty, .ask effect next, moves⟩ ::
        m.errands.drop (index + 1) = m.errands := by
      rw [← found, ← List.drop_eq_getElem_cons lt, List.take_append_drop]
    have finished : m.Reaches ⟨m.finish.desk, m.errands, m.finish.calls⟩ := m.reaches_finish
    rw [← cut] at finished
    dsimp only
    rw [List.set_eq_take_append_cons_drop, if_pos lt]
    exact finished.tail (.move (fun _ => Desk.turn_finish m.desk) _)
  next => exact .refl

/-! ## The accounts are kept -/

/-- Since a start the calls and the counts account for the topics, those who are under way owe what
was refused and not counted, and they will pay it. -/
structure Balances (start : World) (m : Mailroom) : Prop where
  conveyed : ∃ counted, start.Conveys m.calls counted m.desk.world ∧
    ∀ channel, counted.count channel + m.owing.count channel =
      (attemptsOn channel m.calls).countP (!·.taken)
  squares : ∀ e ∈ m.errands, e.rest.Squares e.owed

namespace Balances

variable {start : World} {m m' : Mailroom}

theorem initial (start : World) : Balances start (opening start) where
  conveyed := ⟨[], .refl start, fun _ => rfl⟩
  squares := fun _ mem => absurd mem List.not_mem_nil

/-- The accounts are kept where what was owed or is refused now is counted now or still owed. -/
theorem goOn (balances : Balances start m) {calls : List (Channel × Attempt)}
    {counted : List Channel} (conveys : m.desk.world.Conveys calls counted m'.desk.world)
    (made : m'.calls = m.calls ++ calls)
    (account : ∀ channel, counted.count channel + m'.owing.count channel =
      (attemptsOn channel calls).countP (!·.taken) + m.owing.count channel)
    (squares : ∀ e ∈ m'.errands, e.rest.Squares e.owed) : Balances start m' where
  conveyed := by
    obtain ⟨before, conveyed, accounts⟩ := balances.conveyed
    refine ⟨before ++ counted, made ▸ conveyed.trans conveys, fun channel => ?_⟩
    rw [made, attemptsOn_append, List.countP_append, List.count_append, ← accounts channel]
    have goes := account channel
    omega
  squares := squares

/-- The accounts are kept in every step. -/
theorem step (balances : Balances start m) (step : m.Step m') : Balances start m' := by
  cases step with
  | begin duty =>
      refine balances.goOn (.refl _) (List.append_nil _).symm (fun channel => ?_) ?_
      · simp [owing, attemptsOn, Errand.owed, Errand.deeds, owedAfter]
      · rw [List.forall_mem_append, List.forall_mem_singleton]
        exact ⟨balances.squares, duty.squares_flow⟩
  | @move d calls earlier later duty effect next moves free met =>
      have squares := balances.squares
      rw [List.forall_mem_append, List.forall_mem_cons] at squares
      obtain ⟨honours, pays⟩ := squares.2.1
      refine balances.goOn (d.conveys_act met effect) rfl (fun channel => ?_) ?_
      · have account := Desk.account_act honours d met channel
        simp only [owing, List.flatMap_append, List.flatMap_cons, List.count_append,
          Errand.owed_snoc duty (.ask effect next)]
        omega
      · rw [List.forall_mem_append, List.forall_mem_cons]
        refine ⟨squares.1, ?_, squares.2.2⟩
        rw [Errand.owed_snoc duty (.ask effect next)]
        exact pays _
  | work works =>
      obtain ⟨counted, conveys, accounts⟩ := works.conveys
      refine balances.goOn conveys rfl (fun channel => ?_) balances.squares
      rw [accounts channel]
      rfl
  | others standsBy buffer =>
      refine balances.goOn standsBy.conveys (List.append_nil _).symm (fun channel => ?_)
        balances.squares
      rfl

/-- The accounts are kept in every run. -/
theorem reaches (balances : Balances start m) (reaches : m.Reaches m') : Balances start m' := by
  induction reaches with
  | refl => exact balances
  | tail _ step ih => exact ih.step step

end Balances

/-! ## Whatever has happened -/

/-- What is true in every state of a mailroom. -/
structure Reconciles (start : World) (m : Mailroom) : Prop where
  /-- What a topic has refused was counted once under its name, or is still to be counted by those
  who sent it. -/
  counted : ∀ channel, m.desk.world.tally.failedSendsTo (start.topic channel).name +
    m.owing.count channel = (m.desk.world.topic channel).refused
  /-- While nobody is between a refused send and its count, nothing is missing. -/
  settled : ∀ channel, channel ∉ m.owing →
    m.desk.world.tally.failedSendsTo (start.topic channel).name =
      (m.desk.world.topic channel).refused
  /-- Whoever has come to an end has counted what was refused. -/
  ended : ∀ e ∈ m.errands, ∀ ending, e.rest = .stop ending → e.owed = none
  /-- A topic has the messages of the batches that it took, each whole, one after the other. -/
  messages : ∀ channel, (m.desk.world.topic channel).messages =
    ((attemptsOn channel m.calls).filter (·.taken)).flatMap (·.batch)
  taken : ∀ channel, (m.desk.world.topic channel).taken =
    (attemptsOn channel m.calls).countP (·.taken)
  refused : ∀ channel, (m.desk.world.topic channel).refused =
    (attemptsOn channel m.calls).countP (!·.taken)
  nonempty : ∀ channel, ∀ a ∈ attemptsOn channel m.calls, a.batch ≠ []
  name : ∀ channel, (m.desk.world.topic channel).name = (start.topic channel).name

end Mailroom

/-- Nothing was sent yet, and no failure counted. -/
structure World.IsUnsent (w : World) : Prop where
  messages : ∀ channel, (w.topic channel).messages = []
  taken : ∀ channel, (w.topic channel).taken = 0
  refused : ∀ channel, (w.topic channel).refused = 0
  failedSends : w.tally.failedSends = []

namespace Mailroom

/-- However many send at a time, on topics of distinct names, every refused send is counted once and
no other, and every topic has just the batches that it took. -/
theorem sends_reconciled {start : World} {m : Mailroom} (unsent : start.IsUnsent)
    (distinct : Function.Injective fun channel => (start.topic channel).name)
    (reaches : (opening start).Reaches m) : m.Reconciles start := by
  have balances := (Balances.initial start).reaches reaches
  obtain ⟨counted, conveys, accounts⟩ := balances.conveyed
  have refused : ∀ channel, (m.desk.world.topic channel).refused =
      (attemptsOn channel m.calls).countP (!·.taken) := by
    intro channel
    rw [(conveys.received channel).refused, unsent.refused channel, Nat.zero_add]
  have found : ∀ channel, m.desk.world.tally.failedSendsTo (start.topic channel).name =
      counted.count channel := by
    intro channel
    have ascending : IsAscending (fun a b : String => decide (a < b)) start.tally.failedSends := by
      rw [unsent.failedSends]
      exact .nil
    rw [Tally.failedSendsTo, conveys.failedSends,
      countUnder_countSends distinct channel counted ascending, unsent.failedSends]
    exact Nat.zero_add _
  have balance : ∀ channel, m.desk.world.tally.failedSendsTo (start.topic channel).name +
      m.owing.count channel = (m.desk.world.topic channel).refused := by
    intro channel
    rw [found, refused, accounts channel]
  constructor
  case counted => exact balance
  case settled =>
    intro channel settled
    rw [← balance channel, List.count_eq_zero.mpr settled, Nat.add_zero]
  case ended =>
    intro e mem ending ended
    have squares := balances.squares e mem
    rw [ended] at squares
    exact squares
  case messages =>
    intro channel
    rw [(conveys.received channel).messages, unsent.messages channel, List.nil_append]
  case taken =>
    intro channel
    rw [(conveys.received channel).taken, unsent.taken channel, Nat.zero_add]
  case refused => exact refused
  case nonempty => exact fun channel => (conveys.received channel).nonempty
  case name => exact conveys.name

namespace Sample

/-- A buffer for one entry, and topics of which two refuse the first batch. -/
def start : World where
  clock n := ⟨n, 0⟩
  buffer := Buffer.ofCapacity 1 10 1000
  evaluations := { name := "evaluations" }
  audits := { name := "audits", outage := (· == 0) }
  requests := { name := "recalc", outage := (· == 0) }

/-- One request and one entry that fills the buffer, both of which are sent. -/
def sent : Mailroom :=
  ((((opening start).begin (.request 10 (.systems [⟨"g", 1⟩]))).begin
    (.entry ⟨"h", 1, "o", "r"⟩ (.received "h" (some "o") (some "r")))).play 0).play 1

/-- The buffer is flushed, and the request is done. -/
def settled : Mailroom :=
  (sent.finish.play 0).play 0

theorem isUnsent_start : start.IsUnsent where
  messages channel := by cases channel <;> rfl
  taken channel := by cases channel <;> rfl
  refused channel := by cases channel <;> rfl
  failedSends := rfl

theorem distinct_start : Function.Injective fun channel => (start.topic channel).name := by
  intro first second same
  cases first <;> cases second <;> first | rfl | exact absurd same (by decide)

theorem reaches_sent : (opening start).Reaches sent :=
  ((Relation.ReflTransGen.single (.begin _)).tail (.begin _)).trans
    ((reaches_play _ 0).trans (reaches_play _ 1))

theorem reaches_settled : (opening start).Reaches settled :=
  reaches_sent.trans ((reaches_finish _).trans ((reaches_play _ 0).trans (reaches_play _ 0)))

end Sample

theorem sends_reconciled_sample :
    Sample.sent.owing = [.requests] ∧ Sample.sent.Reconciles Sample.start ∧
      Sample.settled.owing = [] ∧
      Sample.settled.desk.world.tally.failedSends = [("audits", 1), ("recalc", 1)] ∧
      Sample.settled.desk.world.evaluations.taken = 1 ∧ Sample.settled.Reconciles Sample.start :=
  ⟨by decide +kernel, sends_reconciled Sample.isUnsent_start Sample.distinct_start Sample.reaches_sent,
    by decide +kernel, by decide +kernel, by decide +kernel,
    sends_reconciled Sample.isUnsent_start Sample.distinct_start Sample.reaches_settled⟩

end Mailroom

end FleetRoster
