import FleetRoster.Proofs.Flow.Twins
import FleetRoster.Proofs.Handler.Books

/-!
# Worlds that match

Two worlds agree where their buffers, topics, counts and series are the same, and they match where
their clocks will also show the same from now on. The books behind them, and the calls of the store
that will be refused, may differ by a relation. What happens in both of two worlds that match has
the same answers and leaves them matching, as long as it does not touch the books. Stores may also
be told to answer their calls in another way.
-/

namespace FleetRoster

open Calendar (Instant)

/-! ## Other stores -/

/-- A way in which stores answer their calls. -/
abbrev Store.Answering :=
  Store → (call : Store.Call) → Store × call.Answer

namespace World

/-- A call of a store that answers in a given way. A refused call leaves the store as it is. -/
def callBy (answering : Store.Answering) (w : World) (call : Store.Call) :
    World × Except Fault call.Answer :=
  let w' := { w with calls := w.calls + 1 }
  if w.outage w.calls then (w', .error call.refusal)
  else ({ w' with store := (answering w.store call).1 }, .ok (answering w.store call).2)

/-- What happens in an effect where the store answers in a given way. -/
def happenBy (answering : Store.Answering) : (effect : Effect) → World → World × effect.Answer
  | .store call, w => w.callBy answering call
  | effect, w => happen effect w

/-- Performs an effect while nothing else goes on and the store answers in a given way. -/
def performBy (answering : Store.Answering) (effect : Effect) (w : World) :
    World × effect.Answer :=
  happenBy answering effect (w.after (effect.pause w.latency))

theorem happenBy_answer : happenBy Store.answer = happen := by
  funext effect w
  cases effect <;> rfl

theorem performBy_answer : performBy Store.answer = perform := by
  funext effect w
  rw [performBy, happenBy_answer, perform]

end World

/-! ## What stands behind a world -/

/-- A buffer without its deadline. -/
def Buffer.undated (b : Buffer) : Buffer :=
  { b with deadline := none }

/-- The books, and which calls of the store will be refused, by their number from now on. -/
structure Backing where
  books : Books
  refusals : Nat → Bool

namespace Backing

/-- What stands behind a world after a refused call. -/
def refused (b : Backing) : Backing where
  books := b.books
  refusals n := b.refusals (n + 1)

/-- What stands behind a world after a call that was answered. -/
def served (answering : Store.Answering) (call : Store.Call) (b : Backing) : Backing where
  books := { b.books with store := (answering b.books.store call).1 }
  refusals n := b.refusals (n + 1)

/-- Whatever was asked of them, two stores that refuse the same go on to do so. -/
theorem refusals_served {b c : Backing} {answering answering' : Store.Answering}
    {call call' : Store.Call} (same : c.refusals = b.refusals) :
    (c.served answering' call').refusals = (b.served answering call).refusals := by
  simp only [served, same]

/-- The same stands behind two worlds. -/
def Same (b c : Backing) : Prop :=
  c = b

/-- What stands behind two worlds is known. -/
def Are (b₀ c₀ b c : Backing) : Prop :=
  b = b₀ ∧ c = c₀

end Backing

/-- What stands behind a world. -/
def World.backing (w : World) : Backing where
  books := w.books
  refusals n := w.outage (w.calls + n)

namespace World

/-- Two worlds have the same in their buffers, topics, counts and series, and something related
behind them. Where they keep time, they also have the same time and deadline. -/
structure Agrees (timely : Prop) (related : Backing → Backing → Prop) (w v : World) : Prop where
  backing : related w.backing v.backing
  buffer : v.buffer.undated = w.buffer.undated
  topic : ∀ channel, v.topic channel = w.topic channel
  tally : v.tally = w.tally
  messages : v.messages = w.messages
  lookups : v.lookups = w.lookups
  timing : timely → v.time = w.time ∧ v.latency = w.latency ∧ v.buffer.deadline = w.buffer.deadline

/-- Two worlds agree, and their clocks will show the same from now on. -/
structure Matches (timely : Prop) (related : Backing → Backing → Prop) (w v : World) : Prop
    extends w.Agrees timely related v where
  clock : ∀ n, v.clock (v.readings + n) = w.clock (w.readings + n)

/-- The same answer was given in two worlds, and they match. -/
def Echoes {α : Type} (timely : Prop) (related : Backing → Backing → Prop) (one other : World × α) :
    Prop :=
  other.2 = one.2 ∧ one.1.Matches timely related other.1

variable {timely : Prop} {related : Backing → Backing → Prop} {w v : World}

/-- Worlds that agree also do where something else behind them is related. -/
theorem Agrees.relate {other : Backing → Backing → Prop} (agrees : w.Agrees timely related v)
    (backing : other w.backing v.backing) : w.Agrees timely other v :=
  { agrees with backing }

theorem Matches.relate {other : Backing → Backing → Prop} (matching : w.Matches timely related v)
    (backing : other w.backing v.backing) : w.Matches timely other v :=
  { matching.toAgrees.relate backing with clock := matching.clock }

theorem Matches.refl (w : World) : w.Matches timely Backing.Same w where
  backing := rfl
  buffer := rfl
  topic _ := rfl
  tally := rfl
  messages := rfl
  lookups := rfl
  timing _ := ⟨rfl, rfl, rfl⟩
  clock _ := rfl

namespace Agrees

variable (agrees : w.Agrees timely related v)
include agrees

theorem items : v.buffer.items = w.buffer.items :=
  (congrArg Buffer.items agrees.buffer :)

theorem auditsWaiting : v.buffer.audits = w.buffer.audits :=
  (congrArg Buffer.audits agrees.buffer :)

theorem batchSize : v.buffer.batchSize = w.buffer.batchSize :=
  (congrArg Buffer.batchSize agrees.buffer :)

theorem capacity : v.buffer.capacity = w.buffer.capacity :=
  (congrArg Buffer.capacity agrees.buffer :)

end Agrees

/-! ## Sending -/

theorem topic_setTopic (w : World) (channel other : Channel) (t : Topic) :
    (w.setTopic channel t).topic other = if other = channel then t else w.topic other := by
  cases channel <;> cases other <;> rfl

namespace Matches

variable (matching : w.Matches timely related v)
include matching

theorem after {ms ms' : Nat} (same : timely → ms' = ms) :
    (w.after ms).Matches timely related (v.after ms') :=
  { matching with
    timing := by
      intro time
      obtain ⟨sameTime, rest⟩ := matching.timing time
      exact ⟨by rw [World.after, World.after, sameTime, same time], rest⟩ }

theorem readClock : Echoes timely related w.readClock v.readClock :=
  ⟨matching.clock 0,
    { matching with
      clock := by
        intro n
        have later := matching.clock (1 + n)
        rwa [← Nat.add_assoc, ← Nat.add_assoc] at later }⟩

/-- Whatever is logged in either world, they match. -/
theorem notes (notice notice' : Notice) : (w.note notice).Matches timely related (v.note notice') :=
  { matching with topic := matching.topic }

theorem count (lane : Lane) (verdict : Verdict) :
    (w.count lane verdict).Matches timely related (v.count lane verdict) :=
  { matching with
    tally := by rw [World.count, World.count, matching.tally]
    topic := matching.topic }

theorem countFailedSend (channel : Channel) :
    (w.countFailedSend channel).Matches timely related (v.countFailedSend channel) :=
  { matching with
    tally := by rw [World.countFailedSend, World.countFailedSend, matching.tally,
      matching.topic channel]
    topic := matching.topic }

theorem next (series : Series) : Echoes timely related (w.next series) (v.next series) := by
  cases series with
  | messages =>
      have same : v.messages + 1 = w.messages + 1 := congrArg (· + 1) matching.messages
      exact ⟨same, { matching with topic := matching.topic, messages := same }⟩
  | lookups =>
      have same : v.lookups + 1 = w.lookups + 1 := congrArg (· + 1) matching.lookups
      exact ⟨same, { matching with topic := matching.topic, lookups := same }⟩

theorem setBuffer {buffer buffer' : Buffer} (same : buffer'.undated = buffer.undated)
    (deadline : timely → buffer'.deadline = buffer.deadline) :
    ({ w with buffer } : World).Matches timely related { v with buffer := buffer' } :=
  { matching with
    topic := matching.topic
    buffer := same
    timing := by
      intro time
      obtain ⟨sameTime, latency, _⟩ := matching.timing time
      exact ⟨sameTime, latency, deadline time⟩ }

theorem undue :
    ({ w with buffer := w.buffer.undue } : World).Matches timely related
      { v with buffer := v.buffer.undue } :=
  matching.setBuffer (congrArg Buffer.undue matching.buffer :) fun _ => rfl

theorem empty :
    ({ w with buffer := w.buffer.emptied } : World).Matches timely related
      { v with buffer := v.buffer.emptied } :=
  matching.setBuffer (congrArg Buffer.emptied matching.buffer :) fun _ => rfl

theorem setTopic (channel : Channel) (t : Topic) :
    (w.setTopic channel t).Matches timely related (v.setTopic channel t) := by
  have same : ∀ other, (v.setTopic channel t).topic other = (w.setTopic channel t).topic other := by
    intro other
    rw [topic_setTopic, topic_setTopic, matching.topic]
  cases channel <;> exact { matching with topic := same }

theorem send (channel : Channel) (batch : List String) :
    Echoes timely related (w.send channel batch) (v.send channel batch) := by
  unfold World.send
  rw [matching.topic channel]
  exact ⟨rfl, matching.setTopic channel _⟩

/-- What is sent with the time on it is the same in both worlds. -/
theorem sendStamped (channel : Channel) (batch : Instant → List String) :
    Echoes timely related (w.readClock.1.send channel (batch w.readClock.2))
      (v.readClock.1.send channel (batch v.readClock.2)) := by
  obtain ⟨same, read⟩ := matching.readClock
  rw [same]
  exact read.send channel _

theorem sendItems (items : List Item) (batchSize : Nat) :
    Echoes timely related (w.sendItems items batchSize) (v.sendItems items batchSize) := by
  have sent := matching.sendStamped .evaluations fun now =>
    (Evaluation.ofItems items batchSize now).map (·.toValue.text)
  exact sent

theorem sendTargets (targets : List Target) (batchSize : Nat) :
    Echoes timely related (w.sendTargets targets batchSize) (v.sendTargets targets batchSize) := by
  have sent := matching.sendStamped .requests fun now =>
    (Evaluation.ofTargets targets batchSize now).map (·.toValue.text)
  exact sent

theorem sendAudits (events : List Audit) :
    Echoes timely related (w.sendAudits events) (v.sendAudits events) := by
  have sent := matching.sendStamped .audits fun now =>
    (Audit.stamped events now).map (·.toValue.text)
  exact sent

/-! ## Flushing -/

theorem flushItems : Echoes timely related w.flushItems v.flushItems := by
  have sent := matching.sendItems w.buffer.items w.buffer.batchSize
  simp only [World.flushItems, matching.items, matching.batchSize]
  generalize w.sendItems w.buffer.items w.buffer.batchSize = one at sent ⊢
  generalize v.sendItems w.buffer.items w.buffer.batchSize = other at sent ⊢
  rcases one with ⟨met, answer⟩
  rcases other with ⟨met', answer'⟩
  obtain ⟨same, sent⟩ := sent
  change answer' = answer at same
  subst same
  cases answer' with
  | ok count => exact ⟨rfl, sent⟩
  | error why => exact ⟨rfl, (sent.notes _ _).countFailedSend _⟩

theorem flushAudits : Echoes timely related w.flushAudits v.flushAudits := by
  have sent := matching.sendAudits w.buffer.audits
  simp only [World.flushAudits, matching.auditsWaiting]
  generalize w.sendAudits w.buffer.audits = one at sent ⊢
  generalize v.sendAudits w.buffer.audits = other at sent ⊢
  rcases one with ⟨met, answer⟩
  rcases other with ⟨met', answer'⟩
  obtain ⟨same, sent⟩ := sent
  change answer' = answer at same
  subst same
  cases answer' with
  | ok count => exact ⟨rfl, sent⟩
  | error why => exact ⟨rfl, (sent.notes _ _).countFailedSend _⟩

theorem flush (reason : FlushReason) : Echoes timely related (w.flush reason) (v.flush reason) := by
  simp only [World.flush, matching.items]
  by_cases nothing : w.buffer.items.isEmpty
  · rw [if_pos nothing, if_pos nothing]
    exact ⟨rfl, matching.undue⟩
  · rw [if_neg nothing, if_neg nothing]
    have noted := matching.notes (.flushing reason w.buffer.items.length w.buffer.capacity)
      (.flushing reason w.buffer.items.length v.buffer.capacity)
    obtain ⟨evaluations, one⟩ := noted.flushItems
    obtain ⟨audits, both⟩ := one.flushAudits
    rw [evaluations, audits]
    exact ⟨rfl, both.empty⟩

theorem push (item : Item) (audit : Audit) :
    ({ w with buffer := w.buffer.push w.time item audit } : World).Matches timely related
      { v with buffer := v.buffer.push v.time item audit } := by
  have same := matching.buffer
  apply matching.setBuffer
  · simp only [Buffer.undated, Buffer.mk.injEq] at same
    obtain ⟨capacity, batchSize, interval, items, audits, _⟩ := same
    simp [Buffer.undated, Buffer.push, capacity, batchSize, interval, items, audits]
  · intro time
    have interval : v.buffer.idleInterval = w.buffer.idleInterval :=
      (congrArg Buffer.idleInterval same :)
    rw [Buffer.push, Buffer.push, (matching.timing time).1, interval]

theorem add (item : Item) (audit : Audit) :
    Echoes timely related (w.add item audit) (v.add item audit) := by
  have pushed := matching.push item audit
  have full : (v.buffer.push v.time item audit).isFull =
      (w.buffer.push w.time item audit).isFull := by
    rw [Buffer.isFull, Buffer.isFull]
    exact congrArg₂ (fun c (e : List _) => decide (c ≤ e.length)) pushed.capacity pushed.items
  simp only [World.add, full]
  split
  · obtain ⟨same, flushed⟩ := pushed.flush .full
    exact ⟨congrArg some same, flushed⟩
  · exact ⟨rfl, pushed⟩

end Matches

end World

/-! ## Effects in both worlds -/

/-- An effect that neither asks for the books nor touches them. -/
def Effect.IsPlain : Effect → Prop
  | .store _ => False
  | .known _ => False
  | .remember _ _ => False
  | _ => True

namespace World.Matches

variable {timely : Prop} {related : Backing → Backing → Prop} {w v : World}
  {answering answering' : Store.Answering}

/-- A plain effect has the same answer in both worlds and leaves them matching. -/
theorem happen (matching : w.Matches timely related v) {effect : Effect} (plain : effect.IsPlain) :
    Echoes timely related (World.happenBy answering effect w)
      (World.happenBy answering' effect v) := by
  cases effect with
  | now => exact matching.readClock
  | next series => exact matching.next series
  | store call => exact plain.elim
  | known org => exact plain.elim
  | remember org account => exact plain.elim
  | buffer item audit => exact matching.add item audit
  | sendAudit audit => exact matching.sendAudits [audit]
  | sendTargets targets batchSize => exact matching.sendTargets targets batchSize
  | count lane verdict => exact ⟨rfl, matching.count lane verdict⟩
  | countFailedSend channel => exact ⟨rfl, matching.countFailedSend channel⟩
  | log notice => exact ⟨rfl, matching.notes notice notice⟩
  | sleep ms => exact ⟨rfl, matching⟩

/-- Before an effect the same time passes in worlds that keep time. -/
theorem pause (matching : w.Matches timely related v) (effect : Effect) :
    (w.after (effect.pause w.latency)).Matches timely related
      (v.after (effect.pause v.latency)) :=
  matching.after fun time => by rw [(matching.timing time).2.1]

end World.Matches

end FleetRoster
