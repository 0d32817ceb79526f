import FleetRoster.Flow.Effect
import FleetRoster.Outbound.Buffer
import FleetRoster.Outbound.Topic

/-!
# The world of the listener

Everything that handlers and tasks share: the clock, the store, the remembered accounts, the buffer,
the topics, the counts and the log. Readings of the clock are numbered, and so are calls of the
store and batches offered to a topic, which makes a world of every sequence of readings and of every
pattern of outages.
-/

namespace FleetRoster

open Calendar (Instant)

/-- What handlers and tasks share. -/
structure World where
  /-- The reading of the clock under each number. -/
  clock : Nat → Instant
  /-- The number of readings taken. -/
  readings : Nat := 0
  /-- Milliseconds since the start, by which tasks wait. -/
  time : Nat := 0
  store : Store := {}
  /-- Which calls of the store are refused, by their number from zero on. -/
  outage : Nat → Bool := fun _ => false
  /-- The number of calls of the store. -/
  calls : Nat := 0
  /-- Milliseconds that a call of the store takes. -/
  latency : Nat := 0
  /-- The remembered accounts of organizations. -/
  accounts : List (String × Int) := []
  buffer : Buffer
  evaluations : Topic
  audits : Topic
  requests : Topic
  tally : Tally := {}
  /-- The log, the oldest line first. -/
  log : List Notice := []
  /-- The number of messages that were given an id. -/
  messages : Nat := 0
  /-- The number of lookups that were numbered. -/
  lookups : Nat := 0

namespace World

/-- A line of the log. -/
def note (w : World) (n : Notice) : World :=
  { w with log := w.log ++ [n] }

/-- The clock. -/
def readClock (w : World) : World × Instant :=
  ({ w with readings := w.readings + 1 }, w.clock w.readings)

/-- The next number of a series. -/
def next (w : World) : Series → World × Nat
  | .messages => ({ w with messages := w.messages + 1 }, w.messages + 1)
  | .lookups => ({ w with lookups := w.lookups + 1 }, w.lookups + 1)

/-! ## The store -/

/-- A call of the store. A refused call leaves the store as it is. -/
def call (w : World) (c : Store.Call) : World × Except Fault c.Answer :=
  let w' := { w with calls := w.calls + 1 }
  if w.outage w.calls then (w', .error c.refusal)
  else
    let (store, answer) := w.store.answer c
    ({ w' with store }, .ok answer)

/-- The remembered account of an organization. -/
def known (w : World) (org : String) : Option Int :=
  (w.accounts.find? fun entry => entry.1 == org).map (·.2)

/-- Remembers the account of an organization, unless one is remembered already. -/
def remember (w : World) (org : String) (account : Int) : World × Int :=
  match w.known org with
  | some kept => (w, kept)
  | none => ({ w with accounts := w.accounts ++ [(org, account)] }, account)

/-! ## Counts -/

/-- Counts a message. -/
def count (w : World) (lane : Lane) (verdict : Verdict) : World :=
  { w with tally := w.tally.record lane.text verdict.text }

/-- The topic of a channel. -/
def topic (w : World) : Channel → Topic
  | .evaluations => w.evaluations
  | .audits => w.audits
  | .requests => w.requests

/-- Another topic in the place of a channel's. -/
def setTopic (w : World) (channel : Channel) (t : Topic) : World :=
  match channel with
  | .evaluations => { w with evaluations := t }
  | .audits => { w with audits := t }
  | .requests => { w with requests := t }

/-- Counts a failed send. -/
def countFailedSend (w : World) (channel : Channel) : World :=
  { w with tally := w.tally.recordFailedSend (w.topic channel).name }

/-! ## Sending -/

/-- Offers a batch of messages. -/
def send (w : World) (channel : Channel) (batch : List String) : World × Except Fault Nat :=
  let (t, answer) := (w.topic channel).write batch
  (w.setTopic channel t, answer)

/-- Sends the evaluations of uploads. -/
def sendItems (w : World) (items : List Item) (batchSize : Nat) : World × Except Fault Nat :=
  let (w, now) := w.readClock
  w.send .evaluations ((Evaluation.ofItems items batchSize now).map fun m => m.toValue.text)

/-- Sends the evaluations of systems on request. -/
def sendTargets (w : World) (targets : List Target) (batchSize : Nat) :
    World × Except Fault Nat :=
  let (w, now) := w.readClock
  w.send .requests ((Evaluation.ofTargets targets batchSize now).map fun m => m.toValue.text)

/-- Sends the audit events that can be followed. -/
def sendAudits (w : World) (events : List Audit) : World × Except Fault Nat :=
  let (w, now) := w.readClock
  w.send .audits ((Audit.stamped events now).map fun e => e.toValue.text)

end World

end FleetRoster
