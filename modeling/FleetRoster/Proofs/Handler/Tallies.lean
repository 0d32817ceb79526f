import FleetRoster.Proofs.Buffer.Flush
import FleetRoster.Proofs.Handler.Counts
import FleetRoster.Proofs.Handler.Tries
import FleetRoster.Proofs.Tally.Labels

/-!
# Every message is counted once

A message is counted when it is dealt with, under the lane of its kind, or under that of other
messages where it cannot be read. It is counted as failed where it cannot be read and where the last
attempt at it has failed, and otherwise as what became of it. So the counts add up to the number of
messages.
-/

namespace FleetRoster

open Calendar (Instant)
open FleetRoster.Flow

/-! ## Counts in the world -/

/-- The counts of messages after some more were counted. -/
def countAll (counts : List (Lane × Verdict)) (handled : List ((String × String) × Nat)) :
    List ((String × String) × Nat) :=
  counts.foldl (fun handled c => addOne labelsBefore (c.1.text, c.2.text) handled) handled

/-- From one world to another these messages were counted, and the clock is the same. -/
structure World.Counted (w : World) (counts : List (Lane × Verdict)) (w' : World) : Prop where
  clock : w'.clock = w.clock
  handled : w'.tally.handled = countAll counts w.tally.handled

/-- No message was counted, and the clock is the same. -/
def World.Uncounted (w w' : World) : Prop :=
  w.Counted [] w'

namespace World

variable {w w' w'' : World} {counts more : List (Lane × Verdict)}

theorem Counted.trans (first : w.Counted counts w') (second : w'.Counted more w'') :
    w.Counted (counts ++ more) w'' where
  clock := second.clock.trans first.clock
  handled := by rw [second.handled, first.handled, countAll, countAll, countAll, List.foldl_append]

theorem Counted.refl (w : World) : w.Counted [] w :=
  ⟨rfl, rfl⟩

theorem uncounted_after (w : World) (ms : Nat) : w.Uncounted (w.after ms) :=
  ⟨rfl, rfl⟩

/-- Nothing that is sent is a message that was handled. -/
theorem isApart_uncounted : IsApart World.Uncounted where
  trans first second := Counted.trans first second
  readClock _ := ⟨rfl, rfl⟩
  send _ channel _ := by cases channel <;> exact ⟨rfl, rfl⟩
  note _ _ := ⟨rfl, rfl⟩
  countFailedSend _ _ := ⟨rfl, rfl⟩
  setBuffer _ _ := ⟨rfl, rfl⟩

theorem uncounted_call (w : World) (call : Store.Call) : w.Uncounted (w.call call).1 := by
  unfold World.call
  by_cases out : w.outage w.calls
  · rw [if_pos out]
    exact ⟨rfl, rfl⟩
  · rw [if_neg out]
    exact ⟨rfl, rfl⟩

theorem uncounted_remember (w : World) (org : String) (account : Int) :
    w.Uncounted (w.remember org account).1 := by
  unfold World.remember
  split
  · exact Counted.refl w
  · exact ⟨rfl, rfl⟩

/-- An effect that is a count counts, and no other does. -/
theorem counted_happen (effect : Effect) (w : World) :
    w.Counted effect.counted?.toList (World.happen effect w).1 := by
  cases effect with
  | now => exact isApart_uncounted.readClock w
  | next series => cases series <;> exact ⟨rfl, rfl⟩
  | store call => exact w.uncounted_call call
  | known org => exact .refl w
  | remember org account => exact w.uncounted_remember org account
  | buffer item audit => exact isApart_uncounted.add w item audit
  | sendAudit audit => exact isApart_uncounted.sendAudits w [audit]
  | sendTargets targets batchSize => exact isApart_uncounted.sendTargets w targets batchSize
  | count lane verdict => exact ⟨rfl, rfl⟩
  | countFailedSend channel => exact isApart_uncounted.countFailedSend w channel
  | log notice => exact isApart_uncounted.note w notice
  | sleep ms => exact .refl w

end World

/-- While a flow runs, what it counts is counted, and nothing else is. -/
theorem Flow.Takes.counted {α : Type} {x : Flow α} {w w' : World} {deeds : List Deed}
    {ending : Ending α} (takes : x.Takes World.Uncounted w deeds w' ending) :
    w.Counted (countsOf deeds) w' := by
  induction takes with
  | stop ending w => exact .refl w
  | aside others rest ih => exact others.trans ih
  | @ask effect next w w' deeds ending rest ih =>
      rw [countsOf_cons]
      exact (World.counted_happen effect w).trans ih

/-! ## Messages -/

/-- The clock stays the same and answers what it shows. -/
theorem World.clockActs_happen (effect : Effect) (w : World) :
    ClockActs effect w.clock (World.happen effect w).1.clock (World.happen effect w).2 := by
  have same := (World.counted_happen effect w).clock
  cases effect with
  | now => exact ⟨same, w.readings, rfl⟩
  | _ => exact same

/-- A flow that has run has counted and ended as claimed, where the others left the clock alone. -/
theorem Flow.Counts.of_takes {α : Type} {aside : World → World → Prop} {x : Flow α} {w w' : World}
    {deeds : List Deed} {ending : Ending α} {claim : List (Lane × Verdict) → Ending α → Prop}
    (blind : ∀ {w met}, aside w met → met.clock = w.clock) (counts : x.Counts w.clock claim)
    (takes : x.Takes aside w deeds w' ending) :
    w'.clock = w.clock ∧ claim (countsOf deeds) ending :=
  Leads.of_takes World.clockActs_happen blind counts takes

/-- The lane of a message, which is that of others where it cannot be read. -/
def Inbound.lane (message : Inbound) : Lane :=
  match Json.readValue message.payload with
  | .ok value => (EventKind.ofMessage value).lane
  | .error _ => .other

/-- The last attempt has failed. -/
def LastFailed (tries : List (Entry Nat Outcome)) : Prop :=
  ∃ last why, tries.getLast? = some last ∧ last.ending = .failed why

/-- A message that was attempted was dealt with and counted once, as failed where the last attempt has
failed and only there. -/
structure CountsOnce (lane : Lane) (tries : List (Entry Nat Outcome)) (deeds : List Deed)
    (ending : Ending Unit) (verdict : Verdict) : Prop where
  ends : ending = .done ()
  counts : countsOf deeds = [(lane, verdict)]
  failed : verdict = .failed ↔ LastFailed tries

section

variable {aside : World → World → Prop} {clock : Nat → Instant} {w w' : World}

theorem counts_abandonMessage (about : Log.Context) (id : String) (lane : Lane) (made : Nat)
    (why : Fault) :
    (abandonMessage about id lane made why).Counts clock fun counts ending =>
      counts = [(lane, .failed)] ∧ ending = .done () :=
  counts_after (quiet_log _) fun _ => counts_count ⟨rfl, rfl, rfl⟩

theorem quiet_retryPause (delay : Nat) (about : Log.Context) (id : String) (made : Nat)
    (why : Fault) : (retryPause delay about id made why).Quiet clock :=
  (quiet_log _).bind fun _ => quiet_perform rfl

/-- However often a message is attempted, it is counted once. -/
theorem Tries.countsOnce {delay threshold : Nat} {about : Log.Context} {id : String}
    {kind : EventKind} {message : Json.Value} {further made : Nat}
    {tries : List (Entry Nat Outcome)} {deeds : List Deed} {ending : Ending Unit}
    (blind : ∀ {w met}, aside w met → met.clock = w.clock) (safe : IsSafe w.clock threshold)
    (t : Tries delay about id kind.lane (dispatch threshold about kind message) aside further made w
      tries deeds w' ending) :
    ∃ verdict, CountsOnce kind.lane tries deeds ending verdict := by
  induction t with
  | @done _ _ _ _ _ _ _ outcome _ takes logs =>
      obtain ⟨clock, counts, verdict⟩ :=
        (judged_dispatch safe about kind message).of_takes blind takes
      obtain ⟨_, none, _, rfl⟩ := (quiet_log _).of_takes blind logs
      refine ⟨outcome.verdict, rfl, ?_, ?_⟩
      · rw [countsOf_append, counts, none, List.append_nil]
      · simp [verdict, LastFailed]
  | crashed takes =>
      exact ((judged_dispatch safe about kind message).of_takes blind takes).2.elim
  | @abandoned _ _ _ _ _ _ _ why _ takes last gives =>
      obtain ⟨clock, counts⟩ := (judged_dispatch safe about kind message).of_takes blind takes
      obtain ⟨_, one, rfl⟩ := (counts_abandonMessage _ _ _ _ _).of_takes blind gives
      refine ⟨.failed, rfl, ?_, ?_⟩
      · rw [countsOf_append, counts, one, List.nil_append]
      · simp [LastFailed]
  | again takes passing pauses rest ih =>
      obtain ⟨same, counts⟩ := (judged_dispatch safe about kind message).of_takes blind takes
      obtain ⟨same', none, _⟩ := (quiet_retryPause _ _ _ _ _).of_takes blind pauses
      obtain ⟨verdict, ends, one, failed⟩ := ih (by rwa [same', same])
      refine ⟨verdict, ends, ?_, ?_⟩
      · rw [countsOf_append, countsOf_append, counts, none, List.nil_append, List.nil_append, one]
      · obtain ⟨second, others, rfl⟩ := List.exists_cons_of_ne_nil rest.ne_nil
        rw [failed, LastFailed, LastFailed, List.getLast?_cons_cons]

end

/-! ## Messages -/

/-- A message was handled: it was counted once, and it was counted as failed where it could not be read
and where the last attempt at it has failed. -/
structure Entry.IsCounted (settings : Settings) (aside : World → World → Prop)
    (e : Entry Inbound Unit) (verdict : Verdict) : Prop where
  ends : e.ending = .done ()
  counts : countsOf e.deeds = [(e.event.lane, verdict)]
  attempted : ∃ tries, Attempts settings aside e tries
  failed : ∀ tries, Attempts settings aside e tries → (verdict = .failed ↔
    (∃ why, Json.readValue e.event.payload = .error why) ∨ LastFailed tries)

section

variable {settings : Settings} {aside : World → World → Prop} {e : Entry Inbound Unit}

theorem counts_unread {why : Json.DecodeError} {clock : Nat → Instant}
    (unread : Json.readValue e.event.payload = .error why) :
    (handleMessage settings e.event).Counts clock fun counts ending =>
      counts = [(.other, .failed)] ∧ ending = .done () := by
  apply counts_after (quiet_perform rfl)
  intro serial
  rw [unread]
  exact counts_after (quiet_log _) fun _ => counts_count ⟨rfl, rfl, rfl⟩

/-- A message that can be read is counted in its attempts. -/
theorem Attempts.countsOnce {tries : List (Entry Nat Outcome)} {value : Json.Value}
    (blind : ∀ {w met}, aside w met → met.clock = w.clock)
    (safe : IsSafe e.before.clock settings.thresholdNanos)
    (readable : Json.readValue e.event.payload = .ok value)
    (attempts : Attempts settings aside e tries) :
    ∃ verdict, CountsOnce e.event.lane tries e.deeds e.ending verdict := by
  cases attempts with
  | unread unread => cases readable.symm.trans unread
  | read read numbers arrives tried goesOn =>
      cases readable.symm.trans read
      obtain ⟨same, _⟩ := (quiet_perform rfl).of_takes blind numbers
      obtain ⟨same', _⟩ := (quiet_log _).of_takes blind arrives
      obtain ⟨verdict, ends, counts, failed⟩ := tried.countsOnce blind (by rwa [same', same])
      have lane : e.event.lane = (Job.ofMessage value).kind.lane := by rw [Inbound.lane, readable]; rfl
      exact ⟨verdict, ends, by rw [goesOn, lane, ← counts]; rfl, failed⟩

/-- Every message is counted once. -/
theorem Entry.isCounted_of_takes (blind : ∀ {w met}, aside w met → met.clock = w.clock)
    (safe : IsSafe e.before.clock settings.thresholdNanos)
    (takes : (handleMessage settings e.event).Takes aside e.before e.deeds e.after e.ending) :
    ∃ verdict, e.IsCounted settings aside verdict := by
  cases readable : Json.readValue e.event.payload with
  | error why =>
      have lane : e.event.lane = .other := by rw [Inbound.lane, readable]
      obtain ⟨_, counts, ends⟩ := (counts_unread readable).of_takes blind takes
      refine ⟨.failed, ends, lane ▸ counts, exists_attempts takes, fun tries _ => ?_⟩
      exact iff_of_true rfl (.inl ⟨why, readable⟩)
  | ok value =>
      obtain ⟨tries, attempts⟩ := exists_attempts takes
      obtain ⟨verdict, ends, counts, _⟩ := attempts.countsOnce blind safe readable
      refine ⟨verdict, ends, counts, ⟨tries, attempts⟩, fun others attempts => ?_⟩
      -- whichever way the run is seen, it has made the same counts
      obtain ⟨same, _, counts', failed⟩ := attempts.countsOnce blind safe readable
      cases counts.symm.trans counts'
      simp [failed, readable]

end

/-! ## Tallies -/

/-- What the tallies show of a message that was handled: it was dealt with, and of all the counts one
has grown, by one. -/
structure Entry.Grows (e : Entry Inbound Unit) (verdict : Verdict) : Prop where
  count : ∀ event outcome, e.after.tally.count event outcome =
    e.before.tally.count event outcome +
      if (event, outcome) = (e.event.lane.text, verdict.text) then 1 else 0
  total : e.after.tally.total = e.before.tally.total + 1

section

variable {settings : Settings} {aside : World → World → Prop} {e : Entry Inbound Unit}
  {verdict : Verdict} {start w : World} {history : List (Entry Inbound Unit)}

theorem Entry.IsCounted.grows (isCounted : e.IsCounted settings aside verdict)
    (counted : e.before.Counted (countsOf e.deeds) e.after)
    (ascending : IsAscending labelsBefore e.before.tally.handled) : e.Grows verdict := by
  rw [isCounted.counts] at counted
  constructor
  · intro event outcome
    rw [Tally.count, counted.handled]
    exact countUnder_addOne isOrder_labelsBefore ascending
  · rw [Tally.total, counted.handled]
    exact totalCount_addOne _ _ _

theorem isAscending_countAll (counts : List (Lane × Verdict))
    {handled : List ((String × String) × Nat)} (ascending : IsAscending labelsBefore handled) :
    IsAscending labelsBefore (countAll counts handled) := by
  induction counts generalizing handled with
  | nil => exact ascending
  | cons c rest ih => exact ih (isAscending_addOne isOrder_labelsBefore _ ascending)

/-- The counts stay in their order, whatever is handled. -/
theorem Handled.isAscending {ε α : Type} {handler : ε → Flow α} {history : List (Entry ε α)}
    (handled : Handled handler World.Uncounted start history w)
    (ascending : IsAscending labelsBefore start.tally.handled) :
    IsAscending labelsBefore w.tally.handled :=
  handled.invariant (IsAscending labelsBefore ·.tally.handled) ascending
    (fun aside ascending => aside.handled ▸ ascending)
    (fun takes _ ascending => takes.counted.handled ▸ isAscending_countAll _ ascending)

namespace Handled

variable (handled : Handled (handleMessage settings) World.Uncounted start history w)
include handled

theorem clock_handleMessage : w.clock = start.clock :=
  handled.invariant (·.clock = start.clock) rfl (fun aside same => aside.clock.trans same)
    (fun takes _ same => takes.counted.clock.trans same)

end Handled

/-- What a run over messages does to the tallies. -/
structure MessagesCounted (settings : Settings) (start : World)
    (history : List (Entry Inbound Unit)) (w : World) : Prop where
  /-- Every message is counted once, and one count grows. -/
  each : ∀ e ∈ history, ∃ verdict, e.IsCounted settings World.Uncounted verdict ∧ e.Grows verdict
  /-- The counts add up to the number of messages. -/
  total : w.tally.total = start.tally.total + history.length

/-- In every run over messages, while anything else goes on that neither counts messages nor changes the
clock, every message is counted once. -/
theorem messages_counted
    (handled : Handled (handleMessage settings) World.Uncounted start history w)
    (ascending : IsAscending labelsBefore start.tally.handled)
    (safe : IsSafe start.clock settings.thresholdNanos) :
    MessagesCounted settings start history w := by
  induction handled with
  | start => exact ⟨fun e mem => absurd mem List.not_mem_nil, rfl⟩
  | aside before others ih =>
      refine ⟨ih.each, ?_⟩
      rw [Tally.total, others.handled]
      exact ih.total
  | @event history e before takes ih =>
      obtain ⟨verdict, isCounted⟩ := Entry.isCounted_of_takes World.Counted.clock
        (before.clock_handleMessage ▸ safe) takes
      have grows := isCounted.grows takes.counted (before.isAscending ascending)
      constructor
      · rw [List.forall_mem_append, List.forall_mem_singleton]
        exact ⟨ih.each, verdict, isCounted, grows⟩
      · rw [grows.total, ih.total, List.length_append, List.length_singleton, Nat.add_assoc]

end

namespace Sample

/-- Two attempts at a message. -/
def twice : Settings where
  retries := 1

/-- A world whose clock has stopped and whose store refuses the first call. -/
def shaken : World where
  clock _ := ⟨0, 0⟩
  outage n := n == 0
  buffer := Buffer.ofCapacity 2 10 1000
  evaluations := { name := "evaluations" }
  audits := { name := "audits" }
  requests := { name := "requests" }

/-- A message that cannot be read. -/
def unread : Entry Inbound Unit :=
  .ofRun (handleMessage twice) ⟨0, Text.payload "[delete"⟩ shaken

/-- A deletion that is done in the second attempt. -/
def repeated : Entry Inbound Unit :=
  .ofRun (handleMessage twice) ⟨1, Text.payload "\x7b\"type\":\"delete\",\"id\":\"h\"\x7d"⟩ unread.after

theorem handled_messages :
    Handled (handleMessage twice) World.Uncounted shaken [unread, repeated] repeated.after :=
  (Handled.start.run World.uncounted_after _).run World.uncounted_after _

theorem isSafe_shaken : IsSafe shaken.clock twice.thresholdNanos := by
  intro n
  change ((⟨0, 0⟩ : Instant).earlier? twice.thresholdNanos).isSome
  decide +kernel

end Sample

theorem messages_counted_sample :
    MessagesCounted Sample.twice Sample.shaken [Sample.unread, Sample.repeated]
        Sample.repeated.after ∧
      Sample.repeated.after.tally.handled =
        [(("delete", "warn-no-rows"), 1), (("other", "error-processing"), 1)] :=
  ⟨messages_counted Sample.handled_messages List.Pairwise.nil Sample.isSafe_shaken,
    by decide +kernel⟩

end FleetRoster
