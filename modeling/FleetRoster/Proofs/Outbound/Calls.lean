import FleetRoster.Proofs.Buffer.Flush
import FleetRoster.Proofs.Outbound.Attempts
import FleetRoster.Proofs.Requests.Service
import FleetRoster.Proofs.Tally.Labels
import FleetRoster.Proofs.World.Pairs

/-!
# Calls and counts

Whoever sends anything offers a batch to one of the topics, and a batch that is refused is to be
counted under the name of its topic. Between two worlds there were some calls and some counts, and
these alone say what the topics have received and how many failed sends were counted. Most effects
make neither.
-/

namespace FleetRoster

open Calendar (Instant)

/-- The attempts on a channel among calls on all of them. -/
def attemptsOn (channel : Channel) (calls : List (Channel × Attempt)) : List Attempt :=
  (calls.filter (·.1 = channel)).map (·.2)

/-- The call that an offer of a batch makes, which is none if there are no messages. -/
def callOf (channel : Channel) (batch : List String) (taken : Bool) : List (Channel × Attempt) :=
  (Attempt.offered batch taken).map fun attempt => (channel, attempt)

theorem attemptsOn_append (channel : Channel) (calls more : List (Channel × Attempt)) :
    attemptsOn channel (calls ++ more) = attemptsOn channel calls ++ attemptsOn channel more := by
  simp [attemptsOn]

theorem attemptsOn_callOf (other channel : Channel) (batch : List String) (taken : Bool) :
    attemptsOn other (callOf channel batch taken) =
      if other = channel then Attempt.offered batch taken else [] := by
  by_cases same : other = channel
  · subst same
    simp [attemptsOn, callOf, List.filter_map, Function.comp_def]
  · simp [attemptsOn, callOf, List.filter_map, Function.comp_def, same, Ne.symm same]

/-! ## Counts of failed sends -/

/-- The count that goes with an offer, which is none if it was taken. -/
def countOf (channel : Channel) (taken : Bool) : List Channel :=
  if taken then [] else [channel]

/-- A count goes with the offers that are refused and no other. A batch without messages is not
refused. -/
theorem refused_callOf (t : Topic) (other channel : Channel) (batch : List String) :
    (attemptsOn other (callOf channel batch (t.write batch).2.toBool)).countP (!·.taken) =
      (countOf channel (t.write batch).2.toBool).count other := by
  rw [attemptsOn_callOf]
  by_cases empty : batch = []
  · subst empty
    by_cases same : other = channel
    · rw [if_pos same]
      rfl
    · rw [if_neg same]
      rfl
  · have made : ∀ taken, Attempt.offered batch taken = [⟨batch, taken⟩] := fun _ =>
      if_neg (by simpa using empty)
    by_cases same : other = channel
    · cases taken : (t.write batch).2.toBool <;> simp [countOf, made, same]
    · cases taken : (t.write batch).2.toBool <;> simp [countOf, same, Ne.symm same]

/-- The counts of failed sends after some more were counted under the names of their channels. -/
def countSends (name : Channel → String) (counted : List Channel) (sends : List (String × Nat)) :
    List (String × Nat) :=
  counted.foldl (fun sends channel => addOne (fun a b => a < b) (name channel) sends) sends

/-- Where the names are distinct, every count is found under the name of its channel. -/
theorem countUnder_countSends {name : Channel → String} (distinct : Function.Injective name)
    (channel : Channel) (counted : List Channel) {sends : List (String × Nat)}
    (ascending : IsAscending (fun a b : String => decide (a < b)) sends) :
    countUnder (name channel) (countSends name counted sends) =
      countUnder (name channel) sends + counted.count channel := by
  induction counted generalizing sends with
  | nil => rfl
  | cons first rest ih =>
      refine (ih (isAscending_addOne isOrder_text (name first) ascending)).trans ?_
      rw [countUnder_addOne isOrder_text ascending]
      by_cases same : channel = first
      · rw [if_pos (congrArg name same), same, List.count_cons_self, Nat.add_right_comm,
          Nat.add_assoc]
      · rw [if_neg fun named => same (distinct named), List.count_cons_of_ne (Ne.symm same),
          Nat.add_zero]

namespace World

/-! ## From one world to another -/

/-- From one world to another there were these calls, in this order, and these failed sends were
counted. The topics keep their names. -/
structure Conveys (w : World) (calls : List (Channel × Attempt)) (counted : List Channel)
    (w' : World) : Prop where
  name : ∀ channel, (w'.topic channel).name = (w.topic channel).name
  received : ∀ channel, (w.topic channel).Received (w'.topic channel) (attemptsOn channel calls)
  failedSends : w'.tally.failedSends =
    countSends (fun channel => (w.topic channel).name) counted w.tally.failedSends

variable {w w' w'' : World} {calls more : List (Channel × Attempt)} {counted further : List Channel}

theorem Conveys.refl (w : World) : w.Conveys [] [] w :=
  ⟨fun _ => rfl, fun _ => .refl _, rfl⟩

theorem Conveys.trans (first : w.Conveys calls counted w') (second : w'.Conveys more further w'') :
    w.Conveys (calls ++ more) (counted ++ further) w'' where
  name channel := (second.name channel).trans (first.name channel)
  received channel := by
    rw [attemptsOn_append]
    exact (first.received channel).trans (second.received channel)
  failedSends := by
    have names : (fun channel => (w'.topic channel).name) = fun channel => (w.topic channel).name :=
      funext first.name
    rw [second.failedSends, first.failedSends, names, countSends, countSends, countSends,
      List.foldl_append]

/-- Nothing was sent and no failure counted, but topics may have changed their mind about what they
take. -/
structure StandsBy (w w' : World) : Prop where
  name : ∀ channel, (w'.topic channel).name = (w.topic channel).name
  rests : ∀ channel, (w.topic channel).Rests (w'.topic channel)
  failedSends : w'.tally.failedSends = w.tally.failedSends

theorem StandsBy.trans (first : w.StandsBy w') (second : w'.StandsBy w'') : w.StandsBy w'' where
  name channel := (second.name channel).trans (first.name channel)
  rests channel := (first.rests channel).trans (second.rests channel)
  failedSends := second.failedSends.trans first.failedSends

theorem StandsBy.conveys (standsBy : w.StandsBy w') : w.Conveys [] [] w' where
  name := standsBy.name
  received channel := (Topic.Received.refl _).rests (standsBy.rests channel)
  failedSends := standsBy.failedSends

/-- Where the topics and the counts of failed sends are the same, nothing was sent. -/
theorem StandsBy.of_same (evaluations : w'.evaluations = w.evaluations)
    (audits : w'.audits = w.audits) (requests : w'.requests = w.requests)
    (failedSends : w'.tally.failedSends = w.tally.failedSends) : w.StandsBy w' := by
  have topics : ∀ channel, w'.topic channel = w.topic channel := by
    intro channel
    cases channel with
    | evaluations => exact evaluations
    | audits => exact audits
    | requests => exact requests
  exact ⟨fun channel => congrArg Topic.name (topics channel),
    fun channel => topics channel ▸ .refl _, failedSends⟩

theorem StandsBy.refl (w : World) : w.StandsBy w :=
  .of_same rfl rfl rfl rfl

/-! ## Single effects -/

/-- Sending offers a batch to the topic of one channel. -/
theorem conveys_send (w : World) (channel : Channel) (batch : List String) :
    w.Conveys (callOf channel batch (w.send channel batch).2.toBool) []
      (w.send channel batch).1 := by
  have name : ((w.topic channel).write batch).1.name = (w.topic channel).name := by
    unfold Topic.write
    split
    · rfl
    · split <;> rfl
  constructor
  case name =>
    intro other
    change ((w.setTopic channel ((w.topic channel).write batch).1).topic other).name = _
    rw [topic_setTopic]
    by_cases same : other = channel
    · rw [if_pos same, name, same]
    · rw [if_neg same]
  case received =>
    intro other
    change Topic.Received _ ((w.setTopic channel ((w.topic channel).write batch).1).topic other) _
    rw [topic_setTopic, attemptsOn_callOf]
    by_cases same : other = channel
    · subst same
      rw [if_pos rfl, if_pos rfl]
      exact (Topic.Received.refl _).offer batch
    · rw [if_neg same, if_neg same]
      exact .refl _
  case failedSends => cases channel <;> rfl

/-- What is sent with the time on it is sent like anything else. -/
theorem conveys_sendStamped (w : World) (channel : Channel) (batch : Instant → List String) :
    w.Conveys (callOf channel (batch (w.clock w.readings))
        (w.readClock.1.send channel (batch w.readClock.2)).2.toBool) []
      (w.readClock.1.send channel (batch w.readClock.2)).1 := by
  have read : w.StandsBy w.readClock.1 := .of_same rfl rfl rfl rfl
  exact read.conveys.trans (w.readClock.1.conveys_send channel (batch w.readClock.2))

theorem conveys_countFailedSend (w : World) (channel : Channel) :
    w.Conveys [] [channel] (w.countFailedSend channel) where
  name other := by cases other <;> rfl
  received other := by cases other <;> exact .refl _
  failedSends := rfl

theorem standsBy_note (w : World) (notice : Notice) : w.StandsBy (w.note notice) :=
  .of_same rfl rfl rfl rfl

/-- A send that is refused is logged and counted. -/
theorem Conveys.unsent (sent : w.Conveys calls [] w') (notice : Notice) (channel : Channel) :
    w.Conveys calls [channel] ((w'.note notice).countFailedSend channel) := by
  have counted := (sent.trans (w'.standsBy_note notice).conveys).trans
    ((w'.note notice).conveys_countFailedSend channel)
  rwa [List.append_nil, List.append_nil] at counted

end World

/-! ## Effects -/

/-- The channel of the failed send that an effect counts. -/
def Effect.countedSend? : Effect → Option Channel
  | .countFailedSend channel => some channel
  | _ => none

/-- An effect that puts an upload into the buffer, which may be flushed. -/
def Effect.IsAddition : Effect → Prop
  | .buffer _ _ => True
  | _ => False

namespace World

/-- The calls that an effect makes in a world. Those of a flush are not among them. -/
def callsIn (w : World) : Effect → List (Channel × Attempt)
  | .sendAudit audit =>
      callOf .audits (auditTexts [audit] (w.clock w.readings)) (w.sendAudits [audit]).2.toBool
  | .sendTargets targets batchSize =>
      callOf .requests (requestTexts targets batchSize (w.clock w.readings))
        (w.sendTargets targets batchSize).2.toBool
  | _ => []

theorem standsBy_call (w : World) (call : Store.Call) : w.StandsBy (w.call call).1 := by
  unfold World.call
  by_cases out : w.outage w.calls
  · rw [if_pos out]
    exact .of_same rfl rfl rfl rfl
  · rw [if_neg out]
    exact .of_same rfl rfl rfl rfl

theorem standsBy_remember (w : World) (org : String) (account : Int) :
    w.StandsBy (w.remember org account).1 := by
  unfold World.remember
  split
  · exact .refl w
  · exact .of_same rfl rfl rfl rfl

/-- What happens in an effect that adds nothing to the buffer makes its calls and its count. -/
theorem conveys_happen {effect : Effect} (other : ¬ effect.IsAddition) (w : World) :
    w.Conveys (w.callsIn effect) effect.countedSend?.toList (World.happen effect w).1 := by
  cases effect with
  | now => exact StandsBy.conveys (.of_same rfl rfl rfl rfl)
  | next series =>
      cases series with
      | messages => exact StandsBy.conveys (.of_same rfl rfl rfl rfl)
      | lookups => exact StandsBy.conveys (.of_same rfl rfl rfl rfl)
  | store call => exact (w.standsBy_call call).conveys
  | known org => exact .refl w
  | remember org account => exact (w.standsBy_remember org account).conveys
  | buffer item audit => exact absurd trivial other
  | sendAudit audit => exact w.conveys_sendStamped .audits (auditTexts [audit])
  | sendTargets targets batchSize =>
      exact w.conveys_sendStamped .requests (requestTexts targets batchSize)
  | count lane verdict =>
      exact StandsBy.conveys (.of_same rfl rfl rfl rfl)
  | countFailedSend channel => exact w.conveys_countFailedSend channel
  | log notice => exact (w.standsBy_note notice).conveys
  | sleep ms => exact .refl w

/-! ## Flushes -/

/-- Sending the uploads makes one call, and counts it if it is refused. -/
theorem conveys_flushItems (w : World) :
    w.Conveys (callOf .evaluations w.evaluationsDue w.flushItems.2.toBool)
      (countOf .evaluations w.flushItems.2.toBool) w.flushItems.1 := by
  have sent : w.Conveys (callOf .evaluations w.evaluationsDue
      (w.sendItems w.buffer.items w.buffer.batchSize).2.toBool) []
        (w.sendItems w.buffer.items w.buffer.batchSize).1 :=
    w.conveys_sendStamped .evaluations (evaluationTexts w.buffer.items w.buffer.batchSize)
  simp only [flushItems]
  generalize w.sendItems w.buffer.items w.buffer.batchSize = result at sent
  rcases result with ⟨met, why | count⟩
  · exact sent.unsent _ .evaluations
  · exact sent

/-- Sending the audit events makes a call if there are any that can be followed, and counts it if it
is refused. -/
theorem conveys_flushAudits (w : World) :
    w.Conveys (callOf .audits w.auditsDue w.flushAudits.2.toBool)
      (countOf .audits w.flushAudits.2.toBool) w.flushAudits.1 := by
  have sent : w.Conveys (callOf .audits w.auditsDue (w.sendAudits w.buffer.audits).2.toBool) []
      (w.sendAudits w.buffer.audits).1 :=
    w.conveys_sendStamped .audits (auditTexts w.buffer.audits)
  simp only [flushAudits]
  generalize w.sendAudits w.buffer.audits = result at sent
  rcases result with ⟨met, why | count⟩
  · exact sent.unsent _ .audits
  · exact sent

end World

end FleetRoster
