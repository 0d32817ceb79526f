import Mathlib.Data.List.Forall2
import FleetRoster.Proofs.Flow.History
import FleetRoster.Proofs.Flow.Runs
import FleetRoster.Proofs.Outbound.Attempts
import FleetRoster.Proofs.Outbound.Evaluations
import FleetRoster.Proofs.Outbound.Wire
import FleetRoster.Proofs.Tally.Labels
import FleetRoster.RequestQueue

/-!
# What a request leads to

A request that names systems, or of which the store finds some, is offered to its topic in one
attempt with the messages for all of them; any other request is not offered at all. An attempt that
is refused leaves no message and is counted as one failed send. Whatever happens, the work on a
request comes to its end.
-/

namespace FleetRoster

open Calendar (Instant)
open FleetRoster.Flow
open Relation (ReflTransGen)

/-! ## Sends -/

/-- The counts of failed sends are in the order of the topics. -/
def Tally.IsOrdered (t : Tally) : Prop :=
  IsAscending (fun a b : String => decide (a < b)) t.failedSends

/-- From one world to another there were these attempts to send what was requested, and as long as the
counts are in order, which they remain, so many failed sends were counted under the name of the topic. -/
structure World.Sends (w : World) (attempts : List Attempt) (failures : Nat) (w' : World) :
    Prop where
  name : w'.requests.name = w.requests.name
  received : w.requests.Received w'.requests attempts
  ordered : w.tally.IsOrdered → w'.tally.IsOrdered
  failures : w.tally.IsOrdered → w'.tally.failedSendsTo w.requests.name =
    w.tally.failedSendsTo w.requests.name + failures

/-- Nothing was sent that was requested, and no failure of such a send was counted. -/
def World.Elsewhere (w w' : World) : Prop :=
  w.Sends [] 0 w'

namespace World

variable {w w' w'' : World} {attempts more : List Attempt} {failures further : Nat}

theorem Sends.refl (w : World) : w.Sends [] 0 w :=
  ⟨rfl, .refl _, id, fun _ => rfl⟩

theorem Sends.trans (first : w.Sends attempts failures w')
    (second : w'.Sends more further w'') :
    w.Sends (attempts ++ more) (failures + further) w'' where
  name := second.name.trans first.name
  received := first.received.trans second.received
  ordered := second.ordered ∘ first.ordered
  failures := by
    intro ordered
    have counted := second.failures (first.ordered ordered)
    rw [first.name] at counted
    rw [counted, first.failures ordered, Nat.add_assoc]

/-- Others may go on after something was sent. -/
theorem Sends.elsewhere (sends : w.Sends attempts failures w') (others : w'.Elsewhere w'') :
    w.Sends attempts failures w'' := by
  simpa using sends.trans others

/-- Others may have gone on before something was sent. -/
theorem Elsewhere.sends (others : w.Elsewhere w') (sends : w'.Sends attempts failures w'') :
    w.Sends attempts failures w'' := by
  simpa using Sends.trans others sends

theorem Elsewhere.trans (first : w.Elsewhere w') (second : w'.Elsewhere w'') : w.Elsewhere w'' :=
  Sends.elsewhere first second

theorem elsewhere_of_reflTransGen (others : ReflTransGen Elsewhere w w') : w.Elsewhere w' := by
  induction others with
  | refl => exact .refl w
  | tail _ step ih => exact ih.trans step

theorem elsewhere_note (w : World) (notice : Notice) : w.Elsewhere (w.note notice) :=
  ⟨rfl, .refl _, id, fun _ => rfl⟩

theorem elsewhere_call (w : World) (call : Store.Call) : w.Elsewhere (w.call call).1 := by
  unfold World.call
  by_cases out : w.outage w.calls
  · rw [if_pos out]
    exact ⟨rfl, .refl _, id, fun _ => rfl⟩
  · rw [if_neg out]
    exact ⟨rfl, .refl _, id, fun _ => rfl⟩

/-- A failed send is counted once. -/
theorem sends_countFailedSend (w : World) : w.Sends [] 1 (w.countFailedSend .requests) where
  name := rfl
  received := .refl _
  ordered := isAscending_addOne isOrder_text _
  failures := by
    intro ordered
    rw [Tally.failedSendsTo, countFailedSend, Tally.recordFailedSend,
      countUnder_addOne isOrder_text ordered]
    simp [Tally.failedSendsTo, topic]

end World

/-! ## Messages -/

/-- The texts of the messages for systems that were requested. -/
def requestTexts (targets : List Target) (batchSize : Nat) (now : Instant) : List String :=
  (Evaluation.ofTargets targets batchSize now).map (·.toValue.text)

/-- There is a message as soon as there is a system. -/
theorem requestTexts_ne_nil {targets : List Target} (some : targets ≠ []) (batchSize : Nat)
    (now : Instant) : requestTexts targets batchSize now ≠ [] := by
  obtain ⟨target, rest, rfl⟩ := List.exists_cons_of_ne_nil some
  intro none
  simp only [requestTexts, Evaluation.ofTargets, List.map_eq_nil_iff, List.flatMap_eq_nil_iff,
    mem_ascending, pieces_eq_nil_iff] at none
  have group := none target.account (by simp)
  simp at group

/-- Sending systems makes one attempt with the messages for them. -/
theorem World.sends_sendTargets (w : World) {targets : List Target} (some : targets ≠ [])
    (batchSize : Nat) :
    w.Sends [⟨requestTexts targets batchSize (w.clock w.readings),
        (w.sendTargets targets batchSize).2.toBool⟩] 0 (w.sendTargets targets batchSize).1 where
  name := by
    change (w.requests.write (requestTexts targets batchSize (w.clock w.readings))).1.name = _
    unfold Topic.write
    split
    · rfl
    · split <;> rfl
  received := (Topic.Received.refl w.requests).write (requestTexts_ne_nil some _ _)
  ordered := id
  failures _ := rfl

/-! ## Requests -/

/-- The systems that a request has come to: those that it names, or those that the store has found,
which are none where the store refused to look. -/
def Request.targets : Request → List Deed → List Target
  | .systems targets, _ => targets
  | .baseline _ _, ⟨.store (.systemsForBaseline _ _), .ok targets⟩ :: _ => targets
  | .baseline _ _, _ => []

/-- The attempts to send systems: none without systems, and otherwise one with the messages for all of
them, which are found in it by whoever reads it. -/
inductive Offers (batchSize : Nat) (targets : List Target) : List Attempt → Prop
  | nothing (none : targets = []) : Offers batchSize targets []
  | once (some : targets ≠ []) (now : Instant) (batch : List String) (taken : Bool)
      (messages : List.Forall₂ Evaluation.IsReadFrom (Evaluation.ofTargets targets batchSize now)
        batch) : Offers batchSize targets [⟨batch, taken⟩]

theorem forall₂_requestTexts (targets : List Target) (batchSize : Nat) (now : Instant) :
    List.Forall₂ Evaluation.IsReadFrom (Evaluation.ofTargets targets batchSize now)
      (requestTexts targets batchSize now) := by
  rw [requestTexts, List.forall₂_map_right_iff, List.forall₂_same]
  exact fun m _ => m.isReadFrom_text

/-- What the work on a request came to. -/
structure Entry.Served (batchSize : Nat) (e : Entry Request Unit) : Prop where
  ends : e.ending = .done ()
  /-- The systems of a baseline are looked up first, as they are by then. -/
  looks : ∀ account assigned, e.event = .baseline account assigned → ∃ met rest,
    e.before.Elsewhere met ∧ e.deeds = ⟨.store (.systemsForBaseline account assigned),
      (World.call met (.systemsForBaseline account assigned)).2⟩ :: rest
  /-- They are offered at most once, and each failure is counted. -/
  offers : ∃ attempts, Offers batchSize (e.event.targets e.deeds) attempts ∧
    e.before.Sends attempts (attempts.countP (!·.taken)) e.after

section

variable {batchSize : Nat} {targets : List Target} {w w' : World} {deeds : List Deed}
  {ending : Ending Unit}

theorem idle_sendRequested
    (takes : (sendRequested batchSize []).Takes World.Elsewhere w deeds w' ending) :
    ending = .done () ∧ w.Sends [] 0 w' := by
  obtain ⟨_, ended, others⟩ := Takes.of_stop takes
  exact ⟨ended, World.elsewhere_of_reflTransGen others⟩

/-- A line of the log sends nothing. -/
theorem idle_log {notice : Notice}
    (takes : (log notice).Takes World.Elsewhere w deeds w' ending) :
    ending = .done () ∧ w.Sends [] 0 w' := by
  obtain ⟨met, _, others, _, rest⟩ := Takes.of_ask takes
  obtain ⟨_, ended, later⟩ := Takes.of_stop rest
  have noted : w.Elsewhere (met.note notice) :=
    (World.elsewhere_of_reflTransGen others).trans (met.elsewhere_note notice)
  exact ⟨ended, noted.trans (World.elsewhere_of_reflTransGen later)⟩

/-- A failure is logged and counted. -/
theorem sends_failure {notice : Notice}
    (takes : (log notice >>= fun _ => perform (.countFailedSend .requests)).Takes World.Elsewhere w
      deeds w' ending) : ending = .done () ∧ w.Sends [] 1 w' := by
  obtain ⟨_, met, _, logs, _, counts⟩ := takes.of_perform
  obtain ⟨_, noted⟩ := idle_log logs
  obtain ⟨counting, _, others, _, rest⟩ := Takes.of_ask counts
  obtain ⟨_, ended, later⟩ := Takes.of_stop rest
  have counted : w.Sends [] 1 (counting.countFailedSend .requests) :=
    (World.Elsewhere.trans noted (World.elsewhere_of_reflTransGen others)).sends
      counting.sends_countFailedSend
  exact ⟨ended, counted.elsewhere (World.elsewhere_of_reflTransGen later)⟩

/-- Systems are offered in one attempt. -/
theorem sends_offer (some : targets ≠ []) {answer : Except Fault Nat}
    (takes : (perform (.sendTargets targets batchSize)).Takes World.Elsewhere w deeds w'
      (.done answer)) :
    ∃ now, w.Sends [⟨requestTexts targets batchSize now, answer.toBool⟩] 0 w' := by
  obtain ⟨met, _, others, _, rest⟩ := Takes.of_ask takes
  obtain ⟨_, answered, later⟩ := Takes.of_stop rest
  cases answered
  have sent := (World.elsewhere_of_reflTransGen others).sends
    (met.sends_sendTargets some batchSize)
  exact ⟨_, sent.elsewhere (World.elsewhere_of_reflTransGen later)⟩

/-- Systems are offered at most once, and a failure is counted. -/
theorem offers_sendRequested
    (takes : (sendRequested batchSize targets).Takes World.Elsewhere w deeds w' ending) :
    ending = .done () ∧ ∃ attempts, Offers batchSize targets attempts ∧
      w.Sends attempts (attempts.countP (!·.taken)) w' := by
  by_cases none : targets = []
  · subst none
    obtain ⟨ended, idle⟩ := idle_sendRequested takes
    exact ⟨ended, [], .nothing rfl, idle⟩
  · have notEmpty : ¬ targets.isEmpty := by simpa using none
    rw [sendRequested, if_neg notEmpty] at takes
    obtain ⟨answer, met, _, offers, _, goesOn⟩ := takes.of_perform
    obtain ⟨now, sent⟩ := sends_offer none offers
    cases answer with
    | ok count =>
        obtain ⟨ended, noted⟩ := idle_log goesOn
        exact ⟨ended, _, .once none now _ true (forall₂_requestTexts _ _ _), sent.elsewhere noted⟩
    | error why =>
        obtain ⟨ended, counted⟩ := sends_failure goesOn
        exact ⟨ended, _, .once none now _ false (forall₂_requestTexts _ _ _), sent.trans counted⟩

/-- The work on a request comes to its end, with one attempt where there is something to send. -/
theorem Entry.served_of_takes {e : Entry Request Unit}
    (takes : (processRequest batchSize e.event).Takes World.Elsewhere e.before e.deeds e.after
      e.ending) : e.Served batchSize := by
  rcases e with ⟨request, before, deeds, after, ending⟩
  cases request with
  | systems targets =>
      obtain ⟨ends, offers⟩ := offers_sendRequested takes
      exact ⟨ends, by simp, offers⟩
  | baseline account assigned =>
      obtain ⟨met, more, others, split, goesOn⟩ := Takes.of_attemptStore takes
      have waited : before.Elsewhere met := World.elsewhere_of_reflTransGen others
      have called := waited.trans (met.elsewhere_call (.systemsForBaseline account assigned))
      have looks : ∀ account' assigned', Request.baseline account assigned =
          .baseline account' assigned' → ∃ met rest, before.Elsewhere met ∧ deeds =
            ⟨.store (.systemsForBaseline account' assigned'),
              (World.call met (.systemsForBaseline account' assigned')).2⟩ :: rest := by
        rintro _ _ ⟨⟩
        exact ⟨met, more, waited, split⟩
      cases answered : (World.call met (.systemsForBaseline account assigned)).2 with
      | error why =>
          rw [answered] at split goesOn
          cases split
          obtain ⟨ends, noted⟩ := idle_log goesOn
          exact ⟨ends, looks, [], .nothing rfl, called.trans noted⟩
      | ok targets =>
          rw [answered] at split goesOn
          cases split
          obtain ⟨ends, attempts, offers, sends⟩ := offers_sendRequested goesOn
          exact ⟨ends, looks, attempts, offers, called.sends sends⟩

end

/-- What a run over requests has sent: the attempts of each request, one after the other. -/
theorem Handled.sends {batchSize : Nat} {start w : World} {history : List (Entry Request Unit)}
    (handled : Handled (processRequest batchSize) World.Elsewhere start history w) :
    ∃ attempts : List (List Attempt),
      List.Forall₂ (fun e offered => Offers batchSize (e.event.targets e.deeds) offered) history
        attempts ∧
      start.Sends attempts.flatten (attempts.flatten.countP (!·.taken)) w := by
  induction handled with
  | start => exact ⟨[], .nil, .refl start⟩
  | aside before others ih =>
      obtain ⟨attempts, offered, sends⟩ := ih
      exact ⟨attempts, offered, sends.elsewhere others⟩
  | event before takes ih =>
      obtain ⟨attempts, offered, sends⟩ := ih
      obtain ⟨last, offers, sent⟩ := (Entry.served_of_takes takes).offers
      refine ⟨attempts ++ [last], List.rel_append offered (.cons offers .nil), ?_⟩
      simpa using sends.trans sent

end FleetRoster
