import Mathlib.Data.List.Forall2
import FleetRoster.Proofs.Handler.Trails
import FleetRoster.Proofs.Outbound.Filing
import FleetRoster.Proofs.Outbound.Tracked

/-!
# The audit trail

The events that the handlers and the event buffer send to the payload tracker. Audit events leave in
two ways: one at a time, when an upload goes no further, or with the rest of the buffer. Either way
those that cannot be followed are held back when they are sent. Whatever else goes on, every attempt
to send some is accounted for by an errand or by a flush, each errand has left the trail of its
duty, and nothing gets through that cannot be followed.
-/

namespace FleetRoster

open Calendar (Instant)
open FleetRoster.Flow

/-! ## What can be followed -/

/-- An audit event has a request, an organization and a date, and the two names are not empty. -/
def Audit.IsComplete (e : Audit) : Prop :=
  ∃ id org date, e.requestId = some id ∧ id ≠ "" ∧ e.org = some org ∧ org ≠ "" ∧
    e.date = some date

/-- An audit event that can be followed is complete once it is dated. -/
theorem Audit.IsNamed.isComplete_dated {e : Audit} (named : e.IsNamed) (now : Instant) :
    (e.dated now).IsComplete := by
  obtain ⟨id, org, requested, idNamed, organized, orgNamed⟩ := named
  exact ⟨id, org, now, requested, idNamed, organized, orgNamed, rfl⟩

/-- Only complete audit events are owed. -/
theorem Audit.isComplete_of_mem_owed {e : Audit} {events : List Audit} {now : Instant}
    (mem : e ∈ Audit.owed events now) : e.IsComplete := by
  obtain ⟨event, _, named, rfl⟩ := mem_owed.mp mem
  exact named.isComplete_dated now

/-- An upload that names its organization can be followed if it came with a request. -/
theorem Report.isTracked_audit {job : Job} {r : Report} (reported : job.report? = some r)
    (status detail : String) :
    (r.audit status detail).isTracked = r.requestId.isSome := by
  unfold Job.report? EventKind.report? at reported
  split at reported
  · obtain ⟨event, _, reported⟩ := Option.bind_eq_some_iff.mp reported
    unfold HostEvent.report? at reported
    split at reported
    · split at reported
      next inventoryId _ _ _ _ organized =>
        cases reported
        exact isTracked_received organized inventoryId
      next => cases reported
    · cases reported
  · cases reported

/-! ## Postings and attempts -/

namespace Posting

/-- The audit event that was to be sent right away. -/
def sent? : Posting → Option Audit
  | sent audit => some audit
  | queued _ _ => none

/-- What was put into the buffer. -/
def queued? : Posting → Option (Item × Audit)
  | sent _ => none
  | queued item audit => some (item, audit)

end Posting

/-- An attempt to send one audit event, which is found in the message with the date of the
attempt. -/
def Attempt.Carries (a : Attempt) (audit : Audit) : Prop :=
  audit.IsNamed ∧ ∃ now message, a.batch = [message] ∧ (audit.dated now).IsReadFrom message

theorem Attempt.exists_carries {audits : List Audit} {attempts : List Attempt}
    (carry : List.Forall₂ (fun audit a => Attempt.Carries a audit) audits attempts) {a : Attempt}
    (mem : a ∈ attempts) : ∃ audit, a.Carries audit := by
  induction carry with
  | nil => contradiction
  | cons carries _ ih =>
      rcases List.mem_cons.mp mem with rfl | mem
      · exact ⟨_, carries⟩
      · exact ih mem

/-- Each audit event that a flush owes has a message in the attempt to send them. -/
theorem Flushed.forall₂_isReadFrom (f : Flushed) {a : Attempt} (mem : a ∈ f.audits) :
    List.Forall₂ Audit.IsReadFrom f.owed a.batch := by
  rw [Flushed.audits, Attempt.offered] at mem
  split at mem
  · contradiction
  · rw [List.mem_singleton.mp mem, List.forall₂_map_right_iff, List.forall₂_same]
    exact fun e _ => e.isReadFrom_text

theorem queued?_posting? (effect : Effect) :
    effect.posting?.toList.filterMap (·.queued?) = effect.entry?.toList := by
  cases effect with
  | sendAudit audit =>
      simp only [Effect.posting?, Audit.posting?]
      split <;> rfl
  | _ => rfl

/-- An effect attempts to send the audit event that comes of it right away, and no other. -/
theorem carries_callsIn (w : World) (effect : Effect) :
    List.Forall₂ (fun audit a => Attempt.Carries a audit)
      (effect.posting?.toList.filterMap (·.sent?)) (attemptsOn .audits (w.callsIn effect)) := by
  cases effect with
  | sendAudit audit =>
      simp only [Effect.posting?, Audit.posting?, World.callsIn, attemptsOn_callOf, if_true]
      rw [auditTexts_eq_owed]
      by_cases named : audit.IsNamed
      · have one : (Audit.owed [audit] (w.clock w.readings)).map (·.toValue.text) =
            [(audit.dated (w.clock w.readings)).toValue.text] := by
          simp [Audit.owed, named]
        rw [if_pos (Audit.isTracked_iff_isNamed.mpr named), one]
        exact .cons ⟨named, _, _, rfl, Audit.isReadFrom_text _⟩ .nil
      · have none : (Audit.owed [audit] (w.clock w.readings)).map (·.toValue.text) = [] := by
          simp [Audit.owed, named]
        rw [if_neg (mt Audit.isTracked_iff_isNamed.mp named), none]
        exact .nil
  | sendTargets targets batchSize =>
      simp only [Effect.posting?, World.callsIn, attemptsOn_callOf]
      exact .nil
  | _ => exact .nil

/-- No effect sends uploads, other than by a flush. -/
theorem attemptsOn_evaluations_callsIn (w : World) (effect : Effect) :
    attemptsOn .evaluations (w.callsIn effect) = [] := by
  cases effect with
  | sendAudit audit => exact attemptsOn_callOf _ _ _ _
  | sendTargets targets batchSize => exact attemptsOn_callOf _ _ _ _
  | _ => rfl

/-! ## Duties -/

/-- What comes of a duty that is done, and how it ends. -/
inductive Duty.Tells : Duty → List Deed → Ending (Option Outcome) → Prop
  /-- A message is attempted, and each attempt leaves one of the trails of its event. -/
  | message {settings : Settings} {e : Entry Inbound Unit} {tries : List (Entry Nat Outcome)}
      (attempts : Attempts settings (fun _ _ => True) e tries) (trailed : e.Trailed tries) :
      Tells (.message settings e.event) e.deeds (e.ending.map fun _ => none)
  | event {threshold : Nat} {job : Job} {deeds : List Deed} {ending : Ending Outcome}
      (leaves : job.Leaves (trailOf deeds) ending) :
      Tells (.event threshold job) deeds (ending.map some)
  | request {batchSize : Nat} {r : Request} {deeds : List Deed} {ending : Ending (Option Outcome)}
      (nothing : trailOf deeds = []) : Tells (.request batchSize r) deeds ending
  | entry {item : Item} {audit : Audit} {deeds : List Deed} {ending : Ending (Option Outcome)}
      (own : trailOf deeds = [.queued item audit]) : Tells (.entry item audit) deeds ending

theorem trackless_sendRequested (batchSize : Nat) (targets : List Target) :
    (sendRequested batchSize targets).Only Effect.IsTrackless := by
  have sends : (perform (.sendTargets targets batchSize)).Only Effect.IsTrackless :=
    only_perform rfl
  have counts : (perform (.countFailedSend .requests)).Only Effect.IsTrackless := only_perform rfl
  unfold sendRequested
  split
  · trivial
  · apply sends.bind
    intro answer
    cases answer with
    | ok sent => exact trackless_log _
    | error why => exact (trackless_log _).bind fun _ => counts

theorem trackless_processRequest (batchSize : Nat) (r : Request) :
    (processRequest batchSize r).Only Effect.IsTrackless := by
  cases r with
  | systems targets => exact trackless_sendRequested batchSize targets
  | baseline account assigned =>
      apply (trackless_store _).attempt.bind
      intro answer
      cases answer with
      | ok targets => exact trackless_sendRequested batchSize targets
      | error why => exact trackless_log _

/-- Whoever has done a duty has told what is to be told of it, whatever others did. -/
theorem Duty.tells_of_takes {duty : Duty} {w w' : World} {deeds : List Deed}
    {ending : Ending (Option Outcome)}
    (takes : duty.flow.Takes (fun _ _ => True) w deeds w' ending) : duty.Tells deeds ending := by
  cases duty with
  | message settings inbound =>
      obtain ⟨own, rfl, handled⟩ := Takes.of_map takes
      obtain ⟨tries, attempts⟩ := exists_attempts (e := ⟨inbound, w, deeds, w', own⟩) handled
      exact .message attempts (attempts.trailed handled)
  | event threshold job =>
      obtain ⟨own, rfl, handled⟩ := Takes.of_map takes
      exact .event ((trails_handler threshold job).of_takes handled)
  | request batchSize r =>
      obtain ⟨own, rfl, handled⟩ := Takes.of_map takes
      exact .request ((trackless_processRequest batchSize r).trail handled)
  | entry item audit =>
      obtain ⟨met, more, _, rfl, rest⟩ := Takes.of_ask takes
      obtain ⟨rfl, _, _⟩ := Takes.of_stop rest
      exact .entry rfl

/-! ## Errands and flushes -/

/-- An errand is some way into its duty, and has attempted to send just the audit events that were
to be sent right away. -/
structure Errand.Follows (e : Errand Duty (Option Outcome)) : Prop where
  comes : ∃ w w', e.event.flow.Comes (fun _ _ => True) w e.deeds e.rest w'
  sent : List.Forall₂ (fun audit a => Attempt.Carries a audit)
    ((trailOf e.deeds).filterMap (·.sent?)) (attemptsOn .audits e.calls)

/-- Whatever an effect at the desk answers, it answers in some world. -/
theorem Desk.exists_happen (d : Desk) (met : World) (effect : Effect) :
    ∃ w, (d.act met effect).2 = (World.happen effect w).2 := by
  by_cases addition : effect.IsAddition
  · cases effect with
    | buffer item audit => exact ⟨met, rfl⟩
    | _ => exact addition.elim
  · exact ⟨d.world, by rw [act_of_other addition]⟩

theorem trailOf_snoc (deeds : List Deed) (deed : Deed) :
    trailOf (deeds ++ [deed]) = trailOf deeds ++ deed.effect.posting?.toList := by
  rw [trailOf_append, trailOf_cons]
  exact congrArg _ (List.append_nil _)

namespace Errand

variable {duty : Duty} {effect : Effect} {next : effect.Answer → Flow (Option Outcome)}
  {moves : List Move}

/-- An errand goes on with its duty. -/
theorem Follows.move (follows : Follows ⟨duty, .ask effect next, moves⟩) (d : Desk) (met : World) :
    Follows ⟨duty, next (d.act met effect).2, moves ++
      [⟨⟨effect, (d.act met effect).2⟩, d.world, (d.act met effect).1.world⟩]⟩ := by
  constructor
  case comes =>
    obtain ⟨w, w', comes⟩ := follows.comes
    obtain ⟨own, answered⟩ := d.exists_happen met effect
    have later : duty.flow.Comes (fun _ _ => True) w (deeds ⟨duty, .ask effect next, moves⟩)
        (.ask effect next) own := comes.aside trivial
    have acted := later.ask
    rw [← answered] at acted
    rw [deeds_snoc duty (.ask effect next)]
    exact ⟨w, _, acted⟩
  case sent =>
    rw [deeds_snoc duty (.ask effect next), trailOf_snoc, List.filterMap_append,
      calls_snoc duty (.ask effect next), attemptsOn_append]
    exact List.rel_append follows.sent (carries_callsIn d.world effect)

/-- Whatever is left of an errand can be done, and then it has told what is to be told of its
duty. -/
theorem Follows.tells {e : Errand Duty (Option Outcome)} (follows : e.Follows) :
    ∃ more ending, e.event.Tells (e.deeds ++ more) ending ∧
      ∀ own, e.rest = .stop own → more = [] ∧ ending = own := by
  obtain ⟨w, w', comes⟩ := follows.comes
  have rest : e.rest.Takes (fun _ _ => True) w' _ _ _ := takes_runIn (fun _ _ => trivial) e.rest w'
  refine ⟨_, _, Duty.tells_of_takes (comes.takes rest), fun own ended => ?_⟩
  rw [ended]
  exact ⟨rfl, rfl⟩

end Errand

namespace Mailroom

/-- Since a start every addition and every attempt is accounted for by an errand or by a flush. -/
structure Follows (start : World) (m : Mailroom) : Prop where
  files : m.desk.Files start
  evaluations : attemptsOn .evaluations m.calls = m.desk.evaluationsMade start.buffer.batchSize
  audits : (attemptsOn .audits m.calls).Perm
    ((m.errands.flatMap fun e => attemptsOn .audits e.calls) ++ m.desk.auditsMade)
  added : m.desk.added.Perm
    (m.errands.flatMap fun e => (trailOf e.deeds).filterMap (·.queued?))
  errands : ∀ e ∈ m.errands, e.Follows

/-- Where one of several parts gets more, so does the whole, in whatever order. -/
theorem perm_of_more {α : Type} {whole earlier part later more : List α} (apart : List α)
    (perm : whole.Perm (earlier ++ (part ++ later) ++ apart)) :
    (whole ++ more).Perm (earlier ++ (part ++ more ++ later) ++ apart) := by
  apply (perm.append_right more).trans
  simp only [List.append_assoc]
  apply List.Perm.append_left
  apply List.Perm.append_left
  rw [← List.append_assoc later]
  exact List.perm_append_comm

namespace Follows

variable {start : World} {m m' : Mailroom}

theorem initial (clear : start.buffer.IsClear) : Follows start (opening start) where
  files := .initial clear
  evaluations := rfl
  audits := .refl _
  added := .refl _
  errands := fun _ mem => absurd mem List.not_mem_nil

theorem step (follows : Follows start m) (step : m.Step m') : Follows start m' := by
  cases step with
  | begin duty =>
      refine ⟨follows.files, follows.evaluations, ?_, ?_, ?_⟩
      · simpa [Errand.calls, attemptsOn] using follows.audits
      · simpa [Errand.deeds, trailOf] using follows.added
      · rw [List.forall_mem_append, List.forall_mem_singleton]
        exact ⟨follows.errands, ⟨m.desk.world, _, .start⟩, .nil⟩
  | @move d calls earlier later duty effect next moves free met =>
      rcases follows with ⟨files, evaluations, audits, added, errands⟩
      have records := files.act met free
      rw [List.forall_mem_append, List.forall_mem_cons] at errands
      constructor
      case files => exact records.files
      case evaluations =>
        rw [attemptsOn_append, attemptsOn_evaluations_callsIn, records.evaluations]
        exact congrArg (· ++ []) evaluations
      case audits =>
        simp only [List.flatMap_append, List.flatMap_cons] at audits ⊢
        rw [attemptsOn_append, records.audits, Errand.calls_snoc duty (.ask effect next),
          attemptsOn_append]
        simpa [attemptsOn] using perm_of_more _ audits
      case added =>
        simp only [List.flatMap_append, List.flatMap_cons] at added ⊢
        rw [records.added, Errand.deeds_snoc duty (.ask effect next), trailOf_snoc,
          List.filterMap_append, queued?_posting?]
        simpa using perm_of_more [] (by simpa using added)
      case errands =>
        rw [List.forall_mem_append, List.forall_mem_cons]
        exact ⟨errands.1, errands.2.1.move d met, errands.2.2⟩
  | @work m calls d works =>
      have records := follows.files.works works
      refine ⟨records.files, ?_, ?_, ?_, follows.errands⟩
      · rw [attemptsOn_append, follows.evaluations, records.evaluations]
      · rw [attemptsOn_append, records.audits, ← List.append_assoc]
        exact follows.audits.append_right _
      · rw [records.added, List.append_nil]
        exact follows.added
  | others standsBy buffer =>
      have records := follows.files.rest m.desk.timer (congrArg _ buffer) (.of_eq buffer)
      refine ⟨records.files, ?_, ?_, follows.added, follows.errands⟩
      · rw [follows.evaluations]
        exact (records.evaluations.trans (List.append_nil _)).symm
      · have same := records.audits.trans (List.append_nil _)
        exact same ▸ follows.audits

theorem reaches (follows : Follows start m) (reaches : m.Reaches m') : Follows start m' := by
  induction reaches with
  | refl => exact follows
  | tail _ step ih => exact ih.step step

/-- Every attempt to send audit events offers complete ones. -/
theorem complete (follows : Follows start m) {a : Attempt} (mem : a ∈ attemptsOn .audits m.calls)
    {text : String} (within : text ∈ a.batch) : ∃ e : Audit, e.IsComplete ∧ e.IsReadFrom text := by
  have offered : ∀ {events now taken},
      a ∈ Attempt.offered ((Audit.owed events now).map (·.toValue.text)) taken →
        ∃ e : Audit, e.IsComplete ∧ e.IsReadFrom text := by
    intro events now taken mem
    rw [Attempt.offered] at mem
    split at mem
    · contradiction
    · rw [List.mem_singleton.mp mem, List.mem_map] at within
      obtain ⟨e, owed, rfl⟩ := within
      exact ⟨e, Audit.isComplete_of_mem_owed owed, e.isReadFrom_text⟩
  have accounted := follows.audits.mem_iff.mp mem
  rw [Desk.auditsMade, List.mem_append, List.mem_append, List.mem_flatMap,
    List.mem_flatMap] at accounted
  rcases accounted with ⟨e, mem, made⟩ | ⟨f, mem, made⟩ | made
  · obtain ⟨audit, named, now, message, batch, read⟩ :=
      Attempt.exists_carries (follows.errands e mem).sent made
    rw [batch, List.mem_singleton] at within
    exact ⟨_, named.isComplete_dated now, within ▸ read⟩
  · exact offered made
  · unfold Turn.audits at made
    split at made
    · exact offered made
    · contradiction

end Follows

/-! ## Whatever has happened -/

/-- What is true in every state of a mailroom. -/
structure Audited (start : World) (m : Mailroom) : Prop where
  /-- In every message that the topic of the audit events has taken, a complete one is found. -/
  complete : ∀ message ∈ m.desk.world.audits.messages, ∃ e : Audit,
    e.IsComplete ∧ e.IsReadFrom message
  /-- The topic has received just the attempts of those who sent right away and of the flushes. -/
  received : start.audits.Received m.desk.world.audits (attemptsOn .audits m.calls)
  attempts : (attemptsOn .audits m.calls).Perm
    ((m.errands.flatMap fun e => attemptsOn .audits e.calls) ++ m.desk.auditsMade)
  /-- Each audit event that was to be sent right away was attempted once, and no other. -/
  sent : ∀ e ∈ m.errands, List.Forall₂ (fun audit a => Attempt.Carries a audit)
    ((trailOf e.deeds).filterMap (·.sent?)) (attemptsOn .audits e.calls)
  /-- What was to wait with its upload was put into the buffer once, and nothing else. -/
  queued : m.desk.added.Perm (m.errands.flatMap fun e => (trailOf e.deeds).filterMap (·.queued?))
  /-- The uploads that wait and their audit events are in step. -/
  even : m.desk.world.buffer.IsEven
  /-- From there it is flushed once, or still waits. -/
  added : m.desk.added = m.desk.flushes.flatMap (·.batch) ++ m.desk.world.buffer.entries
  /-- A flush attempts to send the audit events that it owes, each in a message of its own. -/
  flushed : ∀ f ∈ m.desk.flushes, ∀ a ∈ f.audits, List.Forall₂ Audit.IsReadFrom f.owed a.batch
  /-- A flush attempts to send all its uploads, whatever becomes of the audit events. -/
  evaluations : start.evaluations.Received m.desk.world.evaluations
    (m.desk.evaluationsMade start.buffer.batchSize)
  /-- Whoever is under way leaves the trail of the duty, and whoever has ended has left it. -/
  tells : ∀ e ∈ m.errands, ∃ more ending, e.event.Tells (e.deeds ++ more) ending ∧
    ∀ own, e.rest = .stop own → more = [] ∧ ending = own

/-- However many send at a time, nothing gets to the topic of the audit events that cannot be
followed, and whatever else is to be told of an event is attempted once. -/
theorem events_audited {start : World} {m : Mailroom} (clear : start.buffer.IsClear)
    (silent : start.audits.messages = []) (reaches : (opening start).Reaches m) :
    m.Audited start ∧ ∀ job : Job,
      (∀ trail ending, job.Leaves trail ending → trail = (job.posting? ending).toList) ∧
      ∀ r, job.report? = some r → ∀ status detail,
        (r.audit status detail).isTracked = r.requestId.isSome := by
  have follows := (Follows.initial clear).reaches reaches
  obtain ⟨counted, conveys, _⟩ := ((Balances.initial start).reaches reaches).conveyed
  have received := conveys.received .audits
  refine ⟨?_, fun job => ⟨fun _ _ => Job.Leaves.trail_eq, fun _ => Report.isTracked_audit⟩⟩
  constructor
  case complete =>
    intro text mem
    have messages : m.desk.world.audits.messages = _ := received.messages
    rw [messages, List.mem_append, List.mem_flatMap] at mem
    rcases mem with old | ⟨a, mem, within⟩
    · rw [show (start.topic .audits).messages = [] from silent] at old
      contradiction
    · exact follows.complete (List.mem_of_mem_filter mem) within
  case received => exact received
  case attempts => exact follows.audits
  case sent => exact fun e mem => (follows.errands e mem).sent
  case queued => exact follows.added
  case even => exact follows.files.even
  case added => exact follows.files.added
  case flushed => exact fun f _ a => f.forall₂_isReadFrom
  case evaluations =>
    rw [← follows.evaluations]
    exact conveys.received .evaluations
  case tells => exact fun e mem => (follows.errands e mem).tells

namespace Sample

/-- The upload of a host that came with this request. -/
def upload (request : String) : Duty :=
  .event 1000000000000
    { about := ⟨"created", none⟩
      kind := .created
      message := .object [("host", .object [("id", .string "h"), ("org_id", .string "o")]),
        ("metadata", .object [("request_id", .string request)])] }

/-- The deletion of that host. -/
def deletion : Duty :=
  .event 1000000000000
    { about := ⟨"delete", none⟩
      kind := .delete
      message := .object [("id", .string "h")] }

/-- A duty is taken up as the errand with this index and done. -/
def perform (m : Mailroom) (index : Nat) (duty : Duty) : Mailroom :=
  (fun m => m.play index)^[12] (m.begin duty)

/-- The host is uploaded, which is flushed, then deleted, and uploaded again with a request and
without one. -/
def reported : Mailroom :=
  perform (perform (perform (perform (opening start) 0 (upload "r")) 1 deletion) 2 (upload "s")) 3
    (upload "")

/-- What has come of an errand. -/
def outcome? (e : Errand Duty (Option Outcome)) : Option Outcome :=
  match e.rest with
  | .stop (.done outcome) => outcome
  | _ => none

/-- What is heard of the upload that was ignored because of the deletion. -/
def heard : Audit :=
  ⟨"hostsync", some "o", some "s", "h", "success", "success-deleted", some ⟨5, 0⟩⟩

theorem payloads_reported : reported.desk.world.audits.payloads Audit.decode = .ok [heard] := by
  have writable : heard.IsWritable := by
    rintro date ⟨⟩
    exact Instant.readsBack_of_whole (by decide) rfl
  have messages : reported.desk.world.audits.messages = [heard].map fun e => e.toValue.text := by
    decide +kernel
  refine Topic.payloads_of_texts (fun e mem => ?_) messages
  rw [List.mem_singleton.mp mem]
  exact Audit.decode_payload writable

theorem reaches_perform (m : Mailroom) (index : Nat) (duty : Duty) :
    m.Reaches (perform m index duty) := by
  have begun : m.Reaches (m.begin duty) := .single (.begin duty)
  unfold perform
  generalize 12 = moves
  induction moves with
  | zero => exact begun
  | succ moves ih =>
      rw [Function.iterate_succ_apply']
      exact ih.trans (reaches_play _ index)

theorem reaches_reported : (opening start).Reaches reported :=
  (((reaches_perform _ 0 _).trans (reaches_perform _ 1 _)).trans (reaches_perform _ 2 _)).trans
    (reaches_perform _ 3 _)

end Sample

theorem events_audited_sample :
    Sample.reported.errands.map Sample.outcome? = [some (.evaluated 1), some (.deleted 1),
        some .recentlyDeleted, some .recentlyDeleted] ∧
      Sample.reported.desk.world.audits.payloads Audit.decode = .ok [Sample.heard] ∧
      Sample.reported.desk.world.audits.refused = 1 ∧ Sample.reported.Audited Sample.start :=
  ⟨by decide +kernel, Sample.payloads_reported, by decide +kernel,
    (events_audited ⟨rfl, rfl⟩ rfl Sample.reaches_reported).1⟩

end Mailroom

end FleetRoster
