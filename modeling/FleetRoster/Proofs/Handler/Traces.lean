import FleetRoster.Proofs.Handler.Setbacks
import FleetRoster.Proofs.Handler.Tries
import FleetRoster.Proofs.Store.Markers

/-!
# Traces of failed attempts

What the retries of a message leave in the store before the attempt that succeeds. Attempts at a
message that have failed leave a trace in the books and none outside. However many there were, it is
no more than one of them can leave: the marker of the last deletion that came so far, or the account
of the organization of an upload. An upload that has left that had passed the guard, so the marker
of its host, if there is one, is not recent any more.
-/

namespace FleetRoster

open Calendar (Instant IsSteady)
open FleetRoster.Flow

/-! ## Traces in the books -/

namespace Books

variable {b b' b'' : Books}

/-- What failed attempts at an event have left in the books, by readings of the clock that were
shown. -/
inductive Trace (threshold : Nat) (job : Job) (shown : Instant → Prop) (b : Books) : Books → Prop
  | nothing : Trace threshold job shown b b
  | marked {inventoryId : String} (time : Instant) (deletion : job.deletion? = some inventoryId) :
      Trace threshold job shown b (b.marking inventoryId time)
  | resolved {r : Report} {account : Int} {b' : Books} (accepted : job.accepted? = some r)
      (resolves : b.Resolves r.org account b')
      (past : ∀ m, b.store.marker? r.inventoryId = some m →
        ∃ time, shown time ∧ m.isRecent time threshold = false) :
      Trace threshold job shown b b'

theorem marking_marking (b : Books) (inventoryId : String) (time later : Instant) :
    (b.marking inventoryId time).marking inventoryId later = b.marking inventoryId later := by
  simp only [marking, Store.upsertMarker_upsertMarker]

/-- An account that was resolved is remembered. -/
theorem Resolves.known' {org : String} {account : Int} (resolves : b.Resolves org account b') :
    b'.known org = some account := by
  cases resolves with
  | known found => exact found
  | made unknown =>
      rw [known_remembering (b := { b with store := (b.store.upsertAccount org).1 }) unknown,
        if_pos rfl]

/-- An account that was resolved is not looked up again. -/
theorem Resolves.again {org : String} {account other : Int} (first : b.Resolves org account b')
    (second : b'.Resolves org other b'') : b'' = b' := by
  cases second with
  | known _ => rfl
  | made unknown =>
      rw [first.known'] at unknown
      contradiction

/-- The guard lets an upload pass only where the marker of its host is not recent. -/
theorem Guard.past_of_done {threshold : Nat} {inventoryId : String} {readings : List Instant}
    (guard : b.Guard threshold inventoryId readings (.done none)) {m : Marker}
    (found : b.store.marker? inventoryId = some m) :
    ∃ time ∈ readings, m.isRecent time threshold = false := by
  cases guard with
  | unmarked absent =>
      rw [found] at absent
      contradiction
  | past foundAlso old =>
      cases found.symm.trans foundAlso
      exact ⟨_, List.mem_singleton_self _, old⟩

namespace Trace

variable {threshold : Nat} {job : Job} {shown wider : Instant → Prop}

theorem mono (trace : b.Trace threshold job shown b') (imp : ∀ time, shown time → wider time) :
    b.Trace threshold job wider b' := by
  cases trace with
  | nothing => exact .nothing
  | marked time deletion => exact .marked time deletion
  | resolved accepted resolves past =>
      refine .resolved accepted resolves fun m found => ?_
      obtain ⟨time, was, old⟩ := past m found
      exact ⟨time, imp time was, old⟩

/-- One more failed attempt leaves no more than one trace. -/
theorem setback {readings : List Instant} {why : Fault} (trace : b.Trace threshold job shown b')
    (setback : Setback threshold job b' readings why b'') (read : ∀ time ∈ readings, shown time) :
    b.Trace threshold job shown b'' := by
  cases setback with
  | lost _ _ => exact trace
  | @undeleted inventoryId _ _ _ deletion setback =>
      cases setback with
      | unmarked _ => exact trace
      | marked time =>
          cases trace with
          | nothing => exact .marked time deletion
          | marked earlier alsoDeletion =>
              cases deletion.symm.trans alsoDeletion
              rw [marking_marking]
              exact .marked time deletion
          | resolved accepted _ _ =>
              have none := Job.deletion?_of_report? (Job.report?_of_accepted? accepted)
              rw [deletion] at none
              contradiction
  | @unstored r _ _ _ accepted setback =>
      cases setback with
      | unguarded => exact trace
      | unresolved _ => exact trace
      | resolved time guard resolves =>
          cases trace with
          | nothing =>
              refine .resolved accepted resolves fun m found => ?_
              obtain ⟨time, mem, old⟩ := guard.past_of_done found
              exact ⟨time, read time (List.mem_append_left _ mem), old⟩
          | marked _ deletion =>
              have none := Job.deletion?_of_report? (Job.report?_of_accepted? accepted)
              rw [deletion] at none
              contradiction
          | resolved alsoAccepted first past =>
              cases accepted.symm.trans alsoAccepted
              rw [first.again resolves]
              exact .resolved accepted first past

/-- No trace is one in the rows. -/
theorem systems (trace : b.Trace threshold job shown b') : b'.store.systems = b.store.systems := by
  cases trace with
  | nothing => rfl
  | marked _ _ => exact Store.upsertMarker_systems _ _ _
  | resolved _ resolves _ => exact resolves.systems

end Trace

end Books

/-- An event fails because of its message, or with a fault of the store. -/
theorem Setback.isPermanent_or {threshold : Nat} {job : Job} {b b' : Books}
    {readings : List Instant} {why : Fault} (setback : Setback threshold job b readings why b') :
    why.isPermanent = true ∨ ∃ text, why = .store text := by
  cases setback with
  | lost _ permanent => exact .inl permanent
  | undeleted _ setback => cases setback <;> exact .inr ⟨_, rfl⟩
  | unstored _ setback => cases setback <;> exact .inr ⟨_, rfl⟩

/-! ## Traces in a world -/

theorem World.elapses_of_many {w w' : World} (many : Relation.ReflTransGen World.Elapses w w') :
    w.Elapses w' := by
  induction many with
  | refl => exact ⟨0, rfl⟩
  | tail _ step ih =>
      obtain ⟨ms, rfl⟩ := ih
      obtain ⟨more, rfl⟩ := step
      exact ⟨ms + more, by simp only [World.after, Nat.add_assoc]⟩

/-- Since a world has started on a message, there was nothing but failed attempts. -/
structure World.Ahead (threshold : Nat) (job : Job) (start w : World) : Prop where
  inside : start.Inside w
  readings : start.readings ≤ w.readings
  trace : start.books.Trace threshold job
    (fun time => ∃ n, n < w.readings ∧ start.clock n = time) w.books

namespace World.Ahead

variable {threshold : Nat} {job : Job} {start w w' : World} {deeds : List Deed}

theorem refl (start : World) : start.Ahead threshold job start :=
  ⟨.refl start, Nat.le_refl _, .nothing⟩

/-- What stays inside and leaves the books alone may be done in between. -/
theorem pause {α : Type} {x : Flow α} {ending : Ending α} (ahead : start.Ahead threshold job w)
    (inward : x.Only Effect.IsInward)
    (quiet : x.Leads Books.Acts w.books fun _ b _ => b = w.books)
    (takes : x.Takes World.Elapses w deeds w' ending) : start.Ahead threshold job w' := by
  have books : w'.books = w.books := quiet.inBooks (fun elapses => elapses.aside.books) takes
  have later := takes.inAside.clock.1.readings
  constructor
  · exact ahead.inside.trans (inward.inside takes)
  · exact Nat.le_trans ahead.readings later
  · rw [books]
    apply ahead.trace.mono
    rintro time ⟨n, lt, shown⟩
    exact ⟨n, Nat.lt_of_lt_of_le lt later, shown⟩

/-- An attempt that fails with a fault has met a setback. -/
theorem setback {why : Fault}
    (takes : (job.handler threshold).Takes World.Elapses w deeds w' (.failed why)) :
    Setback threshold job w.books (readingsOf deeds) why w'.books :=
  (leads_setback threshold job).inBooks (fun elapses => elapses.aside.books) takes

/-- After one more failed attempt there was still nothing else. -/
theorem failed {why : Fault} (ahead : start.Ahead threshold job w)
    (takes : (job.handler threshold).Takes World.Elapses w deeds w' (.failed why)) :
    start.Ahead threshold job w' := by
  obtain ⟨ticks, shows⟩ := takes.inAside.clock
  have clock := ahead.inside.clock
  constructor
  · exact ahead.inside.trans ((heedful_handler threshold job).inside takes)
  · exact Nat.le_trans ahead.readings ticks.readings
  · refine Books.Trace.setback (ahead.trace.mono ?_) (setback takes) ?_
    · rintro time ⟨n, lt, shown⟩
      exact ⟨n, Nat.lt_of_lt_of_le lt ticks.readings, shown⟩
    · intro time mem
      obtain ⟨n, _, lt, shown⟩ := shows time mem
      exact ⟨n, lt, clock ▸ shown⟩

end World.Ahead

/-! ## Attempts in a row -/

section

variable {delay threshold : Nat} {about : Log.Context} {id : String} {lane : Lane} {job : Job}
  {further made : Nat} {start w w' : World} {tries : List (Entry Nat Outcome)} {deeds : List Deed}
  {ending : Ending Unit}

theorem leads_retryPause {b : Books} (why : Fault) :
    (retryPause delay about id made why).Leads Books.Acts b fun _ b' _ => b' = b := by
  rintro b' ⟨⟩ rfl b'' ⟨⟩ rfl
  rfl

theorem inward_retryPause (why : Fault) :
    (retryPause delay about id made why).Only Effect.IsInward :=
  (only_perform trivial).bind fun _ => only_perform trivial

namespace Tries

/-- Before each attempt there was nothing but failed ones. -/
theorem ahead (t : Tries delay about id lane (job.handler threshold) World.Elapses further made w
      tries deeds w' ending) (ahead : start.Ahead threshold job w) :
    ∀ e ∈ tries, start.Ahead threshold job e.before ∧
      (job.handler threshold).Takes World.Elapses e.before e.deeds e.after e.ending := by
  induction t with
  | done takes logs =>
      rw [List.forall_mem_singleton]
      exact ⟨ahead, takes⟩
  | crashed takes =>
      rw [List.forall_mem_singleton]
      exact ⟨ahead, takes⟩
  | abandoned takes last gives =>
      rw [List.forall_mem_singleton]
      exact ⟨ahead, takes⟩
  | again takes passing pauses rest ih =>
      rw [List.forall_mem_cons]
      refine ⟨⟨ahead, takes⟩, ih ?_⟩
      exact (ahead.failed takes).pause (inward_retryPause _) (leads_retryPause _) pauses

/-- Only a fault of the store is followed by another attempt. -/
theorem followed (t : Tries delay about id lane (job.handler threshold) World.Elapses further made w
      tries deeds w' ending) :
    ∀ e ∈ tries.dropLast, ∃ text, e.ending = .failed (.store text) := by
  induction t with
  | again takes passing pauses rest ih =>
      rw [List.dropLast_cons_of_ne_nil rest.ne_nil, List.forall_mem_cons]
      constructor
      · rcases (World.Ahead.setback takes).isPermanent_or with permanent | ⟨text, rfl⟩
        · exact absurd permanent passing
        · exact ⟨text, rfl⟩
      · exact ih
  | _ => exact fun e mem => absurd mem List.not_mem_nil

/-- Where every attempt fails with a fault of the store, there are as many as may be. -/
theorem length_eq (t : Tries delay about id lane (job.handler threshold) World.Elapses further made w
      tries deeds w' ending) (failed : ∀ e ∈ tries, ∃ text, e.ending = .failed (.store text)) :
    tries.length = further + 1 := by
  induction t with
  | done takes logs =>
      obtain ⟨text, ended⟩ := failed _ (List.mem_singleton_self _)
      cases ended
  | crashed takes =>
      obtain ⟨text, ended⟩ := failed _ (List.mem_singleton_self _)
      cases ended
  | abandoned takes last gives =>
      obtain ⟨text, ended⟩ := failed _ (List.mem_singleton_self _)
      cases ended
      rcases last with rfl | permanent
      · rfl
      · contradiction
  | again takes passing pauses rest ih =>
      rw [List.length_cons, ih fun e mem => failed e (List.mem_cons_of_mem _ mem)]

/-- How a message ends whose last attempt has succeeded: with a line of the log. -/
theorem last_done (t : Tries delay about id lane (job.handler threshold) World.Elapses further made w
      tries deeds w' ending) {last : Entry Nat Outcome} {outcome : Outcome}
    (isLast : tries.getLast? = some last) (ended : last.ending = .done outcome) :
    ∃ notice ms later, w' = ((last.after.after ms).note notice).after later := by
  induction t with
  | done takes logs =>
      cases isLast
      obtain ⟨met, _, others, _, rest⟩ := Takes.of_ask logs
      obtain ⟨ms, rfl⟩ := World.elapses_of_many others
      obtain ⟨later, ended⟩ := World.elapses_of_many (Takes.of_stop rest).2.2
      exact ⟨_, ms, later, ended⟩
  | crashed takes =>
      cases isLast
      cases ended
  | abandoned takes last gives =>
      cases isLast
      cases ended
  | again takes passing pauses rest ih =>
      obtain ⟨second, others, rfl⟩ := List.exists_cons_of_ne_nil rest.ne_nil
      rw [List.getLast?_cons_cons] at isLast
      exact ih isLast

/-- How a message ends whose last attempt has failed: with a line of the log and a count. -/
theorem last_failed (t : Tries delay about id lane (job.handler threshold) World.Elapses further made
      w tries deeds w' ending) {last : Entry Nat Outcome} {why : Fault}
    (isLast : tries.getLast? = some last) (ended : last.ending = .failed why) :
    ∃ notice ms between later,
      w' = ((((last.after.after ms).note notice).after between).count lane .failed).after later := by
  induction t with
  | done takes logs =>
      cases isLast
      cases ended
  | crashed takes =>
      cases isLast
      cases ended
  | abandoned takes last gives =>
      cases isLast
      obtain ⟨met, _, others, _, rest⟩ := Takes.of_ask gives
      obtain ⟨ms, rfl⟩ := World.elapses_of_many others
      obtain ⟨met, _, others, _, rest⟩ := Takes.of_ask rest
      obtain ⟨between, rfl⟩ := World.elapses_of_many others
      obtain ⟨later, ended⟩ := World.elapses_of_many (Takes.of_stop rest).2.2
      exact ⟨_, ms, between, later, ended⟩
  | again takes passing pauses rest ih =>
      obtain ⟨second, others, rfl⟩ := List.exists_cons_of_ne_nil rest.ne_nil
      rw [List.getLast?_cons_cons] at isLast
      exact ih isLast

end Tries

end

end FleetRoster
