import FleetRoster.Proofs.Handler.Tallies
import FleetRoster.Proofs.Handler.Traces
import FleetRoster.Proofs.Roster.Deletion

/-!
# Retries are transparent

A message whose last attempt succeeds ends as if that attempt had been the only one. Whatever the
failed attempts have left is overwritten or would have been made by a single attempt as well: the
marker of a deletion takes the new reading of the clock, and the account of an organization is the
one that a single attempt would have made. The guard, which looks at a clock that has gone on, still
lets the upload pass.
-/

namespace FleetRoster

open Calendar (Instant IsSteady)
open FleetRoster.Flow

/-! ## The single attempt -/

/-- What a handler is refused that has to look an account up after it has looked at the marker,
where one that remembers the account is refused so: the lookup is answered. -/
def answeringLookup (refusals : Nat → Bool) : Nat → Bool
  | 0 => refusals 0
  | 1 => false
  | n + 2 => refusals (n + 1)

/-- An upload was taken in, and the account of its organization has come to be remembered. -/
def Job.hasLookedUp (job : Job) (start last : World) : Bool :=
  job.accepted?.any fun r => (start.known r.org).isNone && (last.known r.org).isSome

/-- The world of a single attempt: all is as at the start, but it is the time of the last attempt,
the clock shows what that one was shown, and the store answers as it answered that one. -/
def World.single (start last : World) (job : Job) : World :=
  { start with
    readings := last.readings
    time := last.time
    messages := last.messages
    calls := 0
    outage := if job.hasLookedUp start last then answeringLookup last.backing.refusals
      else last.backing.refusals }

/-- An ending in success. -/
def Flow.IfDone {α : Type} (claim : World → World → Prop) : Ending α → World → World → Prop
  | .done _, w, v => claim w v
  | _, _, _ => True

section

variable {threshold : Nat} {job : Job} {start last w v : World}

/-- From matching worlds with the same behind them a flow that succeeds leaves the same behind them.
-/
theorem pairs_ifDone {α : Type} (matching : w.Matches False Backing.Same v) (x : Flow α) :
    Pairs Store.answer Store.answer x x w v
      (IfDone fun w' v' => w'.Matches False Backing.Same v') := by
  apply (pairs_of_same matching x).mono
  intro ending w' v' goesOn
  cases ending with
  | done a => exact goesOn
  | _ => trivial

theorem World.backing_single (start last : World) (job : Job) :
    (start.single last job).backing =
      ⟨start.books, if job.hasLookedUp start last then answeringLookup last.backing.refusals
        else last.backing.refusals⟩ := by
  simp only [World.backing, World.single, Nat.zero_add]
  rfl

/-- But for the traces of failed attempts, the world of the single attempt is that of the last one.
-/
theorem World.Ahead.matches_single {related : Backing → Backing → Prop}
    (ahead : start.Ahead threshold job last)
    (backing : related last.backing (start.single last job).backing) :
    last.Matches False related (start.single last job) where
  backing := backing
  buffer := congrArg Buffer.undated ahead.inside.buffer.symm
  topic channel := (ahead.inside.topic channel).symm
  tally := ahead.inside.tally.symm
  messages := rfl
  lookups := ahead.inside.lookups.symm
  timing := False.elim
  clock n := by rw [ahead.inside.clock]; rfl

/-! ## Deletions -/

/-- A deletion sets its marker whether or not there is one. -/
theorem pairs_handleDelete (about : Log.Context) {event : HostEvent} {inventoryId : String}
    (earlier : Instant) (named : event.inventoryId = some inventoryId)
    (matching : w.Matches False (fun b c => c.refusals = b.refusals ∧
      b.books = c.books.marking inventoryId earlier) v) :
    Pairs Store.answer Store.answer (handleDelete threshold about event)
      (handleDelete threshold about event) w v
      (IfDone fun w' v' => w'.Matches False Backing.Same v') := by
  rw [handleDelete_of_some threshold about named]
  refine pairs_plain matching trivial ?_
  intro w' v' met
  obtain ⟨refusals, books⟩ := met.backing
  refine pairs_call met (congrFun refusals 0) ?_ ?_
  · intro w'' v'' _
    exact ⟨rfl, trivial⟩
  · intro w'' v'' _ marked
    have same : w''.Matches False Backing.Same v'' := by
      apply marked.of_are
      rw [Backing.Same, Backing.served, Backing.served, refusals, books]
      exact congrArg (Backing.mk · _) (Books.marking_marking _ _ _ _).symm
    exact pairs_ifDone same _

/-! ## Uploads -/

/-- One set of books is ahead of the other by the lookup of an organization's account. -/
structure Books.LookedUp (org : String) (b c : Books) : Prop where
  unknown : c.known org = none
  made : b = ({ c with store := (c.store.upsertAccount org).1 } : Books).remembering org
    (c.store.upsertAccount org).2

namespace Books.LookedUp

variable {org : String} {b c : Books}

theorem known (lookedUp : b.LookedUp org c) :
    b.known org = some (c.store.upsertAccount org).2 := by
  rw [lookedUp.made,
    known_remembering (b := { c with store := (c.store.upsertAccount org).1 }) lookedUp.unknown,
    if_pos rfl]

theorem markers (lookedUp : b.LookedUp org c) : b.store.markers = c.store.markers := by
  rw [lookedUp.made]
  exact c.store.upsertAccount_markers org

end Books.LookedUp

/-- One side is ahead of the other by the lookup of an account, which is going to be answered. -/
structure Backing.LookedUp (org : String) (b c : Backing) : Prop where
  books : b.books.LookedUp org c.books
  answered : c.refusals 0 = false
  later : ∀ n, c.refusals (n + 1) = b.refusals n

/-- The world after the account of an organization was looked up in the store and remembered. -/
def World.lookingUp (v : World) (org : String) : World :=
  { v.after (pauseLength v.latency) with
    calls := v.calls + 1
    store := (v.store.upsertAccount org).1
    accounts := v.accounts ++ [(org, (v.store.upsertAccount org).2)] }

theorem World.remember_of_unknown {org : String} {account : Int} (unknown : v.known org = none) :
    v.remember org account = ({ v with accounts := v.accounts ++ [(org, account)] }, account) := by
  rw [World.remember, unknown]

/-- The account of an organization that is not remembered is looked up, if the store answers. -/
theorem run_resolveAccount (about : Log.Context) {org : String} (named : org.isEmpty = false)
    (unknown : v.known org = none) (answered : v.backing.refusals 0 = false) :
    (resolveAccount about org).run (World.performBy Store.answer) v =
      ((v.lookingUp org).note (.accountRemembered about org (v.store.upsertAccount org).2),
        .done (v.store.upsertAccount org).2) := by
  have looked : (Flow.known org).run (World.performBy Store.answer) v = (v, .done none) := by
    rw [← unknown]
    rfl
  have remembered : ∀ {w : World} {account : Int}, w.known org = none →
      (Flow.remember org account).run (World.performBy Store.answer) w =
        ({ w with accounts := w.accounts ++ [(org, account)] }, .done account) := by
    intro w account unknown
    change ((w.remember org account).1, Ending.done (w.remember org account).2) = _
    rw [World.remember_of_unknown unknown]
  unfold resolveAccount
  rw [named, if_neg Bool.false_ne_true, run_bind, looked]
  refine (run_call_of_answered answered).trans ?_
  change Flow.run _ (Flow.remember org (v.store.upsertAccount org).2 >>= _) _ = _
  rw [run_bind, remembered]
  · change Flow.run _ (if (v.store.upsertAccount org).2 = (v.store.upsertAccount org).2 then _ else _)
      _ = _
    rw [if_pos rfl]
    rfl
  · exact unknown

/-- The account that is remembered on the one side is looked up on the other, and is the same. -/
theorem pairs_resolveAccount (about : Log.Context) {org : String} (named : org.isEmpty = false)
    (matching : w.Matches False (Backing.LookedUp org) v) :
    Pairs Store.answer Store.answer (resolveAccount about org) (resolveAccount about org) w v
      fun ending w' v' => (∃ account, ending = .done account) ∧
        w'.Matches False Backing.Same v' := by
  obtain ⟨lookedUp, answered, later⟩ := matching.backing
  have known : w.known org = some (v.store.upsertAccount org).2 := lookedUp.known
  have looked : (Flow.known org).run (World.performBy Store.answer) w =
      (w, .done (some (v.store.upsertAccount org).2)) := by
    rw [← known]
    rfl
  have left : (resolveAccount about org).run (World.performBy Store.answer) w =
      (w, .done (v.store.upsertAccount org).2) := by
    unfold resolveAccount
    rw [named, if_neg Bool.false_ne_true, run_bind, looked]
    rfl
  have right := run_resolveAccount about named lookedUp.unknown answered
  unfold Pairs Twins
  rw [left, right]
  refine ⟨rfl, ⟨_, rfl⟩, World.Matches.noteRight ?_ _⟩
  have backing : (v.lookingUp org).backing = w.backing := by
    have books : (v.lookingUp org).books = w.books := lookedUp.made.symm
    have refusals : ∀ n, v.outage (v.calls + 1 + n) = w.outage (w.calls + n) := by
      intro n
      rw [Nat.add_assoc, Nat.add_comm 1 n]
      exact later n
    simp only [World.backing, books]
    exact congrArg (Backing.mk w.books) (funext refusals)
  exact { matching with
    topic := matching.topic
    backing := backing
    timing := False.elim }

/-- An upload whose account was looked up before is stored as one that has to look it up. -/
theorem pairs_storeUpload (about : Log.Context) (event : HostEvent) (host : Host)
    (inventoryId : String) {org : String} (audit : Audit) (named : org.isEmpty = false)
    (matching : w.Matches False (Backing.LookedUp org) v) :
    Pairs Store.answer Store.answer (storeUpload about event host inventoryId org audit)
      (storeUpload about event host inventoryId org audit) w v
      (IfDone fun w' v' => w'.Matches False Backing.Same v') := by
  apply twins_bind
  apply (pairs_resolveAccount about named matching).mono
  rintro _ w' v' ⟨⟨account, rfl⟩, same⟩
  exact pairs_ifDone same _

/-- It is taken in as one that has to look it up, where the guard lets it pass. -/
theorem pairs_admitUpload (about : Log.Context) {event : HostEvent} {host : Host}
    {inventoryId org : String} {audit : Audit} (named : org.isEmpty = false)
    (past : ∀ m, v.store.marker? inventoryId = some m → ∀ n, w.readings ≤ n →
      m.isRecent (w.clock n) threshold = false)
    (matching : w.Matches False (fun b c => b.books.LookedUp org c.books ∧
      c.refusals = answeringLookup b.refusals) v) :
    Pairs Store.answer Store.answer
      (admitUpload threshold about event host inventoryId org audit)
      (admitUpload threshold about event host inventoryId org audit) w v
      (IfDone fun w' v' => w'.Matches False Backing.Same v') := by
  obtain ⟨lookedUp, refusals⟩ := matching.backing
  unfold admitUpload recentMarker?
  rw [bind_assoc]
  refine pairs_call matching (congrFun refusals 0) ?_ ?_
  · intro w' v' _
    exact ⟨rfl, trivial⟩
  · intro w' v' ticks met
    have guarded : w'.Matches False (Backing.LookedUp org) v' :=
      met.of_are ⟨lookedUp, congrFun refusals 1, fun n => congrFun refusals (n + 2)⟩
    have same : (w.store.answer (.getDeleted inventoryId)).2 =
        (v.store.answer (.getDeleted inventoryId)).2 := Store.marker?_congr lookedUp.markers
    rw [same]
    cases found : (v.store.answer (.getDeleted inventoryId)).2 with
    | none => exact pairs_storeUpload about event host inventoryId audit named guarded
    | some marker =>
        have old : marker.isRecent (w'.clock w'.readings) threshold = false := by
          rw [ticks.clock]
          exact past marker found w'.readings ticks.readings
        have reads : Effect.now.IsPlain := trivial
        refine pairs_plain guarded reads ?_
        intro w'' v'' met
        change Pairs _ _
          (settleUpload about event host inventoryId org audit
            (if marker.isRecent (w'.clock w'.readings) threshold then some marker else none))
          (settleUpload about event host inventoryId org audit
            (if marker.isRecent (w'.clock w'.readings) threshold then some marker else none)) _ _ _
        rw [old]
        exact pairs_storeUpload about event host inventoryId audit named met

/-! ## Attempts -/

/-- As long as no account has come to be remembered, no lookup is answered in the single attempt
that was not made in the last one. -/
theorem Job.hasLookedUp_of_accounts (job : Job) (accounts : last.accounts = start.accounts) :
    job.hasLookedUp start last = false := by
  have known : ∀ org, last.known org = start.known org := by
    intro org
    rw [World.known, accounts, World.known]
  rw [Job.hasLookedUp]
  cases job.accepted? with
  | none => rfl
  | some r =>
      rw [Option.any_some, known]
      cases start.known r.org <;> rfl

namespace World.Ahead

variable (ahead : start.Ahead threshold job last)
include ahead

/-- Where nothing is left of failed attempts, the last one is the single one. -/
theorem pairs_of_nothing (books : last.books = start.books) :
    Pairs Store.answer Store.answer (job.handler threshold) (job.handler threshold) last
      (start.single last job) (IfDone fun w' v' => w'.Matches False Backing.Same v') := by
  have same : last.Matches False Backing.Same (start.single last job) := by
    apply ahead.matches_single
    rw [Backing.Same, World.backing_single,
      job.hasLookedUp_of_accounts (congrArg Books.accounts books), ← books]
    rfl
  exact pairs_ifDone same _

/-- Where the marker of a deletion is left, the last attempt sets it anew. -/
theorem pairs_of_marked {inventoryId : String} {time : Instant}
    (deletion : job.deletion? = some inventoryId)
    (books : last.books = start.books.marking inventoryId time) :
    Pairs Store.answer Store.answer (job.handler threshold) (job.handler threshold) last
      (start.single last job) (IfDone fun w' v' => w'.Matches False Backing.Same v') := by
  have sets := job.sets_handler threshold
  generalize job.handler threshold = x at sets ⊢
  cases sets with
  | skips idle => cases deletion.symm.trans idle.notDeletion
  | fails idle _ => cases deletion.symm.trans idle.notDeletion
  | rejects idle => cases deletion.symm.trans idle.notDeletion
  | admits accepted _ =>
      have none := Job.deletion?_of_report? (Job.report?_of_accepted? accepted)
      cases deletion.symm.trans none
  | deletes alsoDeletion named =>
      cases deletion.symm.trans alsoDeletion
      refine pairs_handleDelete _ time named (ahead.matches_single ⟨?_, ?_⟩)
      · rw [World.backing_single, job.hasLookedUp_of_accounts (congrArg Books.accounts books)]
        rfl
      · rw [World.backing_single]
        exact books

/-- Where the account of an upload is left, a single attempt looks it up. -/
theorem pairs_of_made (steady : IsSteady start.clock)
    (genuine : ∀ m ∈ start.store.markers, m.deletedAt.IsGenuine) {r : Report}
    (accepted : job.accepted? = some r) (lookedUp : last.books.LookedUp r.org start.books)
    (past : ∀ m, start.store.marker? r.inventoryId = some m →
      ∃ time, (∃ n, n < last.readings ∧ start.clock n = time) ∧ m.isRecent time threshold = false) :
    Pairs Store.answer Store.answer (job.handler threshold) (job.handler threshold) last
      (start.single last job) (IfDone fun w' v' => w'.Matches False Backing.Same v') := by
  have sets := job.sets_handler threshold
  generalize job.handler threshold = x at sets ⊢
  cases sets with
  | skips idle => cases accepted.symm.trans idle.notAccepted
  | fails idle _ => cases accepted.symm.trans idle.notAccepted
  | rejects idle => cases accepted.symm.trans idle.notAccepted
  | deletes deletion _ =>
      have none := Job.deletion?_of_report? (Job.report?_of_accepted? accepted)
      cases deletion.symm.trans none
  | admits alsoAccepted named =>
      cases accepted.symm.trans alsoAccepted
      have unknown : start.known _ = none := lookedUp.unknown
      have known : last.known _ = some _ := lookedUp.known
      have looked : job.hasLookedUp start last = true := by
        rw [Job.hasLookedUp, accepted, Option.any_some, unknown, known]
        rfl
      refine pairs_admitUpload _ named ?_ (ahead.matches_single ⟨?_, ?_⟩)
      · intro m found n le
        obtain ⟨_, ⟨k, lt, rfl⟩, old⟩ := past m found
        rw [ahead.inside.clock]
        exact Marker.isRecent_of_le (genuine m (Store.mem_of_marker? found)) (steady.ordinary k)
          (steady.ordinary n) (steady.nanos_le (Nat.le_of_lt (Nat.lt_of_lt_of_le lt le))) old
      · rw [World.backing_single]
        exact lookedUp
      · rw [World.backing_single, looked]
        rfl

/-- Where the last attempt has succeeded, a single one would have ended in the same way. -/
theorem pairs_single (steady : IsSteady start.clock)
    (genuine : ∀ m ∈ start.store.markers, m.deletedAt.IsGenuine) :
    Pairs Store.answer Store.answer (job.handler threshold) (job.handler threshold) last
      (start.single last job) (IfDone fun w' v' => w'.Matches False Backing.Same v') := by
  have trace := ahead.trace
  generalize books : last.books = now at trace
  cases trace with
  | nothing => exact ahead.pairs_of_nothing books
  | marked time deletion => exact ahead.pairs_of_marked deletion books
  | resolved accepted resolves past =>
      cases resolves with
      | known _ => exact ahead.pairs_of_nothing books
      | made unknown => exact ahead.pairs_of_made steady genuine accepted ⟨unknown, books⟩ past

end World.Ahead

end

/-! ## Messages -/

/-- Two worlds agree and have the same books. -/
def World.Concurs (w v : World) : Prop :=
  w.Agrees False (fun b c => c.books = b.books) v

namespace World

variable {w v u : World}

theorem Concurs.trans (first : w.Concurs v) (second : v.Concurs u) : w.Concurs u where
  backing := second.backing.trans first.backing
  buffer := second.buffer.trans first.buffer
  topic channel := (second.topic channel).trans (first.topic channel)
  tally := second.tally.trans first.tally
  messages := second.messages.trans first.messages
  lookups := second.lookups.trans first.lookups
  timing := False.elim

theorem Matches.concurs (matching : w.Matches False Backing.Same v) : w.Concurs v :=
  matching.toAgrees.relate (congrArg Backing.books matching.backing)

/-- Neither time nor the log makes a difference. -/
theorem concurs_noted (w : World) (ms later : Nat) (notice : Notice) :
    (((w.after ms).note notice).after later).Concurs w where
  backing := rfl
  buffer := rfl
  topic _ := rfl
  tally := rfl
  messages := rfl
  lookups := rfl
  timing := False.elim

end World

/-- A message was handled as if it had been attempted once. -/
structure Transparent (settings : Settings) (e : Entry Inbound Unit)
    (tries : List (Entry Nat Outcome)) : Prop where
  /-- There are no more attempts than the settings allow. -/
  length_le : tries.length ≤ settings.retries + 1
  /-- Only a fault of the store is followed by another attempt. -/
  followed : ∀ t ∈ tries.dropLast, ∃ text, t.ending = .failed (.store text)
  /-- Where the last attempt has succeeded, all is as a single attempt would have left it. -/
  single {value : Json.Value} {last : Entry Nat Outcome} {outcome : Outcome}
    (read : Json.readValue e.event.payload = .ok value) (isLast : tries.getLast? = some last)
    (succeeds : last.ending = .done outcome) :
    (((Job.ofMessage value).handler settings.thresholdNanos).runIn
        (e.before.single last.before (Job.ofMessage value))).2 = .done outcome ∧
      e.after.Concurs (((Job.ofMessage value).handler settings.thresholdNanos).runIn
        (e.before.single last.before (Job.ofMessage value))).1
  /-- Where every attempt has met a fault of the store, there were as many as may be, and nothing
  has come of the message for the rows, the buffer and the topics. -/
  exhausted (some : tries ≠ []) (fails : ∀ t ∈ tries, ∃ text, t.ending = .failed (.store text)) :
    tries.length = settings.retries + 1 ∧ e.after.store.systems = e.before.store.systems ∧
      e.after.buffer = e.before.buffer ∧
      ∀ channel, e.after.topic channel = e.before.topic channel

section

variable {settings : Settings} {e : Entry Inbound Unit} {tries : List (Entry Nat Outcome)}

/-- Before a message is attempted it is numbered, and its arrival is logged. -/
theorem World.Ahead.of_arrival {threshold : Nat} {job : Job} {start numbered met : World}
    {notice : Notice} {serial : Nat}
    (numbers : (Flow.perform (.next .messages)).Takes World.Elapses start
      [⟨.next .messages, serial⟩] numbered (.done serial))
    (arrives : (Flow.log notice).Takes World.Elapses numbered [⟨.log notice, ()⟩] met (.done ())) :
    start.Ahead threshold job met := by
  have inside : (Effect.next .messages).IsInward := trivial
  have first : start.Ahead threshold job numbered := by
    refine (World.Ahead.refl start).pause (only_perform inside) ?_ numbers
    rintro b' answer rfl
    rfl
  have inward : (Flow.log notice).Only Effect.IsInward := only_perform trivial
  refine first.pause inward ?_ arrives
  rintro b' ⟨⟩ rfl
  rfl

/-- Whatever the store refuses and however time goes by, a message that is handled while nothing
else goes on is handled as if it had been attempted once. -/
theorem retries_transparent
    (takes : (handleMessage settings e.event).Takes World.Elapses e.before e.deeds e.after e.ending)
    (steady : IsSteady e.before.clock)
    (genuine : ∀ m ∈ e.before.store.markers, m.deletedAt.IsGenuine) :
    (∃ tries, Attempts settings World.Elapses e tries) ∧
      ∀ tries, Attempts settings World.Elapses e tries → Transparent settings e tries := by
  refine ⟨exists_attempts takes, fun tries attempts => ?_⟩
  cases attempts with
  | unread unread =>
      constructor
      case length_le => exact Nat.zero_le _
      case followed =>
        intro t mem
        contradiction
      case single =>
        intro value last outcome read isLast
        contradiction
      case exhausted =>
        intro some
        contradiction
  | @read value notice serial numbered met more tries read numbers arrives tried goesOn =>
      have ahead : e.before.Ahead settings.thresholdNanos (Job.ofMessage value) met :=
        .of_arrival numbers arrives
      constructor
      case length_le => exact tried.length_le
      case followed => exact tried.followed
      case single =>
        intro value' last outcome read' isLast succeeds
        cases read.symm.trans read'
        obtain ⟨aheadLast, takesLast⟩ := tried.ahead ahead last (List.mem_of_getLast? isLast)
        obtain ⟨ended, ran⟩ := takesLast.runIn_eq (World.Matches.refl last.before)
        obtain ⟨same, left⟩ := aheadLast.pairs_single steady genuine
        rw [World.performBy_answer] at same left
        change (Flow.runIn _ _).2 = (Flow.runIn _ _).2 at same
        change IfDone _ (Flow.runIn _ _).2 (Flow.runIn _ _).1 (Flow.runIn _ _).1 at left
        rw [ended, succeeds] at same left
        obtain ⟨notice, ms, later, ends⟩ := tried.last_done isLast succeeds
        refine ⟨same, ?_⟩
        rw [ends]
        exact (World.concurs_noted _ _ _ _).trans (ran.concurs.trans left.concurs)
      case exhausted =>
        intro some fails
        obtain ⟨last, isLast⟩ := List.getLast?_isSome.mpr some |> Option.isSome_iff_exists.mp
        obtain ⟨text, failed⟩ := fails last (List.mem_of_getLast? isLast)
        obtain ⟨aheadLast, takesLast⟩ := tried.ahead ahead last (List.mem_of_getLast? isLast)
        rw [failed] at takesLast
        have aheadAfter := aheadLast.failed takesLast
        obtain ⟨notice, ms, between, later, ends⟩ := tried.last_failed isLast failed
        rw [ends]
        exact ⟨tried.length_eq fails, aheadAfter.trace.systems, aheadAfter.inside.buffer,
          aheadAfter.inside.topic⟩

end

namespace Sample

/-- A deletion whose first attempt is refused once its marker is set. -/
def retried : Entry Inbound Unit :=
  .ofRun (handleMessage twice) ⟨0, Text.payload "\x7b\"type\":\"delete\",\"id\":\"h\"\x7d"⟩
    { world with outage := fun n => n == 1 }

theorem takes_retried : (handleMessage twice retried.event).Takes World.Elapses retried.before
    retried.deeds retried.after retried.ending :=
  Entry.takes_ofRun World.elapses_after (handleMessage twice) _ _

end Sample

/-- The marker that the first attempt has set is set anew by the second. -/
theorem retries_transparent_sample :
    Sample.retried.after.calls = 5 ∧ Sample.retried.after.store.markers = [⟨"h", ⟨1, 0⟩⟩] ∧
      ∃ tries, Attempts Sample.twice World.Elapses Sample.retried tries ∧
        Transparent Sample.twice Sample.retried tries := by
  obtain ⟨⟨tries, attempts⟩, transparent⟩ := retries_transparent Sample.takes_retried
    Sample.steady (fun m mem => absurd mem List.not_mem_nil)
  exact ⟨by decide +kernel, by decide +kernel, tries, attempts, transparent tries attempts⟩

end FleetRoster
