import FleetRoster.Proofs.Handler.Answered
import FleetRoster.Proofs.Roster.Aging

/-!
# Events that are delivered again

The last events of a history are delivered once more, in the same order. A host ends as it was,
unless its last upload comes too soon after a deletion that was delivered again before it: the guard
takes that one for a new deletion, so it turns the upload away, and the row is left stale. A row is
never lost, and stays on its baseline.
-/

namespace FleetRoster

open Calendar (Instant IsSteady)

/-! ## Views -/

/-- What can be told of a host that has a row. -/
structure HostView where
  displayName : String
  checksum : Option String
  stale : Bool
  baseline : Option Int
deriving DecidableEq, Repr

def SystemRow.view (r : SystemRow) : HostView where
  displayName := r.displayName
  checksum := r.checksum
  stale := r.stale
  baseline := r.baseline

/-- What a store tells of a host of an organization, if there is a row. -/
def Store.view (s : Store) (org inventoryId : String) : Option HostView :=
  (s.account? org).bind fun a => (s.system? a.id inventoryId).map (·.view)

theorem Store.view_of_account? {s : Store} {org : String} {account : Int}
    (found : s.account? org = some ⟨account, org⟩) (inventoryId : String) :
    s.view org inventoryId = (s.system? account inventoryId).map (·.view) := by
  rw [Store.view, found]
  rfl

/-- A mark makes no difference to a row that is stale. -/
theorem SystemRow.view_stamped {r : SystemRow} (stale : r.stale = true) (mark : Option Instant) :
    (r.stamped mark).view = r.view := by
  cases mark with
  | none => rfl
  | some time => simp only [stamped, markedStale, view, stale]

/-! ## Redelivery -/

/-- An event is an upload of a host by an organization. -/
def Job.Uploads (org inventoryId : String) (job : Job) : Prop :=
  ∃ r, job.report? = some r ∧ r.org = org ∧ r.inventoryId = inventoryId

namespace Entry

/-- An upload was evaluated, or a deletion done. -/
def IsApplied (e : Entry Job Outcome) : Prop :=
  (∃ r account, e.Evaluates r account) ∨ ∃ inventoryId, e.Deletes inventoryId

/-- The store refused nothing. -/
def IsAnswered (e : Entry Job Outcome) : Prop :=
  ∀ d ∈ e.deeds, d.IsAnswered

end Entry

/-- Entries of the same events agree on what is true of all these events. -/
theorem Entry.forall_event_iff (p : Job → Prop) {entries others : List (Entry Job Outcome)}
    (same : entries.map (·.event) = others.map (·.event)) :
    (∀ e ∈ entries, p e.event) ↔ ∀ e ∈ others, p e.event := by
  rw [← List.forall_mem_map (P := p), same, List.forall_mem_map]

/-- Events were all applied, and the last ones were delivered again: `first` and then `repeated` are
the entries of the events, and `again` those of the second delivery. The store answered, and the
clock went on. -/
structure Redelivered (threshold : Nat) (start mid w : World)
    (first repeated again : List (Entry Job Outcome)) : Prop where
  once : Handled (Job.handler threshold) World.Aside start (first ++ repeated) mid
  twice : Handled (Job.handler threshold) World.Aside mid again w
  same : again.map (·.event) = repeated.map (·.event)
  applied : ∀ e ∈ first ++ repeated, e.IsApplied
  answered : ∀ e ∈ first ++ repeated, e.IsAnswered
  answeredAgain : ∀ e ∈ again, e.IsAnswered
  steady : IsSteady start.clock
  dated : ∀ n, (start.clock n).isRepresentable = true
  sound : start.books.IsSound
  genuine : ∀ m ∈ start.store.markers, m.deletedAt.IsGenuine

/-- The last upload of a host comes within the threshold of a deletion before it, by its first
reading of the clock. -/
def Hindered (threshold : Nat) (org inventoryId : String) (history : List (Entry Job Outcome)) :
    Prop :=
  ∃ earlier e later, history = earlier ++ e :: later ∧ e.event.Uploads org inventoryId ∧
    (∀ x ∈ later, ¬ x.event.Uploads org inventoryId) ∧
    ∃ d ∈ earlier, d.event.deletion? = some inventoryId ∧
      ∃ deleted ∈ d.readings, ∃ time : Instant, e.readings.head? = some time ∧
        time.nanos < deleted.nanos + threshold

/-- What a second delivery has made of the hosts. -/
structure Harmless (threshold : Nat) (mid w : World) (again : List (Entry Job Outcome)) :
    Prop where
  /-- A host is as it was, unless its upload came too soon after a deletion. -/
  unchanged {org inventoryId : String} (unhindered : ¬ Hindered threshold org inventoryId again) :
    w.store.view org inventoryId = mid.store.view org inventoryId
  /-- If it came too soon, the row is left stale. -/
  stale {org inventoryId : String} (hindered : Hindered threshold org inventoryId again) :
    ∃ view, w.store.view org inventoryId = some view ∧ view.stale = true
  /-- There is a row where there was one, and it is on the same baseline. -/
  baseline (org inventoryId : String) :
    (w.store.view org inventoryId).map (·.baseline) =
      (mid.store.view org inventoryId).map (·.baseline)

/-! ## What comes of the events -/

/-- An upload of an organization that has an account makes no other. -/
theorem Course.accounts_of_known {threshold : Nat} {job : Job} {b b' : Books}
    {readings : List Instant} {items : List Item} {ending : Ending Outcome}
    (course : Course threshold job b readings items ending b')
    (known : ∀ r, job.report? = some r → (b.store.account? r.org).isSome) :
    b'.store.accounts = b.store.accounts := by
  have resolved : ∀ {r : Report} {account b'}, job.report? = some r →
      b.Resolves r.org account b' → b'.store.accounts = b.store.accounts := by
    intro r account b' reported resolves
    obtain ⟨a, found⟩ := Option.isSome_iff_exists.mp (known r reported)
    cases resolves with
    | known _ => rfl
    | made _ =>
        have same : b.store.upsertAccount r.org = (b.store, a.id) := by
          rw [Store.upsertAccount, found]
        rw [same]
        rfl
  cases course with
  | idle _ _ => rfl
  | ignored _ _ _ => rfl
  | resolved _ _ reported resolves => exact resolved reported resolves
  | filed reported _ resolves =>
      rw [Books.writing, Store.upsertSystem_accounts]
      exact resolved reported resolves
  | marked _ _ => exact Store.upsertMarker_accounts _ _ _
  | deleted _ _ _ cleared =>
      rcases cleared with rfl | rfl
      · exact Store.upsertMarker_accounts _ _ _
      · exact Store.upsertMarker_accounts _ _ _
  | crashed _ _ => exact Store.upsertMarker_accounts _ _ _

namespace Handled

variable {threshold : Nat} {start w : World} {history : List (Entry Job Outcome)}
  {org inventoryId : String} {account : Int}

theorem accounts_of_known (handled : Handled (Job.handler threshold) World.Aside start history w)
    (known : ∀ e ∈ history, ∀ r, e.event.report? = some r → (start.store.account? r.org).isSome) :
    w.store.accounts = start.store.accounts :=
  handled.invariant (fun w => w.books.store.accounts = start.store.accounts) rfl
    (fun aside same => aside.books ▸ same)
    (fun {e} takes mem same => by
      have found : ∀ r, e.event.report? = some r → (e.before.store.account? r.org).isSome := by
        intro r reported
        rw [Store.account?, show e.before.store.accounts = start.store.accounts from same]
        exact known e mem r reported
      exact ((Entry.follows_of_takes takes).accounts_of_known found).trans same)

/-- An upload was written into the row of its organization's account, if it was evaluated. -/
theorem writes_iff (handled : Handled (Job.handler threshold) World.Aside start history w)
    (sound : start.books.IsSound) (found : w.store.account? org = some ⟨account, org⟩)
    {e : Entry Job Outcome} (mem : e ∈ history) :
    e.Writes account inventoryId ↔
      e.event.Uploads org inventoryId ∧ ∃ granted, e.ending = .done (.evaluated granted) := by
  rw [handled.files_iff sound e mem]
  constructor
  · rintro ⟨r, reported, about, granted, evaluated⟩
    have same := (handled.isSound sound).store.org_unique granted found
    exact ⟨⟨r, reported, same, about⟩, evaluated⟩
  · rintro ⟨⟨r, reported, rfl, about⟩, evaluated⟩
    exact ⟨r, reported, about, found, evaluated⟩

/-- No row of a host that was deleted is fresh, if nothing was written into it since. -/
theorem stale_of_cut {earlier later : List (Entry Job Outcome)} {d : Entry Job Outcome}
    (handled : Handled (Job.handler threshold) World.Aside start (earlier ++ d :: later) w)
    (alive : ∀ e ∈ later, e.ending ≠ .crashed) (deletes : d.Deletes inventoryId)
    (unwritten : ∀ e ∈ later, ¬ e.Writes account inventoryId) {row : SystemRow}
    (found : w.store.system? account inventoryId = some row) : row.stale = true := by
  obtain ⟨_, takes, after⟩ := handled.cut
  obtain ⟨mark, _, made⟩ := after.stamped alive account inventoryId unwritten
  rw [found, eq_comm, Option.map_eq_some_iff] at made
  obtain ⟨old, looked, rfl⟩ := made
  exact SystemRow.stamped_stale
    ((Entry.follows_of_takes takes).stale_of_deletes deletes looked) mark

/-- Where the store answers, an event comes to what its message has set it to. -/
theorem concludes (handled : Handled (Job.handler threshold) World.Aside start history w)
    {e : Entry Job Outcome} (mem : e ∈ history) (answered : e.IsAnswered) :
    e.event.Concludes e.ending := by
  obtain ⟨earlier, later, rfl⟩ := List.append_of_mem mem
  obtain ⟨_, takes, _⟩ := handled.cut
  exact (ends_handler threshold e.event).of_takes takes answered

end Handled

namespace Entry.Follows

variable {threshold : Nat} {e : Entry Job Outcome}

/-- From the reading of a deletion that was done the threshold does not reach back too far. -/
theorem back_of_deletes {inventoryId : String} (follows : e.Follows threshold)
    (deletes : e.Deletes inventoryId) :
    ∃ time, e.readings = [time] ∧ (time.earlier? threshold).isSome := by
  obtain ⟨_, rows, deleted⟩ := deletes
  unfold Follows at follows
  rw [deleted] at follows
  generalize e.readings = readings at follows
  generalize e.items = items at follows
  generalize e.after.books = after at follows
  cases follows with
  | idle _ idle => exact idle.elim
  | deleted _ _ back _ =>
      refine ⟨_, rfl, ?_⟩
      rw [back]
      rfl

/-- An upload is ignored because the marker of its host is recent, by the first reading of the
clock. -/
theorem marker_of_ignored {org inventoryId : String} (follows : e.Follows threshold)
    (uploads : e.event.Uploads org inventoryId) (ignored : e.ending = .done .recentlyDeleted) :
    ∃ m time, e.before.store.marker? inventoryId = some m ∧ e.readings = [time] ∧
      m.isRecent time threshold = true := by
  rw [Follows, ignored] at follows
  obtain ⟨r, m, time, reported, marked, read, recent⟩ := Course.marker_of_ignored follows
  obtain ⟨_, alsoReported, _, rfl⟩ := uploads
  cases reported.symm.trans alsoReported
  exact ⟨m, time, marked, read, recent⟩

end Entry.Follows

namespace Redelivered

variable {threshold : Nat} {start mid w : World} {first repeated again : List (Entry Job Outcome)}
  {org inventoryId : String} {account : Int} {e : Entry Job Outcome}

/-! ## The first delivery -/

section

variable (redelivered : Redelivered threshold start mid w first repeated again)
include redelivered

theorem alive : ∀ e ∈ first ++ repeated, e.ending ≠ .crashed := by
  intro e mem crashed
  rcases redelivered.applied e mem with ⟨r, account, _, evaluated⟩ | ⟨inventoryId, _, rows, deleted⟩
  · cases crashed.symm.trans evaluated
  · cases crashed.symm.trans deleted

/-- An upload was evaluated. -/
theorem evaluated (mem : e ∈ first ++ repeated) (uploads : e.event.Uploads org inventoryId) :
    ∃ granted, e.ending = .done (.evaluated granted) := by
  obtain ⟨r, reported, _⟩ := uploads
  rcases redelivered.applied e mem with ⟨_, account, _, evaluated⟩ | ⟨_, deletion, _⟩
  · exact ⟨account, evaluated⟩
  · cases deletion.symm.trans (Job.deletion?_of_report? reported)

/-- A deletion was done. -/
theorem deletes (mem : e ∈ first ++ repeated) (deletion : e.event.deletion? = some inventoryId) :
    e.Deletes inventoryId := by
  rcases redelivered.applied e mem with ⟨_, account, reported, _⟩ | ⟨_, alsoDeletion, done⟩
  · cases deletion.symm.trans (Job.deletion?_of_report? reported)
  · cases deletion.symm.trans alsoDeletion
    exact ⟨deletion, done⟩

/-- Where an entry of the second delivery is, there is one of the same event in the first, with the
same events before it and after it. -/
theorem exists_cut {earlier later : List (Entry Job Outcome)}
    (cut : again = earlier ++ e :: later) :
    ∃ earlier' e' later', repeated = earlier' ++ e' :: later' ∧ e'.event = e.event ∧
      later'.map (·.event) = later.map (·.event) := by
  have same := redelivered.same.symm
  rw [cut, List.map_append, List.map_cons, List.map_eq_append_iff] at same
  obtain ⟨earlier', rest, rfl, _, sameRest⟩ := same
  rw [List.map_eq_cons_iff] at sameRest
  obtain ⟨e', later', rfl, event, events⟩ := sameRest
  exact ⟨earlier', e', later', rfl, event, events⟩

/-- What is delivered again was delivered before. -/
theorem exists_repeated (mem : e ∈ again) : ∃ x ∈ repeated, x.event = e.event := by
  obtain ⟨earlier, later, cut⟩ := List.append_of_mem mem
  obtain ⟨_, x, _, rfl, event, _⟩ := redelivered.exists_cut cut
  exact ⟨x, by simp, event⟩

/-! ## The second delivery -/

theorem clockAgain : mid.clock = start.clock :=
  redelivered.once.ticks.clock

theorem steadyAgain : IsSteady mid.clock := by
  rw [redelivered.clockAgain]
  exact redelivered.steady

theorem soundAgain : mid.books.IsSound :=
  redelivered.once.isSound redelivered.sound

theorem genuineAgain : ∀ m ∈ mid.store.markers, m.deletedAt.IsGenuine :=
  redelivered.once.isGenuine redelivered.steady redelivered.genuine

/-- What the second delivery reads is not earlier than what the first one has read. -/
theorem le_of_read {x : Entry Job Outcome} (mem : x ∈ first ++ repeated) {time : Instant}
    (read : time ∈ x.readings) (memAgain : e ∈ again) {later : Instant}
    (readAgain : later ∈ e.readings) :
    time.IsOrdinary ∧ later.IsOrdinary ∧ time.nanos ≤ later.nanos ∧
      later.isRepresentable = true := by
  obtain ⟨m, _, lt, rfl⟩ := redelivered.once.shows mem read
  obtain ⟨n, ge, _, rfl⟩ := redelivered.twice.shows memAgain readAgain
  rw [redelivered.clockAgain]
  exact ⟨redelivered.steady.ordinary m, redelivered.steady.ordinary n,
    redelivered.steady.nanos_le (Nat.le_of_lt (Nat.lt_of_lt_of_le lt ge)), redelivered.dated n⟩

/-- No deletion that is delivered again crashes, since it has not crashed before. -/
theorem aliveAgain : ∀ e ∈ again, e.ending ≠ .crashed := by
  intro e mem crashed
  obtain ⟨inventoryId, later, deletion, readAgain, back⟩ :=
    (redelivered.twice.follows mem).back_of_crashed crashed
  obtain ⟨x, repeatedMem, event⟩ := redelivered.exists_repeated mem
  have xMem : x ∈ first ++ repeated := List.mem_append_right _ repeatedMem
  have deletes : x.Deletes inventoryId := redelivered.deletes xMem (event ▸ deletion)
  obtain ⟨time, readOnce, isSome⟩ := (redelivered.once.follows xMem).back_of_deletes deletes
  have read : time ∈ x.readings := by simp [readOnce]
  have readLater : later ∈ e.readings := by simp [readAgain]
  obtain ⟨ordinary, ordinaryLater, le, representable⟩ :=
    redelivered.le_of_read xMem read mem readLater
  have isSomeAgain := Instant.isSome_earlier?_of_le ordinary ordinaryLater isSome le
    (Instant.isRepresentable_iff.mp representable).2
  rw [back] at isSomeAgain
  contradiction

/-- An event that is delivered again is an upload that is taken in or a deletion. -/
theorem not_idle (mem : e ∈ again) : ¬ e.event.IsIdle := by
  intro idle
  obtain ⟨x, repeatedMem, same⟩ := redelivered.exists_repeated mem
  have xMem : x ∈ first ++ repeated := List.mem_append_right _ repeatedMem
  rw [← same] at idle
  rcases redelivered.applied x xMem with ⟨r, account, _, evaluated⟩ | ⟨inventoryId, deletion, _⟩
  · have concludes := redelivered.once.concludes xMem (redelivered.answered x xMem)
    rw [evaluated] at concludes
    cases concludes with
    | idle _ nothing => exact nothing
    | evaluated _ accepted => cases accepted.symm.trans idle.notAccepted
  · cases deletion.symm.trans idle.notDeletion

/-- An upload that is delivered again is evaluated or ignored. -/
theorem evaluated_or_ignored (mem : e ∈ again) (uploads : e.event.Uploads org inventoryId) :
    (∃ granted, e.ending = .done (.evaluated granted)) ∨ e.ending = .done .recentlyDeleted := by
  obtain ⟨r, reported, _⟩ := uploads
  have notDeletion := Job.deletion?_of_report? reported
  have concludes := redelivered.twice.concludes mem (redelivered.answeredAgain e mem)
  generalize e.ending = ending at concludes
  cases concludes with
  | idle idle _ => exact absurd idle (redelivered.not_idle mem)
  | evaluated account _ => exact .inl ⟨account, rfl⟩
  | ignored _ => exact .inr rfl
  | deleted _ deletion => cases deletion.symm.trans notDeletion
  | crashed deletion => cases deletion.symm.trans notDeletion

/-- A deletion that is delivered again is done. -/
theorem deletesAgain (mem : e ∈ again) (deletion : e.event.deletion? = some inventoryId) :
    e.Deletes inventoryId := by
  have notAccepted := Job.accepted?_of_deletion? deletion
  have alive := redelivered.aliveAgain e mem
  have concludes := redelivered.twice.concludes mem (redelivered.answeredAgain e mem)
  generalize ended : e.ending = ending at concludes alive
  cases concludes with
  | idle idle _ => exact absurd idle (redelivered.not_idle mem)
  | evaluated _ accepted => cases accepted.symm.trans notAccepted
  | ignored accepted => cases accepted.symm.trans notAccepted
  | deleted rows _ => exact ⟨deletion, rows, ended⟩
  | crashed _ => exact absurd rfl alive

/-! ## Accounts -/

/-- The second delivery makes no account. -/
theorem accounts : w.store.accounts = mid.store.accounts := by
  apply redelivered.twice.accounts_of_known
  intro e mem r reported
  obtain ⟨x, repeatedMem, event⟩ := redelivered.exists_repeated mem
  have xMem : x ∈ first ++ repeated := List.mem_append_right _ repeatedMem
  have uploads : x.event.Uploads r.org r.inventoryId := ⟨r, event ▸ reported, rfl, rfl⟩
  obtain ⟨granted, evaluated⟩ := redelivered.evaluated xMem uploads
  rw [redelivered.once.granted redelivered.sound xMem ⟨event ▸ reported, evaluated⟩]
  rfl

theorem account?_eq (org : String) : w.store.account? org = mid.store.account? org := by
  rw [Store.account?, redelivered.accounts, ← Store.account?]

/-- In the first delivery every upload was written. -/
theorem writes_iff (found : mid.store.account? org = some ⟨account, org⟩)
    (mem : e ∈ first ++ repeated) :
    e.Writes account inventoryId ↔ e.event.Uploads org inventoryId := by
  rw [redelivered.once.writes_iff redelivered.sound found mem]
  constructor
  · exact fun written => written.1
  · exact fun uploads => ⟨uploads, redelivered.evaluated mem uploads⟩

/-- In the second delivery only uploads are written. -/
theorem uploads_of_writes (found : mid.store.account? org = some ⟨account, org⟩) (mem : e ∈ again)
    (writes : e.Writes account inventoryId) : e.event.Uploads org inventoryId := by
  rw [← redelivered.account?_eq] at found
  exact ((redelivered.twice.writes_iff redelivered.soundAgain found mem).mp writes).1

/-! ## Rows -/

/-- An upload has a row before it is delivered again. -/
theorem exists_row (mem : e ∈ again) (uploads : e.event.Uploads org inventoryId) :
    ∃ account row, mid.store.account? org = some ⟨account, org⟩ ∧
      mid.store.system? account inventoryId = some row := by
  obtain ⟨x, repeatedMem, event⟩ := redelivered.exists_repeated mem
  have xMem : x ∈ first ++ repeated := List.mem_append_right _ repeatedMem
  rw [← event] at uploads
  obtain ⟨account, evaluated⟩ := redelivered.evaluated xMem uploads
  obtain ⟨r, reported, rfl, about⟩ := uploads
  have found := redelivered.once.granted redelivered.sound xMem ⟨reported, evaluated⟩
  have writes : x.Writes account inventoryId := ⟨r, ⟨reported, evaluated⟩, about⟩
  obtain ⟨last, later, isLast⟩ := exists_lastOf ⟨x, xMem, writes⟩
  obtain ⟨_, _, _, _, _, _, _, _, row⟩ := redelivered.once.row_of_last redelivered.alive isLast
  exact ⟨account, _, found, row⟩

section

variable {rest later : List (Entry Job Outcome)}
  (events : rest.map (·.event) = later.map (·.event))
include events

/-- Where no upload is delivered again, none was written before. -/
theorem unwritten (found : mid.store.account? org = some ⟨account, org⟩)
    (delivered : ∀ x ∈ rest, x ∈ first ++ repeated)
    (absent : ∀ x ∈ later, ¬ x.event.Uploads org inventoryId) :
    ∀ x ∈ rest, ¬ x.Writes account inventoryId := by
  intro x mem
  rw [redelivered.writes_iff found (delivered x mem)]
  exact (Entry.forall_event_iff (¬ ·.Uploads org inventoryId) events).mpr absent x mem

/-- Where no deletion is delivered again, none was done before. -/
theorem undeleted_iff (delivered : ∀ x ∈ rest, x ∈ first ++ repeated)
    (deliveredAgain : ∀ x ∈ later, x ∈ again) :
    (∀ x ∈ rest, ¬ x.Deletes inventoryId) ↔ ∀ x ∈ later, ¬ x.Deletes inventoryId := by
  have same := Entry.forall_event_iff (·.deletion? ≠ some inventoryId) events
  constructor
  · intro undeleted x mem deletes
    refine same.mp ?_ x mem deletes.1
    exact fun y yMem deletion =>
      undeleted y yMem (redelivered.deletes (delivered y yMem) deletion)
  · intro undeleted x mem deletes
    refine same.mpr ?_ x mem deletes.1
    exact fun y yMem deletion =>
      undeleted y yMem (redelivered.deletesAgain (deliveredAgain y yMem) deletion)

end

/-- A row whose host is deleted after its last upload is stale before the second delivery too. -/
theorem stale_of_late (found : mid.store.account? org = some ⟨account, org⟩)
    {earlier later : List (Entry Job Outcome)} (cut : again = earlier ++ e :: later)
    (deletion : e.event.deletion? = some inventoryId)
    (absent : ∀ x ∈ later, ¬ x.event.Uploads org inventoryId) {row : SystemRow}
    (looked : mid.store.system? account inventoryId = some row) : row.stale = true := by
  obtain ⟨earlier', e', later', rfl, event, events⟩ := redelivered.exists_cut cut
  have once := redelivered.once
  have alive := redelivered.alive
  have deletes : e'.Deletes inventoryId := redelivered.deletes (by simp) (event ▸ deletion)
  have unwritten : ∀ x ∈ later', ¬ x.Writes account inventoryId :=
    redelivered.unwritten events found (fun x mem => by simp [mem]) absent
  rw [← List.append_assoc] at once alive
  rw [List.forall_mem_append, List.forall_mem_cons] at alive
  exact once.stale_of_cut alive.2.2 deletes unwritten looked

/-- A row into which nothing is written shows as before, if it was stale where its host is deleted
again. -/
theorem view_of_unwritten (unwritten : ∀ e ∈ again, ¬ e.Writes account inventoryId)
    (late : ∀ e ∈ again, e.Deletes inventoryId → ∀ row,
      mid.store.system? account inventoryId = some row → row.stale = true) :
    (w.store.system? account inventoryId).map (·.view) =
      (mid.store.system? account inventoryId).map (·.view) := by
  obtain ⟨mark, leaves, made⟩ :=
    redelivered.twice.stamped redelivered.aliveAgain account inventoryId unwritten
  rw [made, Option.map_map]
  by_cases deleted : ∃ e ∈ again, e.Deletes inventoryId
  · obtain ⟨e, mem, deletes⟩ := deleted
    apply Option.map_congr
    intro row looked
    exact SystemRow.view_stamped (late e mem deletes row looked) mark
  · have none : mark = none := leaves.none_iff.mpr fun e mem deletes => deleted ⟨e, mem, deletes⟩
    subst none
    rfl

/-- A row whose last upload is evaluated again shows as before: it was the last one that was written
before, and as many deletions came after it. -/
theorem view_of_evaluated (found : mid.store.account? org = some ⟨account, org⟩)
    {later : List (Entry Job Outcome)}
    (last : LastOf (fun e => e.event.Uploads org inventoryId) again e later)
    (evaluated : ∃ granted, e.ending = .done (.evaluated granted)) :
    (w.store.system? account inventoryId).map (·.view) =
      (mid.store.system? account inventoryId).map (·.view) := by
  obtain ⟨⟨earlier, cut⟩, uploads, absent⟩ := last
  have foundAgain := (redelivered.account?_eq org).trans found
  have mem : e ∈ again := by simp [cut]
  have writes : e.Writes account inventoryId :=
    (redelivered.twice.writes_iff redelivered.soundAgain foundAgain mem).mpr ⟨uploads, evaluated⟩
  have lastAgain : LastOf (Entry.Writes account inventoryId) again e later :=
    ⟨⟨earlier, cut⟩, writes, fun x xMem written =>
      absent x xMem (redelivered.uploads_of_writes found (by simp [cut, xMem]) written)⟩
  obtain ⟨r, time, base, mark, ⟨reported, _⟩, about, _, leaves, row⟩ :=
    redelivered.twice.row_of_last redelivered.aliveAgain lastAgain
  -- the same upload was the last one before, so what it wrote is there already
  obtain ⟨earlier', e', later', rfl, event, events⟩ := redelivered.exists_cut cut
  have delivered : ∀ x ∈ later', x ∈ first ++ (earlier' ++ e' :: later') := by
    intro x mem
    simp [mem]
  have lastOnce : LastOf (Entry.Writes account inventoryId) (first ++ (earlier' ++ e' :: later'))
      e' later' := by
    refine ⟨⟨first ++ earlier', by simp⟩, ?_, redelivered.unwritten events found delivered absent⟩
    exact (redelivered.writes_iff found (by simp)).mpr (event ▸ uploads)
  obtain ⟨r', time', base', mark', ⟨reported', _⟩, _, _, leaves', row'⟩ :=
    redelivered.once.row_of_last redelivered.alive lastOnce
  rw [event, reported] at reported'
  cases reported'
  have marks : mark.isSome = mark'.isSome := by
    rw [Bool.eq_iff_iff, Option.isSome_iff_ne_none, Option.isSome_iff_ne_none, Ne, Ne,
      leaves.none_iff, leaves'.none_iff,
      redelivered.undeleted_iff events delivered fun x xMem => by simp [cut, xMem]]
  obtain ⟨kept, looked, baseline⟩ := redelivered.twice.keepsField (·.baseline) (fun _ _ => rfl)
    (fun _ _ => rfl) redelivered.aliveAgain row'
  rw [row] at looked
  cases looked
  rw [row, row', Option.map_some, Option.map_some, SystemRow.view, SystemRow.view, baseline]
  simp only [SystemRow.stamped_displayName, SystemRow.stamped_checksum,
    SystemRow.stamped_take_stale, marks]
  rfl

/-- If the last upload is ignored, then its host was not deleted again before it, unless that is to
blame, and no upload of the host was evaluated again. -/
theorem unwritten_of_ignored (found : mid.store.account? org = some ⟨account, org⟩)
    {earlier later : List (Entry Job Outcome)} (cut : again = earlier ++ e :: later)
    (uploads : e.event.Uploads org inventoryId)
    (absent : ∀ x ∈ later, ¬ x.event.Uploads org inventoryId)
    (ignored : e.ending = .done .recentlyDeleted)
    (unhindered : ¬ Hindered threshold org inventoryId again) :
    (∀ x ∈ earlier, x.event.deletion? ≠ some inventoryId) ∧
      ∀ x ∈ again, ¬ x.Writes account inventoryId := by
  subst cut
  obtain ⟨before, takes, _⟩ := redelivered.twice.cut
  obtain ⟨m, time, marked, read, recent⟩ :=
    (Entry.follows_of_takes takes).marker_of_ignored uploads ignored
  obtain ⟨n, ge, _, rfl⟩ := before.read takes (u := time) (by simp [read])
  rcases before.marker?_or redelivered.soundAgain.store marked with
    ⟨_, undeleted⟩ | ⟨d, mem, deletion, left⟩
  · -- the marker is from before, so all uploads up to the last one were ignored
    have noDeletion : ∀ x ∈ earlier, x.event.deletion? ≠ some inventoryId :=
      fun x mem deletion => undeleted x mem (redelivered.deletesAgain (by simp [mem]) deletion)
    have unwritten := before.unwritten_of_recent redelivered.steadyAgain
      redelivered.soundAgain.store redelivered.genuineAgain noDeletion marked ge recent account
    constructor
    · exact noDeletion
    · rw [List.forall_mem_append, List.forall_mem_cons]
      refine ⟨unwritten, ?_, fun x mem writes =>
        absent x mem (redelivered.uploads_of_writes found (by simp [mem]) writes)⟩
      rintro ⟨_, ⟨_, evaluated⟩, _⟩
      cases ignored.symm.trans evaluated
  · -- a deletion that was delivered again has set the marker
    refine absurd ⟨earlier, e, later, rfl, uploads, absent, d, mem, deletion, m.deletedAt, left,
      mid.clock n, by rw [read]; rfl, ?_⟩ unhindered
    obtain ⟨k, shown⟩ := before.read_mem mem left
    have ordinary := redelivered.steadyAgain.ordinary
    rw [Marker.isRecent, decide_eq_true_eq,
      Instant.since_eq (ordinary n) (shown ▸ ordinary k)] at recent
    omega

/-- A row whose last upload is ignored shows as before, unless a deletion that was delivered again
is to blame: where the host is deleted again, it was stale before. -/
theorem view_of_ignored (found : mid.store.account? org = some ⟨account, org⟩)
    {later : List (Entry Job Outcome)}
    (last : LastOf (fun e => e.event.Uploads org inventoryId) again e later)
    (ignored : e.ending = .done .recentlyDeleted)
    (unhindered : ¬ Hindered threshold org inventoryId again) :
    (w.store.system? account inventoryId).map (·.view) =
      (mid.store.system? account inventoryId).map (·.view) := by
  obtain ⟨⟨earlier, cut⟩, uploads, absent⟩ := last
  obtain ⟨undeleted, unwritten⟩ :=
    redelivered.unwritten_of_ignored found cut uploads absent ignored unhindered
  apply redelivered.view_of_unwritten unwritten
  intro d mem deletes row looked
  have inLater : d ∈ later := by
    rw [cut, List.mem_append, List.mem_cons] at mem
    rcases mem with inEarlier | rfl | inLater
    · exact absurd deletes.1 (undeleted d inEarlier)
    · obtain ⟨r, reported, _⟩ := uploads
      cases deletes.1.symm.trans (Job.deletion?_of_report? reported)
    · exact inLater
  obtain ⟨between, after, rfl⟩ := List.append_of_mem inLater
  have cutLate : again = (earlier ++ e :: between) ++ d :: after := by simp [cut]
  exact redelivered.stale_of_late found cutLate deletes.1 (fun x xMem => absent x (by simp [xMem]))
    looked

/-- A row of which no upload is delivered again shows as before. -/
theorem view_of_absent (found : mid.store.account? org = some ⟨account, org⟩)
    (absent : ∀ x ∈ again, ¬ x.event.Uploads org inventoryId) :
    (w.store.system? account inventoryId).map (·.view) =
      (mid.store.system? account inventoryId).map (·.view) := by
  apply redelivered.view_of_unwritten
  · exact fun x mem writes => absent x mem (redelivered.uploads_of_writes found mem writes)
  · intro d mem deletes row looked
    obtain ⟨earlier, later, rfl⟩ := List.append_of_mem mem
    exact redelivered.stale_of_late found rfl deletes.1 (fun x xMem => absent x (by simp [xMem]))
      looked

/-- A row shows as before, unless its last upload comes too soon after a deletion. -/
theorem view_of_unhindered (found : mid.store.account? org = some ⟨account, org⟩)
    (unhindered : ¬ Hindered threshold org inventoryId again) :
    (w.store.system? account inventoryId).map (·.view) =
      (mid.store.system? account inventoryId).map (·.view) := by
  by_cases uploaded : ∃ e ∈ again, e.event.Uploads org inventoryId
  · obtain ⟨e, later, last⟩ := exists_lastOf uploaded
    obtain ⟨earlier, cut⟩ := last.cut
    rcases redelivered.evaluated_or_ignored (by simp [cut]) last.holds with evaluated | ignored
    · exact redelivered.view_of_evaluated found last evaluated
    · exact redelivered.view_of_ignored found last ignored unhindered
  · exact redelivered.view_of_absent found fun x mem uploads => uploaded ⟨x, mem, uploads⟩

/-- A host shows as before, unless its last upload comes too soon after a deletion. -/
theorem view_eq (unhindered : ¬ Hindered threshold org inventoryId again) :
    w.store.view org inventoryId = mid.store.view org inventoryId := by
  cases found : mid.store.account? org with
  | none =>
      rw [Store.view, Store.view, redelivered.account?_eq, found]
      rfl
  | some a =>
      cases Store.org_of_account? found
      rw [Store.view_of_account? found,
        Store.view_of_account? ((redelivered.account?_eq _).trans found)]
      exact redelivered.view_of_unhindered found unhindered

/-- A single event that is delivered again leaves every host as it was. -/
theorem view_eq_of_single (single : again = [e]) (org inventoryId : String) :
    w.store.view org inventoryId = mid.store.view org inventoryId := by
  apply redelivered.view_eq
  rintro ⟨earlier, x, later, cut, _, _, d, mem, _⟩
  rw [single, List.singleton_eq_append_iff] at cut
  rcases cut with ⟨rfl, _⟩ | ⟨_, none⟩
  · exact List.not_mem_nil mem
  · cases none

/-- A host whose last upload comes too soon after a deletion has a row before and in the end, on one
baseline. -/
theorem exists_rows (hindered : Hindered threshold org inventoryId again) :
    ∃ account old row, mid.store.account? org = some ⟨account, org⟩ ∧
      mid.store.system? account inventoryId = some old ∧
      w.store.system? account inventoryId = some row ∧ row.baseline = old.baseline := by
  obtain ⟨_, e, later, cut, uploads, _⟩ := hindered
  obtain ⟨account, old, found, was⟩ := redelivered.exists_row (by simp [cut]) uploads
  obtain ⟨row, looked, same⟩ := redelivered.twice.keepsField (·.baseline) (fun _ _ => rfl)
    (fun _ _ => rfl) redelivered.aliveAgain was
  exact ⟨account, old, row, found, was, looked, same⟩

/-- A row whose last upload comes too soon after a deletion is stale in the end. -/
theorem stale_of_hindered (found : mid.store.account? org = some ⟨account, org⟩)
    (hindered : Hindered threshold org inventoryId again) {row : SystemRow}
    (looked : w.store.system? account inventoryId = some row) : row.stale = true := by
  obtain ⟨_, e, later, rfl, uploads, absent, d, mem, deletion, deleted, left, time, first, soon⟩ :=
    hindered
  obtain ⟨earlier, between, rfl⟩ := List.append_of_mem mem
  have dMem : d ∈ (earlier ++ d :: between) ++ e :: later := by simp
  have deletes := redelivered.deletesAgain dMem deletion
  have alive := redelivered.aliveAgain
  have twice := redelivered.twice
  rw [List.append_assoc, List.cons_append] at alive twice
  rw [List.forall_mem_append, List.forall_mem_cons] at alive
  obtain ⟨before, takes, after⟩ := twice.cut
  have clock : d.after.clock = mid.clock := takes.clock.1.clock.trans before.ticks.clock
  have steady := redelivered.steadyAgain
  -- the deletion holds from its reading on
  have follows := Entry.follows_of_takes takes
  obtain ⟨_, rows, done⟩ := deletes
  rw [Entry.Follows, done] at follows
  obtain ⟨_, read, held⟩ := Course.holds_of_deleted follows deletion (by
    intro u shown
    obtain ⟨n, rfl⟩ := redelivered.twice.read_mem dMem shown
    exact steady.ordinary n)
  rw [read, List.mem_singleton] at left
  subst left
  obtain ⟨k, _, lt, shown⟩ := before.read takes (u := deleted) (by simp [read])
  obtain ⟨unwritten, ignored⟩ := after.unwritten_of_holds (clock ▸ steady) held (by
    intro n ge
    rw [clock, ← shown]
    exact steady.nanos_le (Nat.le_of_lt (Nat.lt_of_lt_of_le lt ge))) first soon account
  apply twice.stale_of_cut alive.2.2 ⟨deletion, rows, done⟩ _ looked
  rw [List.forall_mem_append, List.forall_mem_cons]
  exact ⟨unwritten, ignored, fun x xMem writes =>
    absent x xMem (redelivered.uploads_of_writes found (by simp [xMem]) writes)⟩

end

end Redelivered

/-! ## The second delivery is harmless -/

/-- Events that were applied and are delivered again leave every host as it was, but for those whose
last upload comes too soon after a deletion: their rows are stale then. No row comes or goes, or
gets another baseline. -/
theorem redelivery_harmless {threshold : Nat} {start mid w : World}
    {first repeated again : List (Entry Job Outcome)}
    (redelivered : Redelivered threshold start mid w first repeated again) :
    Harmless threshold mid w again := by
  constructor
  case unchanged =>
    intro org inventoryId unhindered
    exact redelivered.view_eq unhindered
  case stale =>
    intro org inventoryId hindered
    obtain ⟨account, old, row, found, _, looked, _⟩ := redelivered.exists_rows hindered
    refine ⟨row.view, ?_, redelivered.stale_of_hindered found hindered looked⟩
    rw [Store.view_of_account? ((redelivered.account?_eq _).trans found), looked]
    rfl
  case baseline =>
    intro org inventoryId
    by_cases hindered : Hindered threshold org inventoryId again
    · obtain ⟨account, old, row, found, was, looked, same⟩ := redelivered.exists_rows hindered
      rw [Store.view_of_account? found, Store.view_of_account?
        ((redelivered.account?_eq _).trans found), was, looked]
      exact congrArg some same
    · rw [redelivered.view_eq hindered]

namespace Sample

/-- The host is deleted once more. -/
def deletedAgain : Entry Job Outcome :=
  .ofRun (Job.handler threshold) deletion ignored.after

theorem dated (n : Nat) : (world.clock n).isRepresentable = true := by
  have first : Calendar.firstSecond ≤ 0 := by decide
  have last : 100 ≤ Calendar.lastSecond := by decide
  rw [Instant.isRepresentable_iff]
  simp only [world]
  omega

/-- An upload and the deletion of its host are delivered twice. -/
theorem redelivered :
    Redelivered threshold world deleted.after deletedAgain.after [] [uploaded, deleted]
      [ignored, deletedAgain] where
  once := (Handled.start.run World.aside_after upload).run World.aside_after deletion
  twice := (Handled.start.run World.aside_after upload).run World.aside_after deletion
  same := rfl
  applied := by
    rw [List.nil_append, List.forall_mem_cons, List.forall_mem_singleton]
    exact ⟨.inl ⟨_, 1, rfl, rfl⟩, .inr ⟨"h", rfl, 1, rfl⟩⟩
  answered := by
    rw [List.nil_append, List.forall_mem_cons, List.forall_mem_singleton]
    exact ⟨Flow.isAnswered_of_mem_deedsIn fun _ => rfl,
      Flow.isAnswered_of_mem_deedsIn fun _ => rfl⟩
  answeredAgain := by
    rw [List.forall_mem_cons, List.forall_mem_singleton]
    exact ⟨Flow.isAnswered_of_mem_deedsIn fun _ => rfl,
      Flow.isAnswered_of_mem_deedsIn fun _ => rfl⟩
  steady := steady
  dated := dated
  sound := Books.isSound_empty
  genuine _ mem := absurd mem List.not_mem_nil

end Sample

theorem redelivery_harmless_sample :
    Sample.ignored.ending = .done .recentlyDeleted ∧
      Sample.deletedAgain.ending = .done (.deleted 1) ∧
      Harmless Sample.threshold Sample.deleted.after Sample.deletedAgain.after
        [Sample.ignored, Sample.deletedAgain] :=
  ⟨rfl, rfl, redelivery_harmless Sample.redelivered⟩

namespace Sample

/-- A world whose clock leaps over the threshold after its first reading. -/
def leaping : World :=
  { world with clock := fun n => ⟨if n = 0 then 0 else 100, 0⟩ }

/-- The host is deleted before there is one. -/
def early : Entry Job Outcome :=
  .ofRun (Job.handler threshold) deletion leaping

/-- It is uploaded long after that. -/
def filedLate : Entry Job Outcome :=
  .ofRun (Job.handler threshold) upload early.after

/-- The deletion is delivered again. -/
def earlyAgain : Entry Job Outcome :=
  .ofRun (Job.handler threshold) deletion filedLate.after

/-- The upload is delivered again right after it. -/
def hindered : Entry Job Outcome :=
  .ofRun (Job.handler threshold) upload earlyAgain.after

theorem leaping_steady : IsSteady leaping.clock where
  ordinary n := Nat.succ_pos _
  forward := by
    intro m n le
    simp only [leaping, Instant.before]
    split
    · have first : m = 0 := by omega
      simp [first]
    · split
      · simp
      · simp

theorem leaping_dated (n : Nat) : (leaping.clock n).isRepresentable = true := by
  have first : Calendar.firstSecond ≤ 0 := by decide
  have last : 100 ≤ Calendar.lastSecond := by decide
  rw [Instant.isRepresentable_iff]
  simp only [leaping]
  split
  · omega
  · omega

/-- A deletion and an upload long after it are delivered twice, the second time without a pause. -/
theorem redeliveredLate :
    Redelivered threshold leaping filedLate.after hindered.after [] [early, filedLate]
      [earlyAgain, hindered] where
  once := (Handled.start.run World.aside_after deletion).run World.aside_after upload
  twice := (Handled.start.run World.aside_after deletion).run World.aside_after upload
  same := show [deletion, upload] = [deletion, upload] from rfl
  applied := by
    rw [List.nil_append, List.forall_mem_cons, List.forall_mem_singleton]
    exact ⟨.inr ⟨"h", rfl, 0, rfl⟩, .inl ⟨_, 1, rfl, rfl⟩⟩
  answered := by
    rw [List.nil_append, List.forall_mem_cons, List.forall_mem_singleton]
    exact ⟨Flow.isAnswered_of_mem_deedsIn fun _ => rfl,
      Flow.isAnswered_of_mem_deedsIn fun _ => rfl⟩
  answeredAgain := by
    rw [List.forall_mem_cons, List.forall_mem_singleton]
    exact ⟨Flow.isAnswered_of_mem_deedsIn fun _ => rfl,
      Flow.isAnswered_of_mem_deedsIn fun _ => rfl⟩
  steady := leaping_steady
  dated := leaping_dated
  sound := Books.isSound_empty
  genuine _ mem := absurd mem List.not_mem_nil

end Sample

/-- A host that was fresh can be stale after the same events are delivered once more. -/
theorem redelivery_leaves_stale :
    Redelivered Sample.threshold Sample.leaping Sample.filedLate.after Sample.hindered.after []
        [Sample.early, Sample.filedLate] [Sample.earlyAgain, Sample.hindered] ∧
      (Sample.filedLate.after.store.view "o" "h").map (·.stale) = some false ∧
      (Sample.hindered.after.store.view "o" "h").map (·.stale) = some true :=
  ⟨Sample.redeliveredLate, rfl, rfl⟩

end FleetRoster
