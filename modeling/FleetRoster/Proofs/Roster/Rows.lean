import FleetRoster.Proofs.Calendar.Nanos
import FleetRoster.Proofs.Roster.Events

/-!
# Rows as their history made them

A row is there exactly when an upload of its host was evaluated in its account. The last such upload
wrote what the row says of the host, the last deletion after it made the row stale, and the first
one gave it its number. Everything else that came of events left the rows alone.
-/

namespace FleetRoster

open Calendar (Instant)

/-- An ending from which nothing comes for the rows. -/
def Ending.IsFruitless : Ending Outcome → Prop
  | .failed _ => True
  | .done (.rejected _) => True
  | .done .recentlyDeleted => True
  | .done .skipped => True
  | _ => False

theorem Ending.IsIdle.isFruitless {ending : Ending Outcome} (idle : ending.IsIdle) :
    ending.IsFruitless := by
  cases ending with
  | failed why => trivial
  | crashed => exact idle
  | done outcome =>
      cases outcome with
      | skipped => trivial
      | rejected why => trivial
      | _ => exact idle.elim

namespace Course

variable {threshold : Nat} {job : Job} {b b' : Books} {readings : List Instant}
  {items : List Item} {ending : Ending Outcome}

/-- The account that an upload is evaluated in is that of its organization. -/
theorem account? {account : Int} {r : Report}
    (course : Course threshold job b readings items (.done (.evaluated account)) b')
    (reported : job.report? = some r) (sound : b.IsSound) :
    b'.store.account? r.org = some ⟨account, r.org⟩ := by
  cases course with
  | idle _ idle => exact idle.elim
  | filed alsoReported guard resolves =>
      cases reported.symm.trans alsoReported
      rw [Books.writing, Store.account?, Store.upsertSystem_accounts]
      exact resolves.account? sound

/-- A fruitless course leaves all rows alone. -/
theorem systems_of_fruitless (course : Course threshold job b readings items ending b')
    (fruitless : ending.IsFruitless) : b'.store.systems = b.store.systems := by
  cases course with
  | idle _ _ => rfl
  | ignored _ _ _ => rfl
  | resolved _ _ _ resolves => exact resolves.systems
  | filed _ _ _ => exact fruitless.elim
  | marked _ _ => exact Store.upsertMarker_systems _ _ _
  | deleted _ _ _ _ => exact fruitless.elim
  | crashed _ _ => exact fruitless.elim

end Course

namespace Entry

variable {threshold : Nat} {e : Entry Job Outcome} {account : Int} {inventoryId : String}

/-! ## One entry -/

/-- An upload of the host was evaluated in the account. -/
def Writes (account : Int) (inventoryId : String) (e : Entry Job Outcome) : Prop :=
  ∃ r, e.Evaluates r account ∧ r.inventoryId = inventoryId

/-- What an entry makes of a row that is there or not. -/
inductive Turns (e : Entry Job Outcome) (account : Int) (inventoryId : String)
    (row : Option SystemRow) : Option SystemRow → Prop
  | written {r : Report} {time : Instant} (evaluates : e.Evaluates r account)
      (about : r.inventoryId = inventoryId) (read : e.readings.getLast? = some time) :
      Turns e account inventoryId row (some
        ((row.getD (.unwritten (e.before.store.lastSystem + 1) account inventoryId)).take
          (r.upload account time)))
  | marked {time : Instant} (deletes : e.Deletes inventoryId) (read : e.readings = [time]) :
      Turns e account inventoryId row (row.map (·.markedStale time))
  | kept (notWritten : ¬ e.Writes account inventoryId) (notDeleted : ¬ e.Deletes inventoryId) :
      Turns e account inventoryId row row

/-- An upload that was evaluated was no deletion. -/
theorem Writes.not_deletes (writes : e.Writes account inventoryId) (other : String) :
    ¬ e.Deletes other := by
  rcases writes with ⟨r, ⟨_, evaluated⟩, _⟩
  rintro ⟨_, rows, deleted⟩
  rw [evaluated] at deleted
  cases deleted

/-- A fruitless entry keeps every row as it is. -/
theorem turns_of_fruitless (fruitless : e.ending.IsFruitless) (row : Option SystemRow) :
    e.Turns account inventoryId row row := by
  apply Turns.kept
  · rintro ⟨r, ⟨_, evaluated⟩, _⟩
    rw [evaluated] at fruitless
    exact fruitless
  · rintro ⟨_, rows, deleted⟩
    rw [deleted] at fruitless
    exact fruitless

/-- The row that an upload has written, in books with the rows from before. -/
theorem system?_writing {b b' : Books} (systems : b'.store.systems = b.store.systems)
    (lastSystem : b'.store.lastSystem = b.store.lastSystem) (u : Upload) :
    (b'.writing u).store.system? u.account u.inventoryId =
      some (((b.store.system? u.account u.inventoryId).getD
        (.unwritten (b.store.lastSystem + 1) u.account u.inventoryId)).take u) := by
  rw [Books.writing, Store.system?_upsertSystem, Store.upsertSystem_snd, lastSystem,
    Store.system?_congr systems]

/-- A deletion marks the rows of its host, with old markers cleared away or not. -/
theorem system?_deleted {b b' : Books} {deleted : String} {time limit : Instant}
    (cleared : b' = (b.marking deleted time).staling deleted time ∨
      b' = ((b.marking deleted time).staling deleted time).pruning limit) :
    b'.store.system? account inventoryId =
      (b.store.system? account inventoryId).map fun r =>
        if inventoryId = deleted then r.markedStale time else r := by
  rw [← Books.system?_marking b deleted time, ← Store.system?_markStale]
  rcases cleared with rfl | rfl
  · rfl
  · rfl

/-- An entry that has crashed is a deletion from whose reading the threshold reaches back too far. -/
theorem Follows.back_of_crashed (follows : e.Follows threshold) (crashed : e.ending = .crashed) :
    ∃ inventoryId time, e.event.deletion? = some inventoryId ∧ e.readings = [time] ∧
      time.earlier? threshold = none := by
  unfold Follows at follows
  rw [crashed] at follows
  generalize e.readings = readings at follows
  generalize e.items = items at follows
  generalize e.after.books = after at follows
  cases follows with
  | idle _ idle => exact idle.elim
  | crashed reported back => exact ⟨_, _, reported, rfl, back⟩

/-- Where the threshold never reaches back too far, an entry has not crashed. -/
theorem Follows.not_crashed (follows : e.Follows threshold)
    (safe : ∀ time ∈ e.readings, (time.earlier? threshold).isSome) : e.ending ≠ .crashed := by
  intro crashed
  obtain ⟨_, time, _, read, back⟩ := follows.back_of_crashed crashed
  have safeHere := safe time (by simp [read])
  rw [back] at safeHere
  contradiction

/-- What an entry that has not crashed makes of a row. -/
theorem Follows.turns (follows : e.Follows threshold) (alive : e.ending ≠ .crashed) (account : Int)
    (inventoryId : String) :
    e.Turns account inventoryId (e.before.store.system? account inventoryId)
      (e.after.store.system? account inventoryId) := by
  unfold Follows at follows
  generalize read : e.readings = readings at follows
  generalize ended : e.ending = ending at follows alive
  generalize e.items = items at follows
  change e.Turns account inventoryId (e.before.books.store.system? account inventoryId)
    (e.after.books.store.system? account inventoryId)
  generalize e.after.books = after at follows
  cases follows with
  | idle _ idle =>
      apply turns_of_fruitless
      rw [ended]
      exact idle.isFruitless
  | ignored _ _ _ =>
      apply turns_of_fruitless
      rw [ended]
      trivial
  | resolved _ why reported resolves =>
      rw [Store.system?_congr resolves.systems]
      apply turns_of_fruitless
      rw [ended]
      trivial
  | @filed r written b' guarded time reported guard resolves =>
      by_cases same : account = written ∧ inventoryId = r.inventoryId
      · rcases same with ⟨rfl, rfl⟩
        have row := system?_writing resolves.systems resolves.lastSystem (r.upload account time)
        change e.Turns account r.inventoryId _
          ((b'.writing (r.upload account time)).store.system? (r.upload account time).account
            (r.upload account time).inventoryId)
        rw [row]
        refine .written ⟨reported, ended⟩ rfl ?_
        rw [read, List.getLast?_append]
        rfl
      · rw [Books.writing, Store.system?_upsertSystem_of_ne _ _ same,
          Store.system?_congr resolves.systems]
        apply Turns.kept
        · rintro ⟨other, ⟨alsoReported, evaluated⟩, about⟩
          cases ended.symm.trans evaluated
          cases reported.symm.trans alsoReported
          exact same ⟨rfl, about.symm⟩
        · rintro ⟨_, rows, deleted⟩
          cases ended.symm.trans deleted
  | marked why reported =>
      rw [Books.system?_marking]
      apply turns_of_fruitless
      rw [ended]
      trivial
  | @deleted deleted time limit b' rows reported back cleared =>
      rw [system?_deleted cleared]
      by_cases same : inventoryId = deleted
      · simp only [if_pos same]
        rw [same]
        exact .marked ⟨reported, rows, ended⟩ read
      · simp only [if_neg same, Option.map_id']
        apply Turns.kept
        · rintro ⟨other, ⟨_, evaluated⟩, _⟩
          cases ended.symm.trans evaluated
        · rintro ⟨alsoReported, _⟩
          cases reported.symm.trans alsoReported
          exact same rfl
  | crashed _ _ => exact absurd rfl alive

end Entry

/-! ## Marks of deletions -/

/-- A row with the mark of a deletion, if there is one. -/
def SystemRow.stamped (mark : Option Instant) (r : SystemRow) : SystemRow :=
  match mark with
  | some time => r.markedStale time
  | none => r

namespace SystemRow

variable (r : SystemRow) (u : Upload) (mark : Option Instant)

@[simp]
theorem stamped_displayName : (r.stamped mark).displayName = r.displayName := by
  cases mark <;> rfl

@[simp]
theorem stamped_checksum : (r.stamped mark).checksum = r.checksum := by
  cases mark <;> rfl

@[simp]
theorem stamped_staleWarningAt : (r.stamped mark).staleWarningAt = r.staleWarningAt := by
  cases mark <;> rfl

@[simp]
theorem stamped_lastUpload : (r.stamped mark).lastUpload = r.lastUpload := by
  cases mark <;> rfl

/-- A row is stale after an upload exactly when there is a mark on it. -/
@[simp]
theorem stamped_take_stale : ((r.take u).stamped mark).stale = mark.isSome := by
  cases mark <;> rfl

end SystemRow

/-- The mark that a history leaves on the rows of a host: that of its last deletion. -/
structure LeavesMark (inventoryId : String) (history : List (Entry Job Outcome))
    (mark : Option Instant) : Prop where
  none_iff : mark = none ↔ ∀ e ∈ history, ¬ e.Deletes inventoryId
  last : ∀ {d rest}, LastOf (·.Deletes inventoryId) history d rest →
    ∃ time, d.readings = [time] ∧ mark = some time

namespace LeavesMark

variable {inventoryId : String} {history : List (Entry Job Outcome)} {e : Entry Job Outcome}
  {mark : Option Instant}

theorem nil : LeavesMark inventoryId [] none where
  none_iff := by simp
  last := by
    rintro d rest ⟨⟨earlier, cut⟩, _, _⟩
    simp at cut

theorem snoc_of_deletes {time : Instant} (deletes : e.Deletes inventoryId)
    (read : e.readings = [time]) : LeavesMark inventoryId (history ++ [e]) (some time) where
  none_iff := by
    constructor
    · intro none
      contradiction
    · intro absent
      exact absurd deletes (absent e (by simp))
  last := by
    intro d rest last
    rcases last.snoc with ⟨_, rfl⟩ | ⟨other, _⟩
    · exact ⟨time, read, rfl⟩
    · exact absurd deletes other

theorem snoc_of_not_deletes (leaves : LeavesMark inventoryId history mark)
    (other : ¬ e.Deletes inventoryId) : LeavesMark inventoryId (history ++ [e]) mark where
  none_iff := by
    rw [leaves.none_iff]
    simp [or_imp, forall_and, other]
  last := by
    intro d rest last
    rcases last.snoc with ⟨deletes, _⟩ | ⟨_, between, earlier⟩
    · exact absurd deletes other
    · exact leaves.last earlier

end LeavesMark

/-! ## Runs -/

namespace Handled

variable {threshold : Nat} {start w : World} {history : List (Entry Job Outcome)} {account : Int}
  {inventoryId : String}

/-- Where the threshold never reaches back too far, no entry has crashed. -/
theorem not_crashed (handled : Handled (Job.handler threshold) World.Aside start history w)
    (safe : ∀ n, ((start.clock n).earlier? threshold).isSome) :
    ∀ e ∈ history, e.ending ≠ .crashed := by
  intro e mem
  obtain ⟨earlier, later, rfl⟩ := List.append_of_mem mem
  obtain ⟨before, takes, _⟩ := handled.cut
  apply (Entry.follows_of_takes takes).not_crashed
  intro time read
  rcases takes.clock.2 time read with ⟨n, _, _, shown⟩
  rw [← shown, before.ticks.clock]
  exact safe n

/-- A run in which nothing is written into a row leaves nothing but the mark of its last deletion
on it. -/
theorem stamped (handled : Handled (Job.handler threshold) World.Aside start history w)
    (alive : ∀ e ∈ history, e.ending ≠ .crashed) (account : Int) (inventoryId : String)
    (unwritten : ∀ e ∈ history, ¬ e.Writes account inventoryId) :
    ∃ mark, LeavesMark inventoryId history mark ∧
      w.store.system? account inventoryId =
        (start.store.system? account inventoryId).map (·.stamped mark) := by
  induction handled with
  | start => exact ⟨none, .nil, by simp [SystemRow.stamped]⟩
  | aside before others ih =>
      rcases ih alive unwritten with ⟨mark, leaves, row⟩
      refine ⟨mark, leaves, ?_⟩
      rw [← row]
      exact congrArg (fun b => b.store.system? account inventoryId) others.books
  | @event history e before takes ih =>
      rw [List.forall_mem_append, List.forall_mem_singleton] at alive unwritten
      rcases ih alive.1 unwritten.1 with ⟨mark, leaves, row⟩
      have turned := (Entry.follows_of_takes takes).turns alive.2 account inventoryId
      rw [row] at turned
      generalize e.after.store.system? account inventoryId = after at turned
      cases turned with
      | written evaluates about read =>
          exact absurd ⟨_, evaluates, about⟩ unwritten.2
      | marked deletes read =>
          refine ⟨some _, .snoc_of_deletes deletes read, ?_⟩
          rw [Option.map_map]
          cases mark <;> rfl
      | kept notWritten notDeleted => exact ⟨mark, leaves.snoc_of_not_deletes notDeleted, rfl⟩

/-- A row that is there stays there, and what neither uploads nor deletions change of it stays the
same. -/
theorem keepsField {γ : Type} (field : SystemRow → γ)
    (handled : Handled (Job.handler threshold) World.Aside start history w)
    (taken : ∀ r u, field (SystemRow.take r u) = field r)
    (stale : ∀ r time, field (SystemRow.markedStale r time) = field r)
    (alive : ∀ e ∈ history, e.ending ≠ .crashed) {row : SystemRow}
    (found : start.store.system? account inventoryId = some row) :
    ∃ row', w.store.system? account inventoryId = some row' ∧ field row' = field row := by
  induction handled with
  | start => exact ⟨row, found, rfl⟩
  | @aside history w w' before others ih =>
      have same : w'.store.system? account inventoryId = w.store.system? account inventoryId :=
        congrArg (fun b => b.store.system? account inventoryId) others.books
      rw [same]
      exact ih alive
  | @event history e before takes ih =>
      rw [List.forall_mem_append, List.forall_mem_singleton] at alive
      rcases ih alive.1 with ⟨old, looked, kept⟩
      have turned := (Entry.follows_of_takes takes).turns alive.2 account inventoryId
      rw [looked] at turned
      generalize e.after.store.system? account inventoryId = after at turned
      cases turned with
      | written evaluates about read => exact ⟨_, rfl, (taken _ _).trans kept⟩
      | marked deletes read => exact ⟨_, rfl, (stale _ _).trans kept⟩
      | kept notWritten notDeleted => exact ⟨old, rfl, kept⟩

/-- A row that is there stays there and keeps its number. -/
theorem keepsId (handled : Handled (Job.handler threshold) World.Aside start history w)
    (alive : ∀ e ∈ history, e.ending ≠ .crashed) {row : SystemRow}
    (found : start.store.system? account inventoryId = some row) :
    ∃ row', w.store.system? account inventoryId = some row' ∧ row'.id = row.id :=
  handled.keepsField (·.id) (fun _ _ => rfl) (fun _ _ => rfl) alive found

/-- A row after the last upload that was written into it has what that upload wrote, and the mark of
the last deletion since. -/
theorem row_of_last (handled : Handled (Job.handler threshold) World.Aside start history w)
    (alive : ∀ e ∈ history, e.ending ≠ .crashed) {e : Entry Job Outcome}
    {later : List (Entry Job Outcome)}
    (last : LastOf (Entry.Writes account inventoryId) history e later) :
    ∃ r time base mark, e.Evaluates r account ∧ r.inventoryId = inventoryId ∧
      e.readings.getLast? = some time ∧ LeavesMark inventoryId later mark ∧
      w.store.system? account inventoryId =
        some ((SystemRow.take base (r.upload account time)).stamped mark) := by
  rcases last with ⟨⟨earlier, rfl⟩, writes, absent⟩
  obtain ⟨before, takes, after⟩ := handled.cut
  rw [List.forall_mem_append, List.forall_mem_cons] at alive
  have turned := (Entry.follows_of_takes takes).turns alive.2.1 account inventoryId
  obtain ⟨mark, leaves, row⟩ := after.stamped alive.2.2 account inventoryId absent
  generalize written : e.after.store.system? account inventoryId = found at turned row
  cases turned with
  | written evaluates about read =>
      exact ⟨_, _, _, mark, evaluates, about, read, leaves, row⟩
  | marked deletes read => exact absurd deletes (writes.not_deletes _)
  | kept notWritten notDeleted => exact absurd writes notWritten

/-- A row is there when it was there at the start or an upload was written into it. -/
theorem row_iff (handled : Handled (Job.handler threshold) World.Aside start history w)
    (alive : ∀ e ∈ history, e.ending ≠ .crashed)
    (absent : start.store.system? account inventoryId = none) :
    (w.store.system? account inventoryId).isSome ↔
      ∃ e ∈ history, e.Writes account inventoryId := by
  constructor
  · intro found
    by_cases written : ∃ e ∈ history, e.Writes account inventoryId
    · exact written
    · obtain ⟨mark, _, row⟩ := handled.stamped alive account inventoryId
        fun e mem writes => written ⟨e, mem, writes⟩
      rw [row, absent] at found
      contradiction
  · intro written
    obtain ⟨e, later, last⟩ := exists_lastOf written
    obtain ⟨r, time, base, mark, _, _, _, _, row⟩ := handled.row_of_last alive last
    rw [row]
    rfl

end Handled

/-! ## Rows and their history -/

namespace Entry

/-- An upload of the host, from an organization that has the account, was evaluated. -/
def Files (store : Store) (account : Int) (inventoryId : String) (e : Entry Job Outcome) : Prop :=
  ∃ r, e.event.report? = some r ∧ r.inventoryId = inventoryId ∧
    store.account? r.org = some ⟨account, r.org⟩ ∧ ∃ granted, e.ending = .done (.evaluated granted)

end Entry

/-- The rows of a world are what a history has made of them. -/
structure Reflects (w : World) (history : List (Entry Job Outcome)) : Prop where
  /-- A row is there exactly when an upload of its host was evaluated in its account. -/
  exists_iff (account : Int) (inventoryId : String) :
    (∃ row ∈ w.store.systems, row.account = account ∧ row.inventoryId = inventoryId) ↔
      ∃ e ∈ history, e.Files w.store account inventoryId
  /-- The last such upload wrote what the row says of the host. -/
  written {row : SystemRow} {e : Entry Job Outcome} {later : List (Entry Job Outcome)} {r : Report}
    (mem : row ∈ w.store.systems)
    (last : LastOf (Entry.Files w.store row.account row.inventoryId) history e later)
    (reported : e.event.report? = some r) :
    row.displayName = r.host.displayNameOr row.inventoryId ∧
      row.checksum = some r.host.profile.checksum ∧
      row.staleWarningAt = r.host.staleWarningAt ∧
      ∃ time, e.readings.getLast? = some time ∧ row.lastUpload = some time
  /-- A row is stale exactly when its host was deleted after that upload. -/
  stale_iff {row : SystemRow} {e : Entry Job Outcome} {later : List (Entry Job Outcome)}
    (mem : row ∈ w.store.systems)
    (last : LastOf (Entry.Files w.store row.account row.inventoryId) history e later) :
    row.stale = true ↔ ∃ d ∈ later, d.Deletes row.inventoryId
  /-- The last deletion of its host made a stale row stale. -/
  marked {row : SystemRow} {d : Entry Job Outcome} {rest : List (Entry Job Outcome)}
    (mem : row ∈ w.store.systems) (stale : row.stale = true)
    (last : LastOf (Entry.Deletes row.inventoryId) history d rest) :
    ∃ time, d.readings = [time] ∧ row.staleAt = some time ∧ row.culledAt = some time
  /-- A row that is not stale has the instants of that upload. -/
  unmarked {row : SystemRow} {e : Entry Job Outcome} {later : List (Entry Job Outcome)} {r : Report}
    (mem : row ∈ w.store.systems) (fresh : row.stale = false)
    (last : LastOf (Entry.Files w.store row.account row.inventoryId) history e later)
    (reported : e.event.report? = some r) :
    row.staleAt = r.host.staleAt ∧ row.culledAt = r.host.culledAt
  /-- The first such upload gave the row its number. -/
  numbered {row : SystemRow} {e : Entry Job Outcome} {earlier : List (Entry Job Outcome)}
    (mem : row ∈ w.store.systems)
    (first : FirstOf (Entry.Files w.store row.account row.inventoryId) history earlier e) :
    e.before.store.system? row.account row.inventoryId = none ∧
      ∃ made, e.after.store.system? row.account row.inventoryId = some made ∧ row.id = made.id
  /-- No two rows have one key. -/
  keys : (w.store.systems.map (·.key)).Nodup
  /-- No two rows have one number. -/
  numbers : (w.store.systems.map (·.id)).Nodup
  /-- The account that an upload was evaluated in is that of its organization. -/
  granted {e : Entry Job Outcome} {r : Report} {account : Int} (mem : e ∈ history)
    (evaluates : e.Evaluates r account) : w.store.account? r.org = some ⟨account, r.org⟩
  /-- Nothing comes of other events for the rows. -/
  fruitless {e : Entry Job Outcome} (mem : e ∈ history) (fruitless : e.ending.IsFruitless) :
    e.after.store.systems = e.before.store.systems

namespace Handled

variable {threshold : Nat} {start w : World} {history : List (Entry Job Outcome)}

theorem granted (handled : Handled (Job.handler threshold) World.Aside start history w)
    (sound : start.books.IsSound) {e : Entry Job Outcome} {r : Report} {account : Int}
    (mem : e ∈ history) (evaluates : e.Evaluates r account) :
    w.store.account? r.org = some ⟨account, r.org⟩ := by
  obtain ⟨earlier, later, rfl⟩ := List.append_of_mem mem
  obtain ⟨before, takes, after⟩ := handled.cut
  apply after.keepsAccount
  have follows := Entry.follows_of_takes takes
  rw [Entry.Follows, evaluates.2] at follows
  exact Course.account? follows evaluates.1 (before.isSound sound)

/-- An upload was filed under the account in which it was evaluated. -/
theorem files_iff (handled : Handled (Job.handler threshold) World.Aside start history w)
    (sound : start.books.IsSound) {account : Int} {inventoryId : String} :
    ∀ e ∈ history, e.Writes account inventoryId ↔ e.Files w.store account inventoryId := by
  intro e mem
  constructor
  · rintro ⟨r, evaluates, about⟩
    exact ⟨r, evaluates.1, about, handled.granted sound mem evaluates, account, evaluates.2⟩
  · rintro ⟨r, reported, about, found, granted, evaluated⟩
    have sameAccount := handled.granted sound mem ⟨reported, evaluated⟩
    rw [found] at sameAccount
    cases sameAccount
    exact ⟨r, ⟨reported, evaluated⟩, about⟩

/-- A row is what the last upload filed under its key wrote, with the mark of the last deletion
since. -/
theorem row_eq (handled : Handled (Job.handler threshold) World.Aside start history w)
    (sound : start.books.IsSound) (safe : ∀ n, ((start.clock n).earlier? threshold).isSome)
    {row : SystemRow} {e : Entry Job Outcome} {later : List (Entry Job Outcome)}
    (mem : row ∈ w.store.systems)
    (last : LastOf (Entry.Files w.store row.account row.inventoryId) history e later) :
    ∃ r time base mark, e.Evaluates r row.account ∧ r.inventoryId = row.inventoryId ∧
      e.readings.getLast? = some time ∧ LeavesMark row.inventoryId later mark ∧
      row = (SystemRow.take base (r.upload row.account time)).stamped mark := by
  have wrote := last.congr fun x mem => (handled.files_iff sound x mem).symm
  obtain ⟨r, time, base, mark, evaluates, about, read, leaves, found⟩ :=
    handled.row_of_last (handled.not_crashed safe) wrote
  refine ⟨r, time, base, mark, evaluates, about, read, leaves, ?_⟩
  have looked : w.store.system? row.account row.inventoryId = some row :=
    (handled.isSound sound).store.system?_of_mem mem
  rw [looked] at found
  exact Option.some.inj found

/-- A row is there exactly when an upload was filed under its key. -/
theorem mem_row_iff (handled : Handled (Job.handler threshold) World.Aside start history w)
    (sound : start.books.IsSound) (safe : ∀ n, ((start.clock n).earlier? threshold).isSome)
    {account : Int} {inventoryId : String}
    (absent : start.store.system? account inventoryId = none) :
    (∃ row ∈ w.store.systems, row.account = account ∧ row.inventoryId = inventoryId) ↔
      ∃ e ∈ history, e.Files w.store account inventoryId := by
  have there : (∃ row ∈ w.store.systems, row.account = account ∧ row.inventoryId = inventoryId) ↔
      (w.store.system? account inventoryId).isSome := by
    simp only [Store.system?, List.find?_isSome, SystemRow.hasKey_iff]
  rw [there, handled.row_iff (handled.not_crashed safe) absent]
  constructor
  · rintro ⟨e, mem, writes⟩
    exact ⟨e, mem, (handled.files_iff sound e mem).mp writes⟩
  · rintro ⟨e, mem, files⟩
    exact ⟨e, mem, (handled.files_iff sound e mem).mpr files⟩

/-- The number of a row is the one that its first upload was given. -/
theorem row_number (handled : Handled (Job.handler threshold) World.Aside start history w)
    (sound : start.books.IsSound) (safe : ∀ n, ((start.clock n).earlier? threshold).isSome)
    {row : SystemRow} {e : Entry Job Outcome} {earlier : List (Entry Job Outcome)}
    (absent : start.store.system? row.account row.inventoryId = none)
    (mem : row ∈ w.store.systems)
    (first : FirstOf (Entry.Files w.store row.account row.inventoryId) history earlier e) :
    e.before.store.system? row.account row.inventoryId = none ∧
      ∃ made, e.after.store.system? row.account row.inventoryId = some made ∧
        row.id = made.id := by
  have looked : w.store.system? row.account row.inventoryId = some row :=
    (handled.isSound sound).store.system?_of_mem mem
  have wrote := first.congr fun x mem => (handled.files_iff sound x mem).symm
  rcases wrote with ⟨⟨later, rfl⟩, writes, unwritten⟩
  have alive := handled.not_crashed safe
  obtain ⟨before, takes, after⟩ := handled.cut
  rw [List.forall_mem_append, List.forall_mem_cons] at alive
  constructor
  · obtain ⟨mark, _, found⟩ := before.stamped alive.1 _ _ unwritten
    rw [found, absent]
    rfl
  · have turned :=
      (Entry.follows_of_takes takes).turns alive.2.1 row.account row.inventoryId
    generalize written : e.after.store.system? row.account row.inventoryId = found at turned
    cases turned with
    | written evaluates about read =>
        obtain ⟨row', looked', id⟩ := after.keepsId alive.2.2 written
        rw [looked] at looked'
        cases looked'
        exact ⟨_, rfl, id⟩
    | marked deletes read => exact absurd deletes (writes.not_deletes _)
    | kept notWritten notDeleted => exact absurd writes notWritten

end Handled

/-- From an empty store and without remembered accounts, whatever is refused, the rows are at every
time what the events so far have made of them. -/
theorem rows_reflect_history {threshold : Nat} {start w : World}
    {history : List (Entry Job Outcome)}
    (handled : Handled (Job.handler threshold) World.Aside start history w)
    (emptyStore : start.store = {}) (nothingKnown : start.accounts = [])
    (safe : ∀ n, ((start.clock n).earlier? threshold).isSome) : Reflects w history := by
  have sound : start.books.IsSound := by
    rw [World.books, emptyStore, nothingKnown]
    exact Books.isSound_empty
  have absent : ∀ account inventoryId, start.store.system? account inventoryId = none := by
    intro account inventoryId
    rw [emptyStore]
    rfl
  have storeSound := (handled.isSound sound).store
  constructor
  case exists_iff =>
    intro account inventoryId
    exact handled.mem_row_iff sound safe (absent account inventoryId)
  case written =>
    intro row e later r mem last reported
    obtain ⟨r', time, base, mark, evaluates, about, read, leaves, made⟩ :=
      handled.row_eq sound safe mem last
    cases reported.symm.trans evaluates.1
    refine ⟨?_, ?_, ?_, time, read, ?_⟩
    · rw [← about]
      exact (congrArg SystemRow.displayName made).trans (SystemRow.stamped_displayName _ _)
    · exact (congrArg SystemRow.checksum made).trans (SystemRow.stamped_checksum _ _)
    · exact (congrArg SystemRow.staleWarningAt made).trans (SystemRow.stamped_staleWarningAt _ _)
    · exact (congrArg SystemRow.lastUpload made).trans (SystemRow.stamped_lastUpload _ _)
  case stale_iff =>
    intro row e later mem last
    obtain ⟨r, time, base, mark, evaluates, about, read, leaves, made⟩ :=
      handled.row_eq sound safe mem last
    have marked : row.stale = true ↔ ¬ mark = none := by
      rw [made, SystemRow.stamped_take_stale, Option.isSome_iff_ne_none]
    rw [marked, leaves.none_iff]
    simp
  case marked =>
    intro row d rest mem stale last
    have filed := (handled.mem_row_iff sound safe (absent _ _)).mp ⟨row, mem, rfl, rfl⟩
    obtain ⟨e, later, lastFiled⟩ := exists_lastOf filed
    obtain ⟨r, time, base, mark, evaluates, about, read, leaves, made⟩ :=
      handled.row_eq sound safe mem lastFiled
    have isMarked : mark.isSome = true := by
      rw [← SystemRow.stamped_take_stale base (r.upload row.account time), ← made]
      exact stale
    have deleted : ∃ x ∈ later, x.Deletes row.inventoryId := by
      have notNone := mt leaves.none_iff.mpr (Option.isSome_iff_ne_none.mp isMarked)
      simpa using notNone
    obtain ⟨d', rest', lastLater⟩ := exists_lastOf deleted
    obtain ⟨earlier, rfl⟩ := lastFiled.cut
    obtain ⟨rfl, rfl⟩ := last.unique lastLater.of_later
    obtain ⟨instant, deletedAt, rfl⟩ := leaves.last lastLater
    exact ⟨instant, deletedAt, congrArg SystemRow.staleAt made, congrArg SystemRow.culledAt made⟩
  case unmarked =>
    intro row e later r mem fresh last reported
    obtain ⟨r', time, base, mark, evaluates, about, read, leaves, made⟩ :=
      handled.row_eq sound safe mem last
    cases reported.symm.trans evaluates.1
    have unmarked : mark = none := by
      rw [made, SystemRow.stamped_take_stale] at fresh
      simpa using fresh
    subst unmarked
    exact ⟨congrArg SystemRow.staleAt made, congrArg SystemRow.culledAt made⟩
  case numbered =>
    intro row e earlier mem first
    exact handled.row_number sound safe (absent _ _) mem first
  case keys => exact storeSound.systemKeys
  case numbers => exact storeSound.systemIds
  case granted =>
    intro e r account mem evaluates
    exact handled.granted sound mem evaluates
  case fruitless =>
    intro e mem fruitless
    exact (handled.follows mem).systems_of_fruitless fruitless

namespace Sample

/-- An upload of one host. -/
def upload : Job where
  about := ⟨"created", none⟩
  kind := .created
  message := .object [("host", .object [("id", .string "h"), ("org_id", .string "o")])]

/-- The deletion of that host. -/
def deletion : Job where
  about := ⟨"delete", none⟩
  kind := .delete
  message := .object [("id", .string "h")]

/-- A threshold of a minute. -/
def threshold : Nat := 60 * Calendar.nanosPerSecond

/-- The host is uploaded. -/
def uploaded : Entry Job Outcome :=
  .ofRun (Job.handler threshold) upload world

/-- Then it is deleted. -/
def deleted : Entry Job Outcome :=
  .ofRun (Job.handler threshold) deletion uploaded.after

/-- Then it is uploaded again. -/
def ignored : Entry Job Outcome :=
  .ofRun (Job.handler threshold) upload deleted.after

theorem handled :
    Handled (Job.handler threshold) World.Aside world [uploaded, deleted, ignored]
      ignored.after :=
  ((Handled.start.run World.aside_after upload).run World.aside_after deletion).run
    World.aside_after upload

theorem safe (n : Nat) : ((world.clock n).earlier? threshold).isSome := by
  apply Calendar.Instant.isSome_earlier?
  · exact Nat.succ_pos _
  · have first : Calendar.firstSecond ≤ -60 := by decide
    simp only [world, Calendar.Instant.nanos, threshold, Calendar.nanosPerSecond]
    omega
  · have last : 100 ≤ Calendar.lastSecond := by decide
    simp only [world]
    omega

/-- The clock shows valid instants. -/
theorem isValid_clock (n : Nat) : (world.clock n).IsValid := by
  have first : Calendar.firstSecond ≤ 0 := by decide
  have last : 100 ≤ Calendar.lastSecond := by decide
  constructor
  · rw [Calendar.Instant.isRepresentable_iff]
    simp only [world]
    omega
  · exact Nat.succ_pos _

end Sample

theorem rows_reflect_sample :
    Sample.uploaded.ending = .done (.evaluated 1) ∧ Sample.deleted.ending = .done (.deleted 1) ∧
      Sample.ignored.ending = .done .recentlyDeleted ∧
      Reflects Sample.ignored.after [Sample.uploaded, Sample.deleted, Sample.ignored] :=
  ⟨rfl, rfl, rfl, rows_reflect_history Sample.handled rfl rfl Sample.safe⟩

end FleetRoster
