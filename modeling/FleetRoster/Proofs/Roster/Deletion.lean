import FleetRoster.Proofs.Roster.Rows

/-!
# Deletions hold

A deletion leaves a marker that is at least as young as the deletion. Until the threshold has
passed, no other deletion clears it away, so the guard turns every upload of the host away: nothing
is written into the rows of the host, and nothing is queued for it. The other way round, every
marker was left by a deletion, so the guard turns nothing away without one.
-/

namespace FleetRoster

open Calendar (Instant IsSteady)

/-- The marker of a host is there, and not older than a deletion. -/
def Books.Holds (b : Books) (inventoryId : String) (time : Instant) : Prop :=
  ∃ m, b.store.marker? inventoryId = some m ∧ m.deletedAt.IsOrdinary ∧
    time.nanos ≤ m.deletedAt.nanos

namespace Books

variable {b b' : Books} {inventoryId org : String} {account : Int} {time : Instant}

theorem Holds.congr (holds : b.Holds inventoryId time) (same : b'.store.markers = b.store.markers) :
    b'.Holds inventoryId time := by
  rcases holds with ⟨m, found, rest⟩
  exact ⟨m, (Store.marker?_congr same).trans found, rest⟩

/-- A marker that is set later is younger. -/
theorem Holds.marking (holds : b.Holds inventoryId time) (deleted : String) {later : Instant}
    (ordinary : later.IsOrdinary) (le : time.nanos ≤ later.nanos) :
    (b.marking deleted later).Holds inventoryId time := by
  rcases holds with ⟨m, found, rest⟩
  rw [Books.Holds, Books.marking, Store.marker?_upsertMarker]
  by_cases same : inventoryId = deleted
  · exact ⟨⟨deleted, later⟩, if_pos same, ordinary, le⟩
  · exact ⟨m, (if_neg same).trans found, rest⟩

/-- A marker stays, unless the markers are cleared away up to a later instant. -/
theorem Holds.pruning (holds : b.Holds inventoryId time) {limit : Instant}
    (ordinary : limit.IsOrdinary) (le : limit.nanos ≤ time.nanos) :
    (b.pruning limit).Holds inventoryId time := by
  rcases holds with ⟨m, found, ordinaryM, leM⟩
  refine ⟨m, Store.marker?_pruneMarkers_of_some found ?_, ordinaryM, leM⟩
  rw [Bool.eq_false_iff, Ne, Instant.before_iff ordinaryM ordinary]
  omega

/-- As long as a deletion holds, the guard lets no upload of its host pass. -/
theorem Holds.guard {threshold : Nat} {readings : List Instant}
    (holds : b.Holds inventoryId time) (ordinary : ∀ u ∈ readings, u.IsOrdinary)
    (within : ∀ u ∈ readings, u.nanos < time.nanos + threshold) :
    ¬ b.Guard threshold inventoryId readings (.done none) := by
  rcases holds with ⟨m, found, ordinaryM, le⟩
  intro guard
  cases guard with
  | unmarked absent =>
      rw [found] at absent
      contradiction
  | @past m' u foundAlso old =>
      rw [found] at foundAlso
      cases foundAlso
      have young : m.isRecent u threshold = true := by
        have lt := within u (by simp)
        rw [Marker.isRecent, decide_eq_true_eq,
          Instant.since_eq (ordinary u (by simp)) ordinaryM]
        omega
      rw [young] at old
      contradiction

end Books

/-! ## One event -/

namespace Course

variable {threshold : Nat} {job : Job} {b b' : Books} {readings : List Instant}
  {items : List Item} {ending : Ending Outcome} {inventoryId : String} {time : Instant}

/-- An upload that was evaluated was queued. -/
theorem items_of_evaluated {account : Int} {r : Report}
    (course : Course threshold job b readings items (.done (.evaluated account)) b')
    (reported : job.report? = some r) : items = [r.item account] := by
  cases course with
  | idle _ idle => exact idle.elim
  | filed alsoReported _ _ =>
      cases reported.symm.trans alsoReported
      rfl

/-- Within the threshold a deletion stays in force, and its host is not queued. -/
theorem holds (course : Course threshold job b readings items ending b')
    (holds : b.Holds inventoryId time) (ordinary : ∀ u ∈ readings, u.IsOrdinary)
    (later : ∀ u ∈ readings, time.nanos ≤ u.nanos)
    (within : ∀ u ∈ readings, u.nanos < time.nanos + threshold) :
    b'.Holds inventoryId time ∧ ∀ item ∈ items, item.inventoryId ≠ inventoryId := by
  have marked : ∀ deleted, ∀ u ∈ readings, (b.marking deleted u).Holds inventoryId time := by
    intro deleted u mem
    exact holds.marking deleted (ordinary u mem) (later u mem)
  cases course with
  | idle _ _ => exact ⟨holds, by simp⟩
  | ignored _ _ _ => exact ⟨holds, by simp⟩
  | resolved _ _ _ resolves => exact ⟨holds.congr resolves.markers, by simp⟩
  | @filed r account written guarded filedAt reported guard resolves =>
      constructor
      · apply holds.congr
        rw [Books.writing, Store.upsertSystem_markers]
        exact resolves.markers
      · intro item mem
        rw [List.mem_singleton.mp mem]
        rintro rfl
        apply holds.guard _ _ guard
        · intro u mem
          exact ordinary u (List.mem_append_left _ mem)
        · intro u mem
          exact within u (List.mem_append_left _ mem)
  | marked _ _ => exact ⟨marked _ _ (by simp), by simp⟩
  | @deleted deleted u limit b' rows reported back cleared =>
      have holdsStill := marked deleted u (by simp)
      constructor
      · rcases cleared with rfl | rfl
        · exact holdsStill.congr rfl
        · obtain ⟨ordinaryLimit, at_⟩ := Instant.nanos_of_earlier? (ordinary u (by simp)) back
          have lt := within u (by simp)
          apply Books.Holds.pruning (holdsStill.congr rfl) ordinaryLimit
          omega
      · simp
  | crashed _ _ => exact ⟨(marked _ _ (by simp)).congr rfl, by simp⟩

/-- A deletion reads the clock once and holds from then on. -/
theorem holds_of_deleted {rows : Nat}
    (course : Course threshold job b readings items (.done (.deleted rows)) b')
    (reported : job.deletion? = some inventoryId) (ordinary : ∀ u ∈ readings, u.IsOrdinary) :
    ∃ time, readings = [time] ∧ b'.Holds inventoryId time := by
  cases course with
  | idle _ idle => exact idle.elim
  | @deleted deleted u limit b' _ alsoReported back cleared =>
      cases reported.symm.trans alsoReported
      have holds : (b.marking inventoryId u).Holds inventoryId u :=
        ⟨⟨inventoryId, u⟩, by rw [Books.marking, Store.marker?_upsertMarker, if_pos rfl],
          ordinary u (by simp), Int.le_refl _⟩
      use u
      constructor
      · rfl
      · rcases cleared with rfl | rfl
        · exact holds.congr rfl
        · obtain ⟨ordinaryLimit, at_⟩ := Instant.nanos_of_earlier? (ordinary u (by simp)) back
          apply Books.Holds.pruning (holds.congr rfl) ordinaryLimit
          omega

/-- A course leaves no new marker but that of its deletion. -/
theorem mem_markers (course : Course threshold job b readings items ending b') {m : Marker}
    (mem : m ∈ b'.store.markers) :
    m ∈ b.store.markers ∨ (job.deletion? = some m.inventoryId ∧ m.deletedAt ∈ readings) := by
  have marked : ∀ deleted u, job.deletion? = some deleted → u ∈ readings →
      m ∈ (b.store.upsertMarker deleted u).markers →
      m ∈ b.store.markers ∨ (job.deletion? = some m.inventoryId ∧ m.deletedAt ∈ readings) := by
    intro deleted u reported read mem
    rcases Store.mem_upsertMarker mem with rfl | old
    · exact .inr ⟨reported, read⟩
    · exact .inl old
  cases course with
  | idle _ _ => exact .inl mem
  | ignored _ _ _ => exact .inl mem
  | resolved _ _ _ resolves => exact .inl (resolves.markers ▸ mem)
  | filed _ _ resolves =>
      rw [Books.writing, Store.upsertSystem_markers, resolves.markers] at mem
      exact .inl mem
  | marked _ reported => exact marked _ _ reported (by simp) mem
  | deleted _ reported _ cleared =>
      rcases cleared with rfl | rfl
      · exact marked _ _ reported (by simp) mem
      · exact marked _ _ reported (by simp) (Store.mem_pruneMarkers mem)
  | crashed reported _ => exact marked _ _ reported (by simp) mem

/-- An upload is ignored because of a marker that is recent at the reading of the guard. -/
theorem marker_of_ignored
    (course : Course threshold job b readings items (.done .recentlyDeleted) b') :
    ∃ r m u, job.report? = some r ∧ b.store.marker? r.inventoryId = some m ∧
      readings = [u] ∧ m.isRecent u threshold = true := by
  cases course with
  | idle _ idle => exact idle.elim
  | ignored reported found young => exact ⟨_, _, _, reported, found, rfl, young⟩

end Course

/-- What an entry does not queue it does not write either. -/
theorem Entry.Follows.not_writes {threshold : Nat} {e : Entry Job Outcome} {inventoryId : String}
    (follows : e.Follows threshold)
    (unqueued : ∀ item ∈ e.items, item.inventoryId ≠ inventoryId) (account : Int) :
    ¬ e.Writes account inventoryId := by
  rintro ⟨r, ⟨reported, evaluated⟩, rfl⟩
  rw [Follows, evaluated] at follows
  rw [Course.items_of_evaluated follows reported] at unqueued
  exact unqueued (r.item account) (by simp) rfl

/-- A deletion leaves no row of its host that is not stale. -/
theorem Entry.Follows.stale_of_deletes {threshold : Nat} {e : Entry Job Outcome}
    {inventoryId : String} (follows : e.Follows threshold) (deletes : e.Deletes inventoryId)
    {account : Int} {row : SystemRow}
    (found : e.after.store.system? account inventoryId = some row) : row.stale = true := by
  have alive : e.ending ≠ .crashed := by
    obtain ⟨_, rows, deleted⟩ := deletes
    rw [deleted]
    simp
  have turned := follows.turns alive account inventoryId
  generalize e.after.store.system? account inventoryId = after at found turned
  cases turned with
  | written evaluates about _ =>
      exact absurd deletes (Entry.Writes.not_deletes ⟨_, evaluates, about⟩ _)
  | marked _ _ =>
      obtain ⟨old, _, rfl⟩ := Option.map_eq_some_iff.mp found
      rfl
  | kept _ notDeleted => exact absurd deletes notDeleted

/-! ## Runs -/

namespace Handled

variable {threshold : Nat} {start w : World} {history : List (Entry Job Outcome)}
  {inventoryId : String} {time : Instant}

/-- What an entry reads is shown by the clock of the start, at a number from its own start on. -/
theorem read {e : Entry Job Outcome}
    (before : Handled (Job.handler threshold) World.Aside start history e.before)
    (takes : (e.event.handler threshold).Takes World.Aside e.before e.deeds e.after e.ending)
    {u : Instant} (mem : u ∈ e.readings) :
    ∃ n, e.before.readings ≤ n ∧ n < e.after.readings ∧ start.clock n = u := by
  rw [← before.ticks.clock]
  exact takes.clock.2 u mem

/-- Every reading in a history is one that the clock has shown meanwhile. -/
theorem shows (handled : Handled (Job.handler threshold) World.Aside start history w)
    {e : Entry Job Outcome} (mem : e ∈ history) {u : Instant} (read : u ∈ e.readings) :
    start.Shows w u := by
  obtain ⟨earlier, later, rfl⟩ := List.append_of_mem mem
  obtain ⟨before, takes, after⟩ := handled.cut
  exact (takes.clock.2 u read).widen before.ticks after.ticks

/-- Every reading in a history is one of the clock of the start. -/
theorem read_mem (handled : Handled (Job.handler threshold) World.Aside start history w)
    {e : Entry Job Outcome} (mem : e ∈ history) {u : Instant} (read : u ∈ e.readings) :
    ∃ n, start.clock n = u := by
  obtain ⟨n, _, _, shown⟩ := handled.shows mem read
  exact ⟨n, shown⟩

/-- A deletion that holds at the start holds as long as the threshold has not passed, and until then
the host is not queued. -/
theorem holds (handled : Handled (Job.handler threshold) World.Aside start history w)
    (steady : IsSteady start.clock) (held : start.books.Holds inventoryId time)
    (past : ∀ n, start.readings ≤ n → time.nanos ≤ (start.clock n).nanos)
    (within : ∀ e ∈ history, ∀ u ∈ e.readings, u.nanos < time.nanos + threshold) :
    w.books.Holds inventoryId time ∧
      ∀ e ∈ history, ∀ item ∈ e.items, item.inventoryId ≠ inventoryId := by
  induction handled with
  | start => exact ⟨held, by simp⟩
  | aside before others ih =>
      rw [others.books]
      exact ih within
  | @event history e before takes ih =>
      obtain ⟨holds, quiet⟩ := ih fun x mem => within x (List.mem_append_left _ mem)
      have shown : ∀ u ∈ e.readings, ∃ n, start.readings ≤ n ∧ start.clock n = u := by
        intro u mem
        obtain ⟨n, ge, _, shown⟩ := before.read takes mem
        exact ⟨n, Nat.le_trans before.ticks.readings ge, shown⟩
      have ordinary : ∀ u ∈ e.readings, u.IsOrdinary := by
        intro u mem
        obtain ⟨n, _, rfl⟩ := shown u mem
        exact steady.ordinary n
      have later : ∀ u ∈ e.readings, time.nanos ≤ u.nanos := by
        intro u mem
        obtain ⟨n, ge, rfl⟩ := shown u mem
        exact past n ge
      have step := (Entry.follows_of_takes takes).holds holds ordinary later (within e (by simp))
      constructor
      · exact step.1
      · intro x mem
        rcases List.mem_append.mp mem with old | new
        · exact quiet x old
        · rw [List.mem_singleton.mp new]
          exact step.2

/-- Every marker was left by a deletion, at a reading that it took. -/
theorem mem_markers (handled : Handled (Job.handler threshold) World.Aside start history w)
    (none : start.store.markers = []) {m : Marker} (mem : m ∈ w.store.markers) :
    ∃ d ∈ history, d.event.deletion? = some m.inventoryId ∧ m.deletedAt ∈ d.readings := by
  induction handled with
  | start => simp [none] at mem
  | aside before others ih =>
      apply ih
      have same := congrArg (fun b => b.store.markers) others.books
      exact same ▸ mem
  | event before takes ih =>
      rcases (Entry.follows_of_takes takes).mem_markers mem with old | new
      · obtain ⟨d, dMem, left⟩ := ih old
        exact ⟨d, List.mem_append_left _ dMem, left⟩
      · exact ⟨_, by simp, new⟩

end Handled

/-! ## Deleted hosts -/

/-- A row is as before, but for the mark of a deletion. -/
structure SystemRow.Keeps (row old : SystemRow) : Prop where
  key : row.key = old.key
  displayName : row.displayName = old.displayName
  checksum : row.checksum = old.checksum
  staleWarningAt : row.staleWarningAt = old.staleWarningAt
  lastUpload : row.lastUpload = old.lastUpload

theorem SystemRow.Keeps.stamped (r : SystemRow) (mark : Option Instant) :
    (r.stamped mark).Keeps r := by
  cases mark with
  | none => exact ⟨rfl, rfl, rfl, rfl, rfl⟩
  | some time => exact ⟨rfl, rfl, rfl, rfl, rfl⟩

theorem SystemRow.stamped_stale {r : SystemRow} (stale : r.stale = true)
    (mark : Option Instant) : (r.stamped mark).stale = true := by
  cases mark with
  | none => exact stale
  | some time => rfl

/-- Nothing has come of a host since it was deleted: its rows are stale, and are those of the world
after the deletion, and nothing was queued for it. -/
structure Dormant (inventoryId : String) (deleted : World) (later : List (Entry Job Outcome))
    (w : World) : Prop where
  rows : ∀ row ∈ w.store.systems, row.inventoryId = inventoryId →
    row.stale = true ∧ ∃ old ∈ deleted.store.systems, row.Keeps old
  unqueued : ∀ e ∈ later, ∀ item ∈ e.items, item.inventoryId ≠ inventoryId

/-- Deletions are in force until the threshold has passed, and nothing else turns an upload away. -/
structure DeletionsHold (threshold : Nat) (w : World) (history : List (Entry Job Outcome)) :
    Prop where
  /-- As long as every later reading is within the threshold, the host stays deleted. -/
  dormant {earlier later : List (Entry Job Outcome)} {d : Entry Job Outcome} {inventoryId : String}
    (cut : history = earlier ++ d :: later) (deletes : d.Deletes inventoryId) :
    ∃ time, d.readings = [time] ∧
      ((∀ e ∈ later, ∀ u ∈ e.readings, u.nanos < time.nanos + threshold) →
        Dormant inventoryId d.after later w)
  /-- An upload that is ignored comes within the threshold of an earlier deletion of its host. -/
  ignored {earlier later : List (Entry Job Outcome)} {e : Entry Job Outcome} {r : Report}
    (cut : history = earlier ++ e :: later) (reported : e.event.report? = some r)
    (ignored : e.ending = .done .recentlyDeleted) :
    ∃ u, e.readings = [u] ∧ ∃ d ∈ earlier, d.event.deletion? = some r.inventoryId ∧
      ∃ time ∈ d.readings, u.nanos - time.nanos < threshold

/-- From an empty store and by a clock that never goes back, whatever is refused, deletions hold. -/
theorem deletions_hold {threshold : Nat} {start w : World} {history : List (Entry Job Outcome)}
    (handled : Handled (Job.handler threshold) World.Aside start history w)
    (emptyStore : start.store = {}) (steady : IsSteady start.clock)
    (safe : ∀ n, ((start.clock n).earlier? threshold).isSome) :
    DeletionsHold threshold w history := by
  have sound : w.store.IsSound := by
    apply handled.isSound_store
    rw [emptyStore]
    exact Store.isSound_empty
  have ordinary : ∀ {e}, e ∈ history → ∀ u ∈ e.readings, u.IsOrdinary := by
    intro e mem u read
    obtain ⟨n, rfl⟩ := handled.read_mem mem read
    exact steady.ordinary n
  constructor
  case dormant =>
    rintro earlier later d inventoryId rfl deletes
    obtain ⟨before, takes, after⟩ := handled.cut
    obtain ⟨reported, rows, ended⟩ := deletes
    have follows := Entry.follows_of_takes takes
    rw [Entry.Follows, ended] at follows
    obtain ⟨time, read, held⟩ := Course.holds_of_deleted follows reported (ordinary (by simp))
    refine ⟨time, read, ?_⟩
    intro within
    have sameClock : d.after.clock = start.clock := takes.clock.1.clock.trans before.ticks.clock
    obtain ⟨m, _, lt, shown⟩ := before.read takes (u := time) (by simp [read])
    obtain ⟨_, quiet⟩ := after.holds (sameClock ▸ steady) held (by
      intro n ge
      rw [sameClock, ← shown]
      exact steady.nanos_le (Nat.le_of_lt (Nat.lt_of_lt_of_le lt ge))) within
    constructor
    · rintro row mem rfl
      obtain ⟨mark, _, found⟩ := after.stamped (after.not_crashed (sameClock ▸ safe)) row.account
        row.inventoryId fun e mem => (after.follows mem).not_writes (quiet e mem) row.account
      rw [sound.system?_of_mem mem, eq_comm, Option.map_eq_some_iff] at found
      obtain ⟨old, looked, rfl⟩ := found
      have stale :=
        (Entry.follows_of_takes takes).stale_of_deletes ⟨reported, rows, ended⟩ looked
      exact ⟨SystemRow.stamped_stale stale mark, old, Store.mem_of_system? looked,
        .stamped old mark⟩
    · exact quiet
  case ignored =>
    rintro earlier later e r rfl reported ignored
    obtain ⟨before, takes, after⟩ := handled.cut
    have follows := Entry.follows_of_takes takes
    rw [Entry.Follows, ignored] at follows
    obtain ⟨r', m, u, alsoReported, found, read, young⟩ := Course.marker_of_ignored follows
    cases reported.symm.trans alsoReported
    obtain ⟨d, mem, deletes, left⟩ :=
      before.mem_markers (by rw [emptyStore]) (Store.mem_of_marker? found)
    rw [Store.inventoryId_of_marker? found] at deletes
    refine ⟨u, read, d, mem, deletes, m.deletedAt, left, ?_⟩
    rw [Marker.isRecent, decide_eq_true_eq, Instant.since_eq] at young
    · exact young
    · exact ordinary (e := e) (by simp) u (by simp [read])
    · exact ordinary (List.mem_append_left _ mem) m.deletedAt left

theorem Sample.steady : IsSteady world.clock where
  ordinary n := Nat.succ_pos _
  forward := by
    intro m n le
    have notBack : ¬ min (n : Int) 100 < min (m : Int) 100 := by omega
    simp [world, Instant.before, notBack]

theorem deletions_hold_sample :
    DeletionsHold Sample.threshold Sample.ignored.after
        [Sample.uploaded, Sample.deleted, Sample.ignored] ∧
      Dormant "h" Sample.deleted.after [Sample.ignored] Sample.ignored.after := by
  have holds := deletions_hold Sample.handled rfl Sample.steady Sample.safe
  have cut : [Sample.uploaded, Sample.deleted, Sample.ignored] =
      [Sample.uploaded] ++ Sample.deleted :: [Sample.ignored] := rfl
  obtain ⟨time, read, dormant⟩ := holds.dormant cut (d := Sample.deleted) ⟨rfl, 1, rfl⟩
  refine ⟨holds, dormant ?_⟩
  have shown : Sample.deleted.readings = [⟨1, 0⟩] := rfl
  have shownLater : Sample.ignored.readings = [⟨2, 0⟩] := rfl
  cases shown.symm.trans read
  intro e mem u read
  rw [List.mem_singleton.mp mem, shownLater] at read
  rw [List.mem_singleton.mp read]
  decide

end FleetRoster
