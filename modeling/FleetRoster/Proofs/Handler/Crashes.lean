import FleetRoster.Proofs.Calendar.Nanos
import FleetRoster.Proofs.Handler.Duties
import FleetRoster.Proofs.Handler.Tallies
import FleetRoster.Proofs.Roster.Rows

/-!
# Thresholds that reach back too far

A deletion takes its threshold away from the time, and crashes where that leaves the calendar. By
then it has set its marker and marked its rows, and whoever handed it over gets no answer. Handlers
take thresholds that are longer than the calendar, so it depends on the clock which of them do no
harm: those that lead from every reading to an instant that is representable.
-/

namespace FleetRoster

open Calendar (Instant firstSecond lastSecond nanosPerSecond)
open FleetRoster.Flow

/-! ## Thresholds -/

/-- What crashes is a deletion of which the rows are marked. -/
theorem Course.of_crashed {threshold : Nat} {job : Job} {b b' : Books} {readings : List Instant}
    {items : List Item} (course : Course threshold job b readings items .crashed b') :
    ∃ inventoryId time, job.deletion? = some inventoryId ∧ readings = [time] ∧
      time.earlier? threshold = none ∧
      b' = (b.marking inventoryId time).staling inventoryId time := by
  cases course with
  | idle _ idle => exact idle.elim
  | crashed deletion back => exact ⟨_, _, deletion, rfl, back, rfl⟩

/-- The clock is the same. -/
def World.KeepsClock (w w' : World) : Prop :=
  w'.clock = w.clock

/-- Whatever goes on besides while the clock shows its readings, no event crashes with a threshold,
and no message does with settings that have it. -/
structure NeverCrashes (threshold : Nat) (clock : Nat → Instant) : Prop where
  events : ∀ e : Entry Job Outcome, e.before.clock = clock →
    (e.event.handler threshold).Takes World.KeepsClock e.before e.deeds e.after e.ending →
      e.ending ≠ .crashed
  messages : ∀ (settings : Settings) (e : Entry Inbound Unit),
    settings.thresholdNanos = threshold → e.before.clock = clock →
      (handleMessage settings e.event).Takes World.KeepsClock e.before e.deeds e.after e.ending →
        e.ending = .done ()

section

variable {threshold : Nat} {clock : Nat → Instant}

theorem neverCrashes_of_isSafe (safe : IsSafe clock threshold) : NeverCrashes threshold clock where
  events e same takes := by
    subst same
    obtain ⟨_, judged⟩ := (judged_dispatch safe _ _ _).of_takes id takes
    intro crashed
    rw [crashed] at judged
    exact judged
  messages settings e same sameClock takes := by
    subst same sameClock
    obtain ⟨verdict, counted⟩ := Entry.isCounted_of_takes id safe takes
    exact counted.ends

namespace Sample

/-- A world in which nothing has happened, but so many readings were taken of a clock. -/
def beginning (clock : Nat → Instant) (readings : Nat) : World :=
  { world with clock, readings }

/-- A deletion that takes its threshold away from a reading crashes where that is too early. -/
theorem crashes_of_none {n : Nat} (back : (clock n).earlier? threshold = none) :
    (Entry.ofRun (Job.handler threshold) deletion (beginning clock n)).ending = .crashed := by
  have cleared : ∃ w, (Entry.ofRun (Job.handler threshold) deletion (beginning clock n)).ending =
      ((clearOutdated threshold deletion.about (clock n) 0).runIn w).2 := ⟨_, rfl⟩
  obtain ⟨w, ended⟩ := cleared
  rw [ended, clearOutdated, back]
  rfl

end Sample

theorem isSafe_of_neverCrashes (never : NeverCrashes threshold clock) : IsSafe clock threshold := by
  intro n
  by_contra early
  have back : (clock n).earlier? threshold = none := Option.not_isSome_iff_eq_none.mp early
  exact never.events (.ofRun (Job.handler threshold) Sample.deletion (Sample.beginning clock n)) rfl
    (Entry.takes_ofRun (fun _ _ => rfl) _ _ _) (Sample.crashes_of_none back)

end

/-- The longest threshold that handlers take. -/
def longestThreshold : Nat := (Nat.pow 2 63 - 1) * 1000000

/-- What thresholds do to those who handle events by a clock. -/
structure Reckoning (clock : Nat → Instant) : Prop where
  /-- A threshold does no harm exactly if it leads from every reading to a representable instant. -/
  harmless : ∀ threshold, NeverCrashes threshold clock ↔
    ∀ n, firstSecond * nanosPerSecond + threshold ≤ (clock n).nanos
  /-- What crashes is a deletion: its threshold reaches back too far from the one reading that it
  took, its marker is set and its rows are marked. -/
  struck : ∀ threshold (e : Entry Job Outcome), e.before.clock = clock →
    (e.event.handler threshold).Takes World.Aside e.before e.deeds e.after e.ending →
      e.ending = .crashed → ∃ inventoryId time, e.event.deletion? = some inventoryId ∧
        e.readings = [time] ∧ time.nanos < firstSecond * nanosPerSecond + threshold ∧
        e.after.books = (e.before.books.marking inventoryId time).staling inventoryId time
  /-- The longest threshold does harm. -/
  longest : isThreshold longestThreshold ∧ ¬ NeverCrashes longestThreshold clock

/-- Which of the thresholds that handlers take do no harm depends on the clock: those that do not reach
back before the first instant from any of its readings. -/
theorem thresholds_reckoned {clock : Nat → Instant} (valid : ∀ n, (clock n).IsValid) :
    Reckoning clock := by
  have safe : ∀ threshold, IsSafe clock threshold ↔
      ∀ n, firstSecond * nanosPerSecond + threshold ≤ (clock n).nanos :=
    fun threshold => forall_congr' fun n => Instant.isSome_earlier?_iff (valid n) threshold
  have harmless : ∀ threshold, NeverCrashes threshold clock ↔ IsSafe clock threshold :=
    fun threshold => ⟨isSafe_of_neverCrashes, neverCrashes_of_isSafe⟩
  constructor
  case harmless => exact fun threshold => (harmless threshold).trans (safe threshold)
  case struck =>
    intro threshold e same takes crashed
    have follows := Entry.follows_of_takes takes
    rw [Entry.Follows, crashed] at follows
    obtain ⟨inventoryId, time, deletion, read, back, books⟩ := follows.of_crashed
    have mem : time ∈ e.readings := by
      rw [read]
      exact .head _
    obtain ⟨n, _, _, rfl⟩ := takes.clock.2 time mem
    refine ⟨inventoryId, e.before.clock n, deletion, read, ?_, books⟩
    rw [← Int.not_le, ← Instant.isSome_earlier?_iff (same ▸ valid n), back]
    exact Bool.false_ne_true
  case longest =>
    refine ⟨by decide, fun never => ?_⟩
    have back := (harmless _).mp never 0
    rw [Instant.earlier?_of_long (valid 0) (by decide)] at back
    exact absurd back Bool.false_ne_true

/-- Whether a flow has crashed. -/
def Ending.isCrash {α : Type} : Ending α → Bool
  | .crashed => true
  | _ => false

theorem Ending.eq_crashed {α : Type} {ending : Ending α} (crash : ending.isCrash = true) :
    ending = .crashed := by
  cases ending with
  | crashed => rfl
  | done a => contradiction
  | failed why => contradiction

namespace Sample

/-- A threshold of nine million million seconds. -/
def endless : Settings where
  deletionThreshold := 9000000000000

/-- A world of today, in which one host was uploaded. -/
def today : World :=
  (Entry.ofRun (Job.handler threshold) upload { world with clock := fun _ => ⟨1700000000, 0⟩ }).after

/-- The host is deleted. -/
def struck : Entry Job Outcome :=
  .ofRun (Job.handler endless.thresholdNanos) deletion today

/-- The host is deleted by a message. -/
def unanswered : Entry Inbound Unit :=
  .ofRun (handleMessage endless) ⟨0, Text.payload "\x7b\"type\":\"delete\",\"id\":\"h\"\x7d"⟩ today

end Sample

theorem thresholds_reckoned_sample :
    Reckoning Sample.world.clock ∧ NeverCrashes Sample.threshold Sample.world.clock :=
  ⟨thresholds_reckoned Sample.isValid_clock, neverCrashes_of_isSafe Sample.safe⟩

/-- A threshold that handlers take makes a deletion crash after its row was marked, and with it the
message. -/
theorem accepted_threshold_crashes :
    Sample.endless.checkThreshold = .ok () ∧
      Sample.today.store.systems.map (·.stale) = [false] ∧
      Sample.struck.ending = .crashed ∧
      Sample.struck.after.store.systems.map (·.stale) = [true] ∧
      Sample.unanswered.ending = .crashed ∧
      ¬ NeverCrashes Sample.endless.thresholdNanos Sample.today.clock := by
  have crashed : Sample.struck.ending = .crashed := Ending.eq_crashed (by decide +kernel)
  refine ⟨if_pos (by decide), by decide +kernel, crashed, by decide +kernel,
    Ending.eq_crashed (by decide +kernel), fun never => ?_⟩
  exact never.events Sample.struck rfl (Entry.takes_ofRun (fun _ _ => rfl) _ _ _) crashed

end FleetRoster
