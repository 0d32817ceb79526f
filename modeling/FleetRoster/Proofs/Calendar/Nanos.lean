import FleetRoster.Calendar.Instant

/-!
# Instants as numbers

Outside leap seconds an instant is a number of nanoseconds, and what is reckoned with instants is
reckoned with these numbers. A steady clock never goes back and, like every system clock, never
shows a leap second.
-/

namespace FleetRoster.Calendar

namespace Instant

/-- The nanoseconds since 1 January 1970, leap seconds not counted. -/
def nanos (a : Instant) : Int :=
  a.second * nanosPerSecond + a.nano

/-- An instant outside leap seconds. -/
def IsOrdinary (a : Instant) : Prop :=
  a.nano < nanosPerSecond

variable {a b : Instant}

theorem before_iff (ordinaryA : a.IsOrdinary) (ordinaryB : b.IsOrdinary) :
    a.before b = true ↔ a.nanos < b.nanos := by
  simp only [before, nanos, IsOrdinary, nanosPerSecond, Bool.or_eq_true, Bool.and_eq_true,
    decide_eq_true_eq] at ordinaryA ordinaryB ⊢
  omega

/-- The age of one instant at another is their difference. -/
theorem since_eq (ordinaryA : a.IsOrdinary) (ordinaryB : b.IsOrdinary) :
    a.since b = a.nanos - b.nanos := by
  have noLeapA : ¬ nanosPerSecond ≤ a.nano := Nat.not_le.mpr ordinaryA
  have noLeapB : ¬ nanosPerSecond ≤ b.nano := Nat.not_le.mpr ordinaryB
  simp only [since, noLeapA, noLeapB, decide_false, Bool.and_false, Bool.false_eq_true, if_false]
  simp only [nanos, nanosPerSecond]
  omega

theorem earlier?_eq (ordinary : a.IsOrdinary) (span : Nat) :
    a.earlier? span =
      let moved := a.nanos - span
      let limit : Instant := ⟨moved / nanosPerSecond, (moved % nanosPerSecond).toNat⟩
      if limit.isRepresentable then some limit else none := by
  have noLeap : ¬ nanosPerSecond ≤ a.nano := Nat.not_le.mpr ordinary
  simp only [earlier?, nanos, noLeap, decide_false, Bool.false_and, Bool.false_eq_true, if_false]
  rfl

/-- The earlier instant lies before the other by the span. -/
theorem nanos_of_earlier? (ordinary : a.IsOrdinary) {span : Nat} {limit : Instant}
    (found : a.earlier? span = some limit) :
    limit.IsOrdinary ∧ limit.nanos = a.nanos - span := by
  rw [earlier?_eq ordinary] at found
  simp only [Option.ite_none_right_eq_some, Option.some.injEq] at found
  rcases found with ⟨_, rfl⟩
  simp only [nanos, IsOrdinary, nanosPerSecond]
  omega

/-- An instant has earlier ones as far back as there are representable ones. -/
theorem isSome_earlier? (ordinary : a.IsOrdinary) {span : Nat}
    (early : firstSecond * nanosPerSecond + span ≤ a.nanos) (late : a.second ≤ lastSecond) :
    (a.earlier? span).isSome := by
  have first : firstSecond ≤ (a.nanos - span) / nanosPerSecond := by
    apply Int.le_ediv_of_mul_le (by decide)
    omega
  have last : (a.nanos - span) / nanosPerSecond ≤ lastSecond := by
    simp only [nanos, IsOrdinary, nanosPerSecond] at ordinary ⊢
    omega
  rw [earlier?_eq ordinary]
  simp [isRepresentable, first, last]

theorem isRepresentable_iff :
    a.isRepresentable = true ↔ firstSecond ≤ a.second ∧ a.second ≤ lastSecond := by
  simp [isRepresentable]

/-- If a span does not reach back too far from an instant, it does not from a later one. -/
theorem isSome_earlier?_of_le (ordinaryA : a.IsOrdinary) (ordinaryB : b.IsOrdinary) {span : Nat}
    (back : (a.earlier? span).isSome) (le : a.nanos ≤ b.nanos) (late : b.second ≤ lastSecond) :
    (b.earlier? span).isSome := by
  obtain ⟨limit, found⟩ := Option.isSome_iff_exists.mp back
  rw [earlier?_eq ordinaryA] at found
  simp only [Option.ite_none_right_eq_some, isRepresentable_iff] at found
  have first : firstSecond * nanosPerSecond ≤ a.nanos - span :=
    (Int.le_ediv_iff_mul_le (by decide)).mp found.1.1
  exact isSome_earlier? ordinaryB (by omega) late

/-- An instant that a clock can show: it is representable, and at most in a leap second. -/
structure IsValid (a : Instant) : Prop where
  representable : a.isRepresentable = true
  nano : a.nano < 2 * nanosPerSecond

/-- From a leap second a short span leads to the same second, and a longer one before it. -/
theorem earlier?_of_leap (leap : nanosPerSecond ≤ a.nano) (span : Nat) :
    a.earlier? span =
      if span < nanosPerSecond then some ⟨a.second, a.nano - span⟩
      else
        let moved := a.nanos - span
        let limit : Instant := ⟨moved / nanosPerSecond, (moved % nanosPerSecond).toNat⟩
        if limit.isRepresentable then some limit else none := by
  have start : (a.second + 1) * nanosPerSecond + (a.nano - nanosPerSecond : Nat) = a.nanos := by
    simp only [nanos, nanosPerSecond] at leap ⊢
    omega
  simp only [earlier?, leap, decide_true, Bool.true_and, if_true, decide_eq_true_eq, start]

/-- A span can be taken away exactly if it does not reach back before the first instant. -/
theorem isSome_earlier?_iff (valid : a.IsValid) (span : Nat) :
    (a.earlier? span).isSome ↔ firstSecond * nanosPerSecond + span ≤ a.nanos := by
  obtain ⟨first, last⟩ := isRepresentable_iff.mp valid.representable
  have lower : firstSecond ≤ (a.nanos - span) / nanosPerSecond ↔
      firstSecond * nanosPerSecond + span ≤ a.nanos := by
    rw [Int.le_ediv_iff_mul_le (by decide)]
    omega
  by_cases ordinary : a.IsOrdinary
  · have upper : (a.nanos - span) / nanosPerSecond ≤ lastSecond := by
      simp only [nanos, IsOrdinary, nanosPerSecond] at ordinary ⊢
      omega
    simp [earlier?_eq ordinary, isRepresentable, lower, upper]
  · have leap : nanosPerSecond ≤ a.nano := Nat.not_lt.mp ordinary
    have bounded := valid.nano
    rw [earlier?_of_leap leap]
    split
    next short =>
      simp only [nanos, nanosPerSecond, Option.isSome_some, true_iff] at leap short ⊢
      omega
    next long =>
      have upper : (a.nanos - span) / nanosPerSecond ≤ lastSecond := by
        simp only [nanos, nanosPerSecond] at bounded long ⊢
        omega
      simp [isRepresentable, lower, upper]

/-- A span that is longer than the calendar reaches back too far from every instant. -/
theorem earlier?_of_long (valid : a.IsValid) {span : Nat}
    (long : (lastSecond - firstSecond + 2) * nanosPerSecond ≤ span) : a.earlier? span = none := by
  obtain ⟨_, last⟩ := isRepresentable_iff.mp valid.representable
  have bounded := valid.nano
  rw [← Option.not_isSome_iff_eq_none, isSome_earlier?_iff valid]
  simp only [nanos, nanosPerSecond] at bounded long ⊢
  omega

/-- What lies a span before an instant is not after it. -/
theorem before_of_earlier? (valid : a.IsValid) {span : Nat} {limit : Instant}
    (found : a.earlier? span = some limit) : a.before limit = false := by
  by_cases ordinary : a.IsOrdinary
  · obtain ⟨ordinaryLimit, shifted⟩ := nanos_of_earlier? ordinary found
    rw [Bool.eq_false_iff, Ne, before_iff ordinary ordinaryLimit]
    omega
  · have leap : nanosPerSecond ≤ a.nano := Nat.not_lt.mp ordinary
    have bounded := valid.nano
    simp only [before, nanosPerSecond, Bool.or_eq_false_iff, Bool.and_eq_false_iff,
      decide_eq_false_iff_not] at leap bounded ⊢
    rw [earlier?_of_leap leap] at found
    split at found
    next short =>
      cases found
      dsimp only
      omega
    next long =>
      simp only [Option.ite_none_right_eq_some, Option.some.injEq] at found
      obtain ⟨_, rfl⟩ := found
      simp only [nanos, nanosPerSecond] at long ⊢
      omega

end Instant

/-- A clock that never goes back and never shows a leap second. -/
structure IsSteady (clock : Nat → Instant) : Prop where
  ordinary : ∀ n, (clock n).IsOrdinary
  forward : ∀ {m n}, m ≤ n → (clock n).before (clock m) = false

namespace IsSteady

variable {clock : Nat → Instant}

theorem nanos_le (steady : IsSteady clock) {m n : Nat} (le : m ≤ n) :
    (clock m).nanos ≤ (clock n).nanos := by
  have notBefore := steady.forward le
  rw [Bool.eq_false_iff, Ne, Instant.before_iff (steady.ordinary n) (steady.ordinary m)]
    at notBefore
  exact Int.not_lt.mp notBefore

end IsSteady

end FleetRoster.Calendar
