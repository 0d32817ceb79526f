import FleetRoster.Calendar.Instant

/-!
# Days and their numbers

Every day has one number: the date that lies a number of days after 1 January 1970 is numbered so,
and it exists if its year is representable. A day is told by its place in an era of four hundred
years, and there by a year that begins in March and its place in that year.
-/

namespace FleetRoster.Calendar

namespace Date

/-- The year of an era in which a day of the era lies. -/
def yearOf (d : Int) : Int :=
  (d - d / 1460 + d / 36524 - d / 146096) / 365

/-- The days of an era before a year of it. -/
def daysBefore (y : Int) : Int :=
  365 * y + y / 4 - y / 100

/-- The date of a day in a year that begins in March. -/
def ofPlace (year place : Int) : Date :=
  let shifted := (5 * place + 2) / 153
  let month := if shifted < 10 then shifted + 3 else shifted - 9
  ⟨year + (if month ≤ 2 then 1 else 0), month.toNat, (place - (153 * shifted + 2) / 5 + 1).toNat⟩

theorem ofDays_eq (n : Int) :
    ofDays n =
      let d := (n + epochDays) % eraDays
      ofPlace (yearOf d + (n + epochDays) / eraDays * 400) (d - daysBefore (yearOf d)) :=
  rfl

/-- A day of an era lies in its year: not before the year begins, and before the next one does. -/
theorem daysBefore_yearOf {d : Int} (nonneg : 0 ≤ d) (small : d < eraDays) :
    0 ≤ yearOf d ∧ yearOf d ≤ 399 ∧ daysBefore (yearOf d) ≤ d ∧
      d < daysBefore (yearOf d + 1) + (yearOf d + 1) / 400 := by
  simp only [eraDays] at small
  rcases (by omega : d = 146096 ∨ d < 146096) with rfl | full
  · decide
  obtain ⟨y, year⟩ : ∃ y, yearOf d = y := ⟨_, rfl⟩
  rw [year]
  simp only [yearOf, daysBefore] at year ⊢
  -- Written with the century and the cycle of four years of the day, the year is a linear term.
  obtain ⟨century, isCentury⟩ : ∃ k, d / 36524 = k := ⟨_, rfl⟩
  obtain ⟨cycle, isCycle⟩ : ∃ f, d / 1460 = f := ⟨_, rfl⟩
  rw [isCentury, isCycle, (by omega : d / 146096 = 0)] at year
  have early : 0 ≤ century := by omega
  have late : century ≤ 3 := by omega
  have sameCentury : y / 100 = century := by omega
  have lower : y / 4 ≤ cycle := by omega
  have upper : cycle ≤ (y + 1) / 4 := by omega
  refine ⟨by omega, by omega, by omega, ?_⟩
  by_cases last : y % 100 = 99
  · omega
  · have next : (y + 1) / 100 = century := by omega
    omega

/-- A place in a year that begins in March: the year has one more day if the next one is leap. -/
structure IsPlace (year place : Int) : Prop where
  nonneg : 0 ≤ place
  small : place ≤ 365
  leap : place = 365 → isLeap (year + 1) = true

theorem isPlace_of_era {d : Int} (nonneg : 0 ≤ d) (small : d < eraDays) (era : Int) :
    IsPlace (yearOf d + era * 400) (d - daysBefore (yearOf d)) := by
  obtain ⟨first, last, begun, ends⟩ := daysBefore_yearOf nonneg small
  generalize yearOf d = y at *
  simp only [daysBefore] at *
  refine ⟨by omega, by omega, fun full => ?_⟩
  simp only [isLeap, Bool.and_eq_true, Bool.or_eq_true, decide_eq_true_eq]
  omega

/-- A place in a year has the number of the year's first day and as many days more. -/
theorem toDays_ofPlace {year place : Int} (isPlace : IsPlace year place) :
    (ofPlace year place).toDays =
      year / 400 * eraDays + (daysBefore (year % 400) + place) - epochDays := by
  obtain ⟨nonneg, small, -⟩ := isPlace
  obtain ⟨m, isMonth⟩ : ∃ m, (5 * place + 2) / 153 = m := ⟨_, rfl⟩
  simp only [ofPlace, isMonth]
  by_cases early : m < 10
  · simp only [if_pos early, if_neg (by omega : ¬ m + 3 ≤ 2), toDays,
      if_neg (by omega : ¬ (m + 3).toNat ≤ 2), daysBefore, eraDays]
    have back : (((m + 3).toNat : Int) + 9) % 12 = m := by omega
    rw [back]
    omega
  · simp only [if_neg early, if_pos (by omega : m - 9 ≤ 2), toDays,
      if_pos (by omega : (m - 9).toNat ≤ 2), daysBefore, eraDays]
    have back : (((m - 9).toNat : Int) + 9) % 12 = m := by omega
    rw [back]
    omega

/-- The date of a number of days is numbered so. -/
theorem toDays_ofDays (n : Int) : (ofDays n).toDays = n := by
  obtain ⟨d, isDay⟩ : ∃ d, (n + epochDays) % eraDays = d := ⟨_, rfl⟩
  have nonneg : 0 ≤ d := isDay ▸ Int.emod_nonneg _ (by decide)
  have small : d < eraDays := isDay ▸ Int.emod_lt_of_pos _ (by decide)
  obtain ⟨first, last, -⟩ := daysBefore_yearOf nonneg small
  rw [ofDays_eq, isDay]
  dsimp only
  rw [toDays_ofPlace (isPlace_of_era nonneg small _)]
  have sameEra : (yearOf d + (n + epochDays) / eraDays * 400) / 400 =
      (n + epochDays) / eraDays := by omega
  have sameYear : (yearOf d + (n + epochDays) / eraDays * 400) % 400 = yearOf d := by omega
  rw [sameEra, sameYear]
  have parts := Int.mul_ediv_add_emod (n + epochDays) eraDays
  rw [isDay, Int.mul_comm] at parts
  omega

/-- The first and the last day with a representable year. -/
def dayRange : Int × Int :=
  ((⟨yearRange.1, 1, 1⟩ : Date).toDays, (⟨yearRange.2, 12, 31⟩ : Date).toDays)

/-- The day of a place is a day of its month. -/
theorem day_ofPlace {year place : Int} (isPlace : IsPlace year place) :
    (1 ≤ (ofPlace year place).month ∧ (ofPlace year place).month ≤ 12) ∧
      1 ≤ (ofPlace year place).day ∧ (ofPlace year place).day ≤
        monthLength (ofPlace year place).year (ofPlace year place).month := by
  obtain ⟨nonneg, small, leap⟩ := isPlace
  obtain ⟨m, isMonth⟩ : ∃ m, (5 * place + 2) / 153 = m := ⟨_, rfl⟩
  simp only [ofPlace, isMonth]
  by_cases early : m < 10
  · rw [if_pos early, if_neg (by omega : ¬ m + 3 ≤ 2)]
    refine ⟨by omega, by omega, ?_⟩
    simp only [monthLength, if_neg (by omega : ¬ (m + 3).toNat = 2), Bool.or_eq_true,
      decide_eq_true_eq]
    split <;> omega
  · rw [if_neg early, if_pos (by omega : m - 9 ≤ 2)]
    refine ⟨by omega, by omega, ?_⟩
    rcases (by omega : m = 10 ∨ m = 11) with rfl | rfl
    · change _ ≤ 31
      omega
    · change _ ≤ if isLeap (year + 1) = true then 29 else 28
      split
      next => omega
      next common =>
        have short : place ≠ 365 := mt leap common
        omega

theorem isValid_ofPlace {year place : Int} (isPlace : IsPlace year place)
    (first : dayRange.1 ≤ (ofPlace year place).toDays)
    (last : (ofPlace year place).toDays ≤ dayRange.2) : (ofPlace year place).isValid = true := by
  have days := day_ofPlace isPlace
  rw [toDays_ofPlace isPlace] at first last
  obtain ⟨nonneg, small, -⟩ := isPlace
  rw [show dayRange.1 = -96465292 by decide] at first
  rw [show dayRange.2 = 95026236 by decide] at last
  simp only [daysBefore, eraDays, epochDays] at first last
  have lower : -262144 < year ∨ year = -262144 ∧ 306 ≤ place := by
    rcases (by omega : -262144 < year ∨ year = -262144 ∨ year < -262144) with _ | rfl | _ <;> omega
  have upper : year < 262142 ∨ year = 262142 ∧ place < 306 := by
    rcases (by omega : year < 262142 ∨ year = 262142 ∨ 262142 < year) with _ | rfl | _ <;> omega
  have years : yearRange.1 ≤ (ofPlace year place).year ∧
      (ofPlace year place).year ≤ yearRange.2 := by
    simp only [ofPlace, yearRange]
    split <;> omega
  simp only [isValid, Bool.and_eq_true, decide_eq_true_eq]
  exact ⟨⟨⟨⟨⟨years.1, years.2⟩, days.1.1⟩, days.1.2⟩, days.2.1⟩, days.2.2⟩

/-- The date of a day in the range of representable years exists. -/
theorem isValid_ofDays {n : Int} (first : dayRange.1 ≤ n) (last : n ≤ dayRange.2) :
    (ofDays n).isValid = true := by
  rw [← toDays_ofDays n] at first last
  exact isValid_ofPlace
    (isPlace_of_era (Int.emod_nonneg _ (by decide)) (Int.emod_lt_of_pos _ (by decide)) _) first last

end Date

end FleetRoster.Calendar
