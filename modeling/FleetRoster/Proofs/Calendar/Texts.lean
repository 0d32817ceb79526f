import FleetRoster.Calendar.Printer
import FleetRoster.Calendar.Reader
import FleetRoster.Proofs.Calendar.Dates
import FleetRoster.Proofs.Calendar.Nanos
import FleetRoster.Proofs.Package.Grammar

/-!
# Texts of instants are read back

The text that is written for an instant is read as that instant, if a leap second stands at the end
of a minute. Anywhere else a leap second is written as the ordinary second after it.
-/

namespace FleetRoster.Calendar

/-! ## Numbers -/

namespace Read

/-- No digit goes on in a text. -/
def DigitsEnd (rest : List Char) : Prop :=
  ∀ c ∈ rest.head?, digit? c = none

theorem digit?_of_isDigit {c : Char} (digit : c.isDigit = true) :
    digit? c = some (c.toNat - 48) := by
  rw [digit?, if_pos]
  simpa using Package.isDigit_iff_le.mp digit

/-- Digits are read as their number, up to the width or to what is no digit. -/
theorem moreDigits_append {ds : List Char} (digits : ∀ d ∈ ds, d.isDigit = true) {width n : Nat}
    {rest : List Char} (fits : ds.length ≤ width) (ends : ds.length = width ∨ DigitsEnd rest)
    (small : Nat.ofDigitChars 10 ds n < numberLimit) :
    moreDigits width n (ds ++ rest) = .ok (Nat.ofDigitChars 10 ds n, rest) := by
  induction ds generalizing width n with
  | nil =>
      cases width with
      | zero => rfl
      | succ width =>
          have ends : DigitsEnd rest := ends.resolve_left (by simp)
          cases rest with
          | nil => rfl
          | cons c rest =>
              rw [List.nil_append, moreDigits, ends c rfl]
              rfl
  | cons d ds ih =>
      rw [List.forall_mem_cons] at digits
      obtain ⟨width, rfl⟩ : ∃ w, width = w + 1 := ⟨width - 1, by simp at fits; omega⟩
      rw [Nat.ofDigitChars_cons] at small
      have grows := Package.le_ofDigitChars ds (10 * n + (d.toNat - 48))
      rw [List.cons_append, moreDigits, digit?_of_isDigit digits.1, Nat.ofDigitChars_cons]
      dsimp only
      rw [Nat.mul_comm n 10, if_pos (Nat.lt_of_le_of_lt grows small)]
      exact ih digits.2 (by simpa using fits) (by simpa using ends) small

/-- A run of digits is read as its number. -/
theorem number_append {ds : List Char} (digits : ∀ d ∈ ds, d.isDigit = true) (some : ds ≠ [])
    {width : Nat} {rest : List Char} (fits : ds.length ≤ width)
    (ends : ds.length = width ∨ DigitsEnd rest)
    (small : Nat.ofDigitChars 10 ds 0 < numberLimit) :
    number width (ds ++ rest) = .ok (Nat.ofDigitChars 10 ds 0, rest) := by
  cases ds with
  | nil => exact absurd rfl some
  | cons d ds =>
      rw [List.forall_mem_cons] at digits
      rw [List.length_cons] at fits ends
      rw [Nat.ofDigitChars_cons] at small ⊢
      rw [List.cons_append, number, digit?_of_isDigit digits.1]
      simp only [Nat.mul_zero, Nat.zero_add] at small ⊢
      exact moreDigits_append digits.2 (by omega) (ends.imp_left (by omega)) small

end Read

/-- A number that is filled up with zeros has its digits, and is not changed by the zeros. -/
theorem padded_digits (width n : Nat) :
    (∀ d ∈ padded width n, d.isDigit = true) ∧ Nat.ofDigitChars 10 (padded width n) 0 = n := by
  rw [padded, List.forall_mem_append, Nat.ofDigitChars_append, Nat.ofDigitChars_replicate_zero]
  refine ⟨⟨fun d mem => ?_, fun d mem => ?_⟩, ?_⟩
  · rw [List.eq_of_mem_replicate mem]
    rfl
  · exact Nat.isDigit_of_mem_toDigits (by decide) (by decide) mem
  · simp

theorem padded_ne_nil (width n : Nat) : padded width n ≠ [] := by
  simp [padded]

theorem length_padded {width n : Nat} (positive : 0 < width) (small : n < 10 ^ width) :
    (padded width n).length = width := by
  have fits : (Nat.toDigits 10 n).length ≤ width :=
    (Nat.length_toDigits_le_iff (by decide) positive).mpr small
  simp only [padded, List.length_append, List.length_replicate]
  omega

namespace Read

/-- A number of a fixed width is read whatever follows. -/
theorem number_padded {width n : Nat} (positive : 0 < width) (small : n < 10 ^ width)
    (short : width ≤ 18) (rest : List Char) :
    number width (padded width n ++ rest) = .ok (n, rest) := by
  obtain ⟨digits, value⟩ := padded_digits width n
  have length := length_padded positive small
  have inRange : n < numberLimit := by
    have bound : (10 : Nat) ^ width ≤ 10 ^ 18 := Nat.pow_le_pow_right (by decide) short
    have limit : (10 : Nat) ^ 18 ≤ numberLimit := by decide
    omega
  have read := number_append digits (padded_ne_nil width n) (Nat.le_of_eq length)
    (.inl length : _ ∨ DigitsEnd rest) (by rwa [value])
  rwa [value] at read

/-! ## Parts of a text -/

theorem exists_padded (width n : Nat) :
    ∃ c cs, padded width n = c :: cs ∧ c.isDigit = true := by
  obtain ⟨c, cs, digits⟩ := List.exists_cons_of_ne_nil (padded_ne_nil width n)
  exact ⟨c, cs, digits, (padded_digits width n).1 c (digits ▸ List.mem_cons_self)⟩

theorem dropBlanks_padded (width n : Nat) (rest : List Char) :
    Text.dropBlanks (padded width n ++ rest) = padded width n ++ rest := by
  obtain ⟨c, cs, digits, digit⟩ := exists_padded width n
  rw [digits, List.cons_append, Text.dropBlanks_cons (Package.isBlank_of_isDigit digit)]

theorem field_padded {n least greatest : Nat} (inRange : least ≤ n ∧ n ≤ greatest)
    (small : greatest < 100) (rest : List Char) :
    field 2 least greatest (padded 2 n ++ rest) = .ok (n, rest) := by
  rw [field, dropBlanks_padded, number_padded (by decide) (by omega) (by decide)]
  exact if_pos inRange

theorem mark_cons {c : Char} (visible : Text.isBlank c = false) (rest : List Char) :
    mark c (c :: rest) = .ok rest := by
  rw [mark, Text.dropBlanks_cons visible]
  exact if_pos rfl

/-- A year is read up to the mark behind it. -/
theorem year_yearText {y : Int} (first : yearRange.1 ≤ y) (last : y ≤ yearRange.2)
    (rest : List Char) : year (yearText y ++ '-' :: rest) = .ok (y, '-' :: rest) := by
  simp only [yearRange] at first last
  have inRange : -Int.pow 2 31 ≤ y ∧ y < Int.pow 2 31 := by
    change -2147483648 ≤ y ∧ y < 2147483648
    omega
  have amount :
      number (padded 4 y.natAbs ++ '-' :: rest).length (padded 4 y.natAbs ++ '-' :: rest) =
        .ok (y.natAbs, '-' :: rest) := by
    obtain ⟨digits, value⟩ := padded_digits 4 y.natAbs
    have read := number_append digits (padded_ne_nil 4 y.natAbs)
      (by simp : _ ≤ (padded 4 y.natAbs ++ '-' :: rest).length)
      (.inr fun _ first => by cases first; rfl : _ ∨ DigitsEnd ('-' :: rest))
      (by rw [value]; change _ < 9223372036854775808; omega)
    rwa [value] at read
  -- a year of four digits has no sign, so its first digit must not be taken for one
  rw [yearText]
  split
  next plain =>
    simp only [Bool.and_eq_true, decide_eq_true_eq] at plain
    have read : number 4 (padded 4 y.toNat ++ '-' :: rest) = .ok (y.toNat, '-' :: rest) :=
      number_padded (by decide) (by omega) (by decide) ('-' :: rest)
    obtain ⟨c, cs, digits, digit⟩ := exists_padded 4 y.toNat
    rw [year, dropBlanks_padded]
    rw [digits, List.cons_append] at read ⊢
    split
    next signed =>
      cases signed
      exact absurd digit (by decide)
    next signed =>
      cases signed
      exact absurd digit (by decide)
    next =>
      simp only [read, Except.map, bind, Except.bind, Int.toNat_of_nonneg plain.1]
      exact if_pos inRange
  next signed =>
    simp only [Bool.and_eq_true, decide_eq_true_eq] at signed
    split
    next negative =>
      have magnitude : -(y.natAbs : Int) = y := by omega
      rw [List.cons_append, year, Text.dropBlanks_cons (by decide)]
      simp only [amount, Except.map, bind, Except.bind, magnitude]
      exact if_pos inRange
    next positive =>
      have magnitude : (y.natAbs : Int) = y := by omega
      rw [List.cons_append, year, Text.dropBlanks_cons (by decide)]
      simp only [amount, Except.map, bind, Except.bind, magnitude]
      exact if_pos inRange

theorem date_text {d : Date} (valid : d.isValid = true) (rest : List Char) :
    date (d.text ++ 'T' :: rest) = .ok (d, 'T' :: rest) := by
  simp only [Date.isValid, Bool.and_eq_true, decide_eq_true_eq] at valid
  obtain ⟨⟨⟨⟨⟨first, last⟩, january⟩, december⟩, start⟩, finish⟩ := valid
  have short : monthLength d.year d.month ≤ 31 := by
    rw [monthLength]
    repeat' split
    all_goals decide
  simp only [Date.text, List.append_assoc, List.cons_append, date, bind, Except.bind,
    year_yearText first last, mark_cons (c := '-') rfl, field_padded ⟨january, december⟩,
    field_padded (⟨start, by omega⟩ : 1 ≤ d.day ∧ d.day ≤ 31), Nat.reduceLT]

/-- Decimal places are read up to the letter behind them. -/
theorem fraction_padded {width n : Nat} (positive : 0 < width) (short : width ≤ 9)
    (small : n < 10 ^ width) :
    fraction ('.' :: (padded width n ++ ['Z'])) = .ok (n * 10 ^ (9 - width), ['Z']) := by
  obtain ⟨digits, value⟩ := padded_digits width n
  have length := length_padded positive small
  have inRange : n < numberLimit := by
    have bound : (10 : Nat) ^ width ≤ 10 ^ 9 := Nat.pow_le_pow_right (by decide) short
    have limit : (10 : Nat) ^ 9 ≤ numberLimit := by decide
    omega
  have read := number_append digits (padded_ne_nil width n) (by omega : _ ≤ 9)
    (.inr fun _ first => by cases first; rfl : _ ∨ DigitsEnd ['Z']) (by rwa [value])
  rw [value] at read
  simp only [fraction, read, bind, Except.bind, List.length_append, length, List.length_singleton,
    Nat.add_sub_cancel]
  rfl

/-- The decimal places of a second are read as its nanoseconds. -/
theorem fraction_fractionText {nano : Nat} (small : nano < nanosPerSecond) :
    fraction (fractionText nano ++ ['Z']) = .ok (nano, ['Z']) := by
  simp only [nanosPerSecond] at small
  rw [fractionText]
  split
  next zero => rw [zero]; rfl
  split
  next millis =>
    have whole : nano / 1000000 * 10 ^ (9 - 3) = nano := by omega
    rw [List.cons_append, fraction_padded (by decide) (by decide) (by omega), whole]
  split
  next micros =>
    have whole : nano / 1000 * 10 ^ (9 - 6) = nano := by omega
    rw [List.cons_append, fraction_padded (by decide) (by decide) (by omega), whole]
  next =>
    rw [List.cons_append, fraction_padded (by decide) (by decide) small, Nat.sub_self, Nat.pow_zero,
      Nat.mul_one]

/-- A time of day is read from its three numbers and the decimal places. -/
theorem time_padded {h m s nano : Nat} (hours : h ≤ 23) (minutes : m ≤ 59) (seconds : s ≤ 60)
    {places rest after : List Char} (fractionIs : fraction (places ++ rest) = .ok (nano, after)) :
    time (padded 2 h ++ ':' :: (padded 2 m ++ ':' :: (padded 2 s ++ (places ++ rest)))) =
      .ok (if s = 60 then (h * 3600 + m * 60 + 59, nanosPerSecond + nano)
        else (h * 3600 + m * 60 + s, nano), after) := by
  simp only [time, bind, Except.bind, field_padded (⟨Nat.zero_le h, hours⟩ : 0 ≤ h ∧ h ≤ 23),
    field_padded (⟨Nat.zero_le m, minutes⟩ : 0 ≤ m ∧ m ≤ 59),
    field_padded (⟨Nat.zero_le s, seconds⟩ : 0 ≤ s ∧ s ≤ 60), mark_cons (c := ':') rfl, fractionIs,
    Nat.reduceLT]
  split <;> rfl

end Read

/-! ## Instants -/

namespace Instant

/-- The text of an instant is read as that instant. -/
def ReadsBack (a : Instant) : Prop :=
  Instant.read a.text = .ok a

/-- A leap second stands at the end of a minute. -/
def LeapsAtMinuteEnd (a : Instant) : Prop :=
  nanosPerSecond ≤ a.nano → a.second % 60 = 59

variable {a : Instant}

theorem timeOfDay_lt (a : Instant) : a.timeOfDay.toNat < 86400 := by
  simp only [timeOfDay, secondsPerDay]
  omega

theorem timeOfDay_mod (a : Instant) : ((a.timeOfDay.toNat % 60 : Nat) : Int) = a.second % 60 := by
  simp only [timeOfDay, secondsPerDay]
  omega

/-- The clock of an instant is read as its second of the day and its nanoseconds. -/
theorem time_clockText (small : a.nano < 2 * nanosPerSecond) (leap : a.LeapsAtMinuteEnd) :
    Read.time (a.clockText ++ ['Z']) = .ok ((a.timeOfDay.toNat, a.nano), ['Z']) := by
  have inDay := timeOfDay_lt a
  have inMinute := timeOfDay_mod a
  rw [clockText]
  generalize a.timeOfDay.toNat = t at *
  have hours : t / 3600 ≤ 23 := by omega
  have minutes : t / 60 % 60 ≤ 59 := by omega
  have ordinary : t % 60 ≤ 59 := by omega
  have whole : t / 3600 * 3600 + t / 60 % 60 * 60 + t % 60 = t := by omega
  simp only [List.append_assoc, List.cons_append]
  by_cases isLeap : nanosPerSecond ≤ a.nano
  · have last : t % 60 = 59 := by
      have atEnd := leap isLeap
      omega
    have few : a.nano - nanosPerSecond < nanosPerSecond := by omega
    have places := Read.fraction_fractionText few
    have read := Read.time_padded hours minutes (by omega : t % 60 + 1 ≤ 60) places
    rw [if_pos (by omega), Nat.add_sub_cancel' isLeap, ← last, whole] at read
    simpa only [isLeap, if_true] using read
  · have places := Read.fraction_fractionText (Nat.not_le.mp isLeap)
    have read := Read.time_padded hours minutes (by omega : t % 60 ≤ 60) places
    rw [if_neg (by omega), whole] at read
    simpa only [isLeap, if_false, Nat.add_zero] using read

/-- A representable instant has a date. -/
theorem isValid_date (representable : a.isRepresentable = true) : a.date.isValid = true := by
  obtain ⟨first, last⟩ := isRepresentable_iff.mp representable
  have firstIs : firstSecond = Date.dayRange.1 * secondsPerDay := rfl
  have lastIs : lastSecond = (Date.dayRange.2 + 1) * secondsPerDay - 1 := rfl
  rw [firstIs] at first
  rw [lastIs] at last
  have positive : (0 : Int) < secondsPerDay := by decide
  apply Date.isValid_ofDays
  · exact (Int.le_ediv_iff_mul_le positive).mpr first
  · exact Int.le_of_lt_add_one ((Int.ediv_lt_iff_lt_mul positive).mpr (by omega))

/-- The day of an instant and its second of the day are its seconds. -/
theorem toDays_date (a : Instant) :
    a.date.toDays * secondsPerDay + a.timeOfDay.toNat = a.second := by
  rw [date, Date.toDays_ofDays, timeOfDay]
  simp only [secondsPerDay]
  omega

/-- If a leap second stands at the end of a minute, every instant that a clock can show is read back
from its text. -/
theorem readsBack (valid : a.IsValid) (leap : a.LeapsAtMinuteEnd) : a.ReadsBack := by
  have validDate := isValid_date valid.representable
  have dateRead := Read.date_text validDate (a.clockText ++ ['Z'])
  have timeRead := time_clockText valid.nano leap
  have placed :
      (⟨a.date.toDays * secondsPerDay + a.timeOfDay.toNat - 0, a.nano⟩ : Instant) = a := by
    rw [toDays_date, Int.sub_zero]
  have made : ofLocal a.date a.timeOfDay.toNat a.nano 0 = .ok a := by
    have noOffset : ¬ ((0 : Int) ≤ -secondsPerDay ∨ (secondsPerDay : Int) ≤ 0) := by decide
    rw [ofLocal, validDate, placed, if_neg (by decide), if_neg noOffset]
    exact if_pos valid.representable
  have divided (rest : List Char) : Read.divider ('T' :: rest) = .ok rest := rfl
  have zoned : Read.zone (Text.dropBlanks ['Z']) = .ok (0, []) := rfl
  rw [ReadsBack, read, text, String.toList_ofList, List.append_assoc, List.cons_append]
  simp only [dateRead, bind, Except.bind, divided, timeRead, zoned]
  exact made

/-- A representable instant on a whole second is read back. -/
theorem readsBack_of_whole (representable : a.isRepresentable = true) (whole : a.nano = 0) :
    a.ReadsBack := by
  apply readsBack ⟨representable, by rw [whole]; decide⟩
  intro leap
  rw [whole] at leap
  exact absurd leap (by decide)

end Instant

end FleetRoster.Calendar
