import Mathlib.Data.List.Basic
import Mathlib.Tactic.Ring
import FleetRoster.Package.Identifier
import FleetRoster.Package.Version
import FleetRoster.Text.Blank

/-!
# Numbers by their digits

Digits without leading zeros are compared by their length and then one by one. That is the order of
the numbers they stand for, however long they are: a number of `n` digits is below the power of ten
that the shortest longer one reaches.
-/

namespace FleetRoster.Package

theorem isDigit_iff {c : Char} : c.isDigit = true ↔ 48 ≤ c.toNat ∧ c.toNat ≤ 57 := by
  rw [Char.isDigit, Bool.and_eq_true, decide_eq_true_iff, decide_eq_true_iff, ge_iff_le,
    UInt32.le_iff_toNat_le, UInt32.le_iff_toNat_le]
  rfl

theorem isBlank_of_isDigit {c : Char} (digit : c.isDigit = true) : Text.isBlank c = false := by
  obtain ⟨low, high⟩ := isDigit_iff.mp digit
  exact Text.isBlank_of_visible (by omega) (by omega)

theorem compare_eq_compare_toNat (c d : Char) : compare c d = compare c.toNat d.toNat := by
  simp only [compare, compareOfLessAndEq, Char.lt_def, UInt32.lt_iff_toNat_lt, ← Char.toNat_inj]
  rfl

/-! ## The number of a run of digits -/

variable {ds es : List Char}

theorem foldl_digits (n : Nat) (ds : List Char) :
    ds.foldl (fun n d => n * 10 + (d.toNat - 48)) n = n * 10 ^ ds.length + digitsValue ds := by
  induction ds generalizing n with
  | nil => simp [digitsValue]
  | cons d ds ih =>
    have leading : digitsValue (d :: ds) =
        (0 * 10 + (d.toNat - 48)) * 10 ^ ds.length + digitsValue ds := ih _
    rw [List.foldl_cons, ih, leading, List.length_cons]
    ring

theorem digitsValue_cons (d : Char) (ds : List Char) :
    digitsValue (d :: ds) = (d.toNat - 48) * 10 ^ ds.length + digitsValue ds := by
  rw [digitsValue, List.foldl_cons, foldl_digits, Nat.zero_mul, Nat.zero_add]

theorem digitsValue_lt (digits : ∀ d ∈ ds, d.isDigit) : digitsValue ds < 10 ^ ds.length := by
  induction ds with
  | nil => simp [digitsValue]
  | cons d ds ih =>
    have first := isDigit_iff.mp (digits d (by simp))
    have rest := ih fun x mem => digits x (by simp [mem])
    have atMost : (d.toNat - 48) * 10 ^ ds.length ≤ 9 * 10 ^ ds.length :=
      Nat.mul_le_mul_right _ (by omega)
    rw [digitsValue_cons, List.length_cons, Nat.pow_succ]
    omega

/-- More digits never make a number smaller. -/
theorem le_ofDigitChars (ds : List Char) (n : Nat) : n ≤ Nat.ofDigitChars 10 ds n := by
  rw [Nat.ofDigitChars_eq_ofDigitChars_zero]
  exact Nat.le_add_right_of_le (Nat.le_mul_of_pos_left n (Nat.pow_pos (by decide)))

/-! ## Leading zeros -/

theorem digitsValue_trimZeros (ds : List Char) :
    digitsValue (Version.trimZeros ds) = digitsValue ds := by
  induction ds with
  | nil => rfl
  | cons d ds ih =>
    rw [Version.trimZeros, List.dropWhile_cons]
    split
    next zero =>
      rw [beq_iff_eq] at zero
      subst zero
      rw [digitsValue_cons]
      simpa [Version.trimZeros] using ih
    next => rfl

/-- A number without leading zeros reaches the power of ten of its length. -/
theorem le_digitsValue {d : Char} (digit : d.isDigit) (leads : d ≠ '0') (ds : List Char) :
    10 ^ ds.length ≤ digitsValue (d :: ds) := by
  have atLeast := isDigit_iff.mp digit
  have notZero : d.toNat ≠ 48 := fun same => leads (Char.toNat_inj.mp same)
  have once : 1 * 10 ^ ds.length ≤ (d.toNat - 48) * 10 ^ ds.length :=
    Nat.mul_le_mul_right _ (by omega)
  rw [digitsValue_cons]
  omega

/-! ## Comparing -/

/-- Of two numbers of different lengths without leading zeros the longer one is greater. -/
theorem digitsValue_lt_of_length (digits : ∀ d ∈ ds, d.isDigit) (moreDigits : ∀ e ∈ es, e.isDigit)
    (leads : ∀ e ∈ es.head?, e ≠ '0') (shorter : ds.length < es.length) :
    digitsValue ds < digitsValue es := by
  cases es with
  | nil => simp at shorter
  | cons e es =>
    have reached := le_digitsValue (moreDigits e (by simp)) (leads e rfl) es
    have step : 10 ^ ds.length ≤ 10 ^ es.length :=
      Nat.pow_le_pow_right (by omega) (by simpa [Nat.lt_succ_iff] using shorter)
    have below := digitsValue_lt digits
    omega

/-- Where the remainders are below the factor, the quotients decide first. -/
theorem compare_mul_add {m n x y factor : Nat} (below : x < factor) (moreBelow : y < factor) :
    compare (m * factor + x) (n * factor + y) = (compare m n).then (compare x y) := by
  rcases Nat.lt_trichotomy m n with less | equal | greater
  · have gap : (m + 1) * factor ≤ n * factor := Nat.mul_le_mul_right _ less
    have sum : m * factor + x < n * factor + y := by
      rw [Nat.add_mul] at gap
      omega
    rw [Nat.compare_eq_lt.mpr less, Nat.compare_eq_lt.mpr sum]
    rfl
  · rw [equal, Nat.compare_eq_eq.mpr rfl]
    simp [Nat.compare_eq_ite_lt]
  · have gap : (n + 1) * factor ≤ m * factor := Nat.mul_le_mul_right _ greater
    have sum : n * factor + y < m * factor + x := by
      rw [Nat.add_mul] at gap
      omega
    rw [Nat.compare_eq_gt.mpr greater, Nat.compare_eq_gt.mpr sum]
    rfl

theorem compare_digit {d e : Char} (digit : d.isDigit) (other : e.isDigit) :
    compare d e = compare (d.toNat - 48) (e.toNat - 48) := by
  have := isDigit_iff.mp digit
  have := isDigit_iff.mp other
  rw [compare_eq_compare_toNat, Nat.compare_eq_ite_lt, Nat.compare_eq_ite_lt]
  grind

/-- Numbers of one length differ as their first different digits do. -/
theorem compare_digits (digits : ∀ d ∈ ds, d.isDigit) (moreDigits : ∀ e ∈ es, e.isDigit)
    (same : ds.length = es.length) : compare ds es = compare (digitsValue ds) (digitsValue es) := by
  induction ds generalizing es with
  | nil =>
    cases es with
    | nil => rfl
    | cons e es => simp at same
  | cons d ds ih =>
    cases es with
    | nil => simp at same
    | cons e es =>
      rw [List.length_cons, List.length_cons, Nat.add_right_cancel_iff] at same
      rw [List.forall_mem_cons] at digits moreDigits
      have below := digitsValue_lt digits.2
      rw [same] at below
      rw [List.compare_cons_cons, ih digits.2 moreDigits.2 same, digitsValue_cons, digitsValue_cons,
        same, compare_mul_add below (digitsValue_lt moreDigits.2),
        compare_digit digits.1 moreDigits.1]

theorem mem_trimZeros {d : Char} (mem : d ∈ Version.trimZeros ds) : d ∈ ds :=
  (List.dropWhile_suffix _).subset mem

theorem head_trimZeros : ∀ d ∈ (Version.trimZeros ds).head?, d ≠ '0' := by
  intro d first
  have stopped := List.head?_dropWhile_not (· == '0') ds
  rw [Version.trimZeros, Option.mem_def] at first
  rw [first] at stopped
  simpa using stopped

/-- Digits are compared as the numbers they stand for. -/
theorem compareDigits_eq (digits : ∀ d ∈ ds, d.isDigit) (moreDigits : ∀ e ∈ es, e.isDigit) :
    Version.compareDigits ds es = compare (digitsValue ds) (digitsValue es) := by
  have trimmed : ∀ d ∈ Version.trimZeros ds, d.isDigit := fun d mem => digits d (mem_trimZeros mem)
  have moreTrimmed : ∀ e ∈ Version.trimZeros es, e.isDigit :=
    fun e mem => moreDigits e (mem_trimZeros mem)
  rw [Version.compareDigits, ← digitsValue_trimZeros ds, ← digitsValue_trimZeros es]
  rcases Nat.lt_trichotomy (Version.trimZeros ds).length (Version.trimZeros es).length with
    shorter | same | longer
  · have less := digitsValue_lt_of_length trimmed moreTrimmed head_trimZeros shorter
    rw [Nat.compare_eq_lt.mpr shorter, Nat.compare_eq_lt.mpr less]
    rfl
  · rw [Nat.compare_eq_eq.mpr same, compare_digits trimmed moreTrimmed same]
    rfl
  · have greater := digitsValue_lt_of_length moreTrimmed trimmed head_trimZeros longer
    rw [Nat.compare_eq_gt.mpr longer, Nat.compare_eq_gt.mpr greater]
    rfl

end FleetRoster.Package
