import FleetRoster.Proofs.Package.Grammar
import FleetRoster.Settings
import Mathlib.Data.List.Forall2

/-!
# Texts of values

A variable of the settings holds a number, a truth value or a log level. What each of these is
written like is said here without the readers; a reader takes a text exactly if it is written so,
with blanks around it or without.
-/

namespace FleetRoster.Settings

open Text (IsSetOff)

/-! ## Kinds of values -/

/-- What variables hold. -/
inductive Kind
  /-- A number of sixty-four bits. -/
  | word
  /-- A number of thirty-two bits. -/
  | halfWord
  | boolean
  | level
  deriving DecidableEq, Repr

namespace Kind

/-- The values of a kind. -/
def Value : Kind → Type
  | word => Nat
  | halfWord => Nat
  | boolean => Bool
  | level => LogLevel

/-- How a value is read. -/
def read : (kind : Kind) → String → Except ValueError kind.Value
  | word => readWord
  | halfWord => readHalfWord
  | boolean => readBoolean
  | level => readLevel

end Kind

/-- A number below a limit is written in digits, with a plus sign before them or not. -/
structure IsNatural (limit : Nat) (text : String) (n : Nat) : Prop where
  digits : ∃ digits, (text = digits ∨ text = "+" ++ digits) ∧ Package.IsNumeral digits ∧
    Package.numeral digits = n
  below : n < limit

/-- A truth value is written in small letters. -/
def IsBoolean (text : String) (b : Bool) : Prop :=
  text = if b then "true" else "false"

/-- A level is written by its name, each letter of it large or small. -/
def IsLevel (text : String) (level : LogLevel) : Prop :=
  List.Forall₂ (fun c letter => c = letter ∨ c = letter.toLower) text.toList level.text.toList

/-- A text is what a value is written like. -/
def Kind.Spells : (kind : Kind) → String → kind.Value → Prop
  | word => IsNatural (Nat.pow 2 64)
  | halfWord => IsNatural (Nat.pow 2 32)
  | boolean => IsBoolean
  | level => IsLevel

/-- A text is what a value is written like, but for blanks around it. -/
def Kind.Says (kind : Kind) (text : String) (x : kind.Value) : Prop :=
  ∃ inner, IsSetOff inner text ∧ kind.Spells inner x

/-! ## Numbers -/

theorem digitsBelow_eq_ok_iff {limit n m : Nat} {cs : List Char} (below : n < limit) :
    digitsBelow limit n cs = .ok m ↔
      (∀ c ∈ cs, c.isDigit = true) ∧
        cs.foldl (fun n c => n * 10 + (c.toNat - 48)) n = m ∧ m < limit := by
  induction cs generalizing n with
  | nil =>
      simp only [digitsBelow, Except.ok.injEq, List.not_mem_nil, false_imp_iff, implies_true,
        List.foldl_nil, true_and]
      exact ⟨fun same => ⟨same, same ▸ below⟩, And.left⟩
  | cons c cs ih =>
      rw [digitsBelow, List.forall_mem_cons, List.foldl_cons]
      by_cases digit : c.isDigit = true
      · by_cases small : n * 10 + (c.toNat - 48) < limit
        · simp [digit, small, ih small]
        · -- What follows cannot make the number smaller again.
          have grows := Package.foldl_digits (n * 10 + (c.toNat - 48)) cs
          have atLeast := Nat.le_mul_of_pos_right (n * 10 + (c.toNat - 48))
            (Nat.pow_pos (n := cs.length) (show 0 < 10 by decide))
          simp only [digit, small, Bool.not_true, Bool.false_eq_true, if_false, true_and,
            reduceCtorEq, false_iff]
          rintro ⟨-, rfl, fits⟩
          omega
      · simp [digit]

/-- What is read of digits, if there are any. -/
theorem digitsBelow_toList {limit n : Nat} {digits : String} (positive : 0 < limit)
    (some : digits ≠ "") :
    digitsBelow limit 0 digits.toList = .ok n ↔
      Package.IsNumeral digits ∧ Package.numeral digits = n ∧ n < limit := by
  have nonempty : digits.toList ≠ [] := mt String.toList_eq_nil_iff.mp some
  rw [digitsBelow_eq_ok_iff positive, ← Package.digitsValue_toList, Package.isNumeral_iff,
    and_iff_right nonempty]
  rfl

section

variable {limit n : Nat} {text : String}

/-- Behind a plus sign there are the digits. -/
theorem isNatural_iff_of_plus {rest : List Char} (spelled : text.toList = '+' :: rest) :
    IsNatural limit text n ↔ Package.IsNumeral (.ofList rest) ∧
      Package.numeral (.ofList rest) = n ∧ n < limit := by
  have whole : text = "+" ++ String.ofList rest := by
    simp [← String.toList_inj, spelled]
  constructor
  · rintro ⟨⟨digits, rfl | same, isNumeral, value⟩, below⟩
    · have isDigit := (Package.isNumeral_iff.mp isNumeral).2 '+' (by simp [spelled])
      contradiction
    · obtain rfl : String.ofList rest = digits :=
        (String.append_right_inj _).mp (whole.symm.trans same)
      exact ⟨isNumeral, value, below⟩
  · rintro ⟨isNumeral, value, below⟩
    exact ⟨⟨_, .inr whole, isNumeral, value⟩, below⟩

/-- Where no plus sign comes first, the text is the digits. -/
theorem isNatural_iff_of_plain (plain : ∀ rest, text.toList ≠ '+' :: rest) :
    IsNatural limit text n ↔ Package.IsNumeral text ∧ Package.numeral text = n ∧ n < limit := by
  constructor
  · rintro ⟨⟨digits, rfl | rfl, isNumeral, value⟩, below⟩
    · exact ⟨isNumeral, value, below⟩
    · exact absurd (String.toList_append ..) (plain _)
  · rintro ⟨isNumeral, value, below⟩
    exact ⟨⟨_, .inl rfl, isNumeral, value⟩, below⟩

theorem readNatural_eq_ok_iff (positive : 0 < limit) :
    readNatural limit text = .ok n ↔ IsNatural limit text n := by
  have noNumeral : ¬ Package.IsNumeral "" := fun isNumeral => isNumeral.1 rfl
  unfold readNatural
  split
  next nothing =>
    obtain rfl : text = "" := String.toList_eq_nil_iff.mp nothing
    simp [isNatural_iff_of_plain, noNumeral]
  next alone =>
    rw [isNatural_iff_of_plus alone]
    simp [noNumeral]
  next rest notAlone spelled =>
    have nonempty : String.ofList rest ≠ "" := fun same => notAlone (by simpa using same)
    rw [isNatural_iff_of_plus spelled, ← digitsBelow_toList positive nonempty, String.toList_ofList]
  next cs some _ noPlus =>
    have nonempty : text ≠ "" := by
      rintro rfl
      exact some rfl
    rw [isNatural_iff_of_plain noPlus, ← digitsBelow_toList positive nonempty]

end

/-! ## Levels -/

theorem toNat_toUpper (c : Char) :
    c.toUpper.toNat = if 97 ≤ c.toNat ∧ c.toNat ≤ 122 then c.toNat - 32 else c.toNat := by
  have isSmall : ('a'.val ≤ c.val ∧ c.val ≤ 'z'.val) ↔ 97 ≤ c.toNat ∧ c.toNat ≤ 122 := by
    rw [UInt32.le_iff_toNat_le, UInt32.le_iff_toNat_le]
    rfl
  unfold Char.toUpper
  split
  next small =>
    have small := isSmall.mp small
    have moved : (c.val + ('A'.val - 'a'.val)).toNat = (c.toNat + (2 ^ 32 - 32)) % 2 ^ 32 :=
      UInt32.toNat_add ..
    rw [if_pos small]
    change (c.val + ('A'.val - 'a'.val)).toNat = _
    omega
  next notSmall => rw [if_neg (mt isSmall.mpr notSmall)]

theorem toNat_toLower {letter : Char} (first : 65 ≤ letter.toNat) (last : letter.toNat ≤ 90) :
    letter.toLower.toNat = letter.toNat + 32 := by
  have isCapital : letter.val ≥ 'A'.val ∧ letter.val ≤ 'Z'.val := by
    rw [ge_iff_le, UInt32.le_iff_toNat_le, UInt32.le_iff_toNat_le]
    exact ⟨first, last⟩
  have moved : (letter.val + ('a'.val - 'A'.val)).toNat = (letter.toNat + 32) % 2 ^ 32 :=
    UInt32.toNat_add ..
  have lowered : letter.toLower.toNat = (letter.val + ('a'.val - 'A'.val)).toNat :=
    congrArg Char.toNat (dif_pos isCapital)
  omega

/-- A letter becomes a capital one if it is that, or its small form. -/
theorem toUpper_eq_iff {c letter : Char} (capital : 65 ≤ letter.toNat ∧ letter.toNat ≤ 90) :
    c.toUpper = letter ↔ c = letter ∨ c = letter.toLower := by
  rw [← Char.toNat_inj, ← Char.toNat_inj, ← Char.toNat_inj, toNat_toUpper,
    toNat_toLower capital.1 capital.2]
  split <;> omega

theorem map_toUpper_eq_iff {cs letters : List Char}
    (capitals : ∀ letter ∈ letters, 65 ≤ letter.toNat ∧ letter.toNat ≤ 90) :
    cs.map Char.toUpper = letters ↔
      List.Forall₂ (fun c letter => c = letter ∨ c = letter.toLower) cs letters := by
  induction letters generalizing cs with
  | nil => simp
  | cons letter letters ih =>
      rw [List.forall_mem_cons] at capitals
      cases cs with
      | nil => simp
      | cons c cs => simp [toUpper_eq_iff capitals.1, ih capitals.2]

theorem capital_of_mem_text (level : LogLevel) :
    ∀ letter ∈ level.text.toList, 65 ≤ letter.toNat ∧ letter.toNat ≤ 90 := by
  have all : level.text.toList.all fun letter => 65 ≤ letter.toNat ∧ letter.toNat ≤ 90 := by
    cases level <;> decide
  simpa using all

theorem text_injective {one other : LogLevel} (same : one.text = other.text) : one = other := by
  cases one <;> cases other <;> first | rfl | contradiction

theorem read?_eq_some_iff {text : String} {level : LogLevel} :
    LogLevel.read? text = some level ↔ IsLevel text level := by
  rw [IsLevel, ← map_toUpper_eq_iff (capital_of_mem_text level), LogLevel.read?]
  have found {other : LogLevel} (isFound : LogLevel.all.find?
      (fun level => level.text.toList == text.toList.map Char.toUpper) = some other) :
      text.toList.map Char.toUpper = other.text.toList := by
    have same := List.find?_some isFound
    exact (beq_iff_eq.mp same).symm
  constructor
  · exact found
  · intro same
    cases first : LogLevel.all.find?
        fun level => level.text.toList == text.toList.map Char.toUpper with
    | none =>
        have all : level ∈ LogLevel.all := by cases level <;> decide
        exact absurd (beq_iff_eq.mpr same.symm) (List.find?_eq_none.mp first level all)
    | some other =>
        rw [text_injective (String.toList_inj.mp (same.symm.trans (found first)))]

theorem readLevel_eq_ok_iff {text : String} {level : LogLevel} :
    readLevel text = .ok level ↔ IsLevel text level := by
  rw [← read?_eq_some_iff, readLevel]
  cases LogLevel.read? text <;> simp

/-! ## Texts with blanks around them -/

theorem readBoolean_eq_ok_iff {text : String} {b : Bool} :
    readBoolean text = .ok b ↔ IsBoolean text b := by
  rw [readBoolean, IsBoolean]
  by_cases yes : text = "true"
  · subst yes
    cases b <;> simp
  · by_cases no : text = "false"
    · subst no
      cases b <;> simp
    · cases b <;> simp [yes, no]

namespace Kind

variable {kind : Kind} {text : String} {x : kind.Value}

/-- A reader takes a text exactly for the value that is written like it. -/
theorem read_eq_ok_iff : kind.read text = .ok x ↔ kind.Spells text x := by
  cases kind with
  | word => exact readNatural_eq_ok_iff (by decide)
  | halfWord => exact readNatural_eq_ok_iff (by decide)
  | boolean => exact readBoolean_eq_ok_iff
  | level => exact readLevel_eq_ok_iff

end Kind

/-- A literal text can be looked through for blanks. -/
theorem isBlank_of_all {text : String} (all : text.toList.all (!Text.isBlank ·) = true) :
    ∀ c ∈ text.toList, Text.isBlank c = false := by
  simpa using all

theorem IsNatural.isBlank {limit n : Nat} {text : String} (isNatural : IsNatural limit text n) :
    ∀ c ∈ text.toList, Text.isBlank c = false := by
  obtain ⟨digits, written, isNumeral, -⟩ := isNatural.digits
  have visible : ∀ c ∈ digits.toList, Text.isBlank c = false := by
    intro c mem
    exact Package.isBlank_of_isDigit ((Package.isNumeral_iff.mp isNumeral).2 c mem)
  rcases written with rfl | rfl
  · exact visible
  · rw [String.toList_append, List.forall_mem_append]
    exact ⟨isBlank_of_all (by decide), visible⟩

theorem IsBoolean.isBlank {text : String} {b : Bool} (isBoolean : IsBoolean text b) :
    ∀ c ∈ text.toList, Text.isBlank c = false := by
  subst isBoolean
  apply isBlank_of_all
  cases b <;> decide

theorem isBlank_of_forall₂ {cs letters : List Char}
    (capitals : ∀ letter ∈ letters, 65 ≤ letter.toNat ∧ letter.toNat ≤ 90)
    (spelled : List.Forall₂ (fun c letter => c = letter ∨ c = letter.toLower) cs letters) :
    ∀ c ∈ cs, Text.isBlank c = false := by
  induction spelled with
  | nil => nofun
  | @cons c letter cs letters same rest ih =>
      rw [List.forall_mem_cons] at capitals ⊢
      obtain ⟨first, last⟩ := capitals.1
      refine ⟨?_, ih capitals.2⟩
      rcases same with rfl | rfl
      · exact Text.isBlank_of_visible (by omega) (by omega)
      · have small := toNat_toLower first last
        exact Text.isBlank_of_visible (by omega) (by omega)

namespace Kind

variable {kind : Kind} {text : String} {x : kind.Value}

theorem Spells.isBlank (spells : kind.Spells text x) :
    ∀ c ∈ text.toList, Text.isBlank c = false := by
  cases kind with
  | word => exact IsNatural.isBlank spells
  | halfWord => exact IsNatural.isBlank spells
  | boolean => exact IsBoolean.isBlank spells
  | level => exact isBlank_of_forall₂ (capital_of_mem_text x) spells

/-- What is read without the blanks around it is what the text says. -/
theorem read_trim_eq_ok_iff : kind.read (Text.trim text) = .ok x ↔ kind.Says text x := by
  constructor
  · intro read
    exact ⟨_, Text.isSetOff_trim text, read_eq_ok_iff.mp read⟩
  · rintro ⟨inner, setOff, spells⟩
    rw [(Text.trim_eq_iff spells.isBlank).mpr setOff]
    exact read_eq_ok_iff.mpr spells

end Kind

end FleetRoster.Settings
