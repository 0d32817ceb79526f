import FleetRoster.Proofs.Package.Digits
import FleetRoster.Proofs.Package.Tokens

/-!
# The bytes of a version

A version is compared by its characters, and its tokens are read from its bytes. What counts in it is
ASCII, where a character is one byte, and a character outside ASCII has no byte of ASCII. So whatever
is said of numbers in ASCII is true of a character if and only if it is true of each of its bytes, and
a run of characters is a run of bytes.
-/

namespace FleetRoster.Package.Version

/-! ## Characters and bytes -/

/-- The bytes of a sequence of characters. -/
def bytes (cs : List Char) : List UInt8 :=
  cs.flatMap String.utf8EncodeChar

theorem bytes_cons (c : Char) (cs : List Char) :
    bytes (c :: cs) = String.utf8EncodeChar c ++ bytes cs :=
  List.flatMap_cons

theorem bytes_toList (text : String) : text.toUTF8.data.toList = bytes text.toList := by
  have encoded : text.toUTF8 = text.toList.utf8Encode := String.utf8Encode_toList.symm
  rw [encoded, List.utf8Encode, List.data_toByteArray, bytes]

theorem utf8EncodeChar_of_ascii {c : Char} (ascii : c.toNat < 128) :
    String.utf8EncodeChar c = [UInt8.ofNat c.toNat] := by
  rw [String.utf8EncodeChar]
  exact if_pos (Nat.le_of_lt_succ ascii)

theorem le_toNat_ofNat {n offset : Nat} (high : 128 ≤ offset) (bounded : n + offset < 256) :
    128 ≤ (UInt8.ofNat (n + offset)).toNat := by
  rw [UInt8.toNat_ofNat']
  omega

/-- A character outside ASCII has no byte of ASCII. -/
theorem le_of_mem_utf8EncodeChar {c : Char} (beyond : 128 ≤ c.toNat) :
    ∀ b ∈ String.utf8EncodeChar c, 128 ≤ b.toNat := by
  rw [String.utf8EncodeChar, if_neg (c := c.val.toNat ≤ 127) (Nat.not_le_of_lt beyond)]
  split
  · rw [List.forall_mem_cons, List.forall_mem_singleton]
    constructor <;> apply le_toNat_ofNat <;> omega
  split
  · rw [List.forall_mem_cons, List.forall_mem_cons, List.forall_mem_singleton]
    refine ⟨?_, ?_, ?_⟩ <;> apply le_toNat_ofNat <;> omega
  · rw [List.forall_mem_cons, List.forall_mem_cons, List.forall_mem_cons,
      List.forall_mem_singleton]
    refine ⟨?_, ?_, ?_, ?_⟩ <;> apply le_toNat_ofNat <;> omega

/-- What is said of numbers in ASCII is true of every byte of a character or of none. -/
theorem toNat_iff_of_mem_utf8EncodeChar {p : Nat → Prop} (ascii : ∀ n, p n → n < 128) {c : Char}
    {b : UInt8} (mem : b ∈ String.utf8EncodeChar c) : p b.toNat ↔ p c.toNat := by
  by_cases low : c.toNat < 128
  · rw [utf8EncodeChar_of_ascii low, List.mem_singleton] at mem
    rw [mem, UInt8.toNat_ofNat_of_lt' (Nat.lt_of_lt_of_le low (by decide))]
  · have high := le_of_mem_utf8EncodeChar (by omega) b mem
    constructor
    · intro holds
      have := ascii _ holds
      omega
    · intro holds
      exact absurd (ascii _ holds) low

theorem isAlpha_iff {c : Char} : c.isAlpha = true ↔
    (65 ≤ c.toNat ∧ c.toNat ≤ 90) ∨ (97 ≤ c.toNat ∧ c.toNat ≤ 122) := by
  have upper : c.isUpper = true ↔ 65 ≤ c.toNat ∧ c.toNat ≤ 90 := decide_eq_true_iff
  have lower : c.isLower = true ↔ 97 ≤ c.toNat ∧ c.toNat ≤ 122 :=
    Bool.and_eq_true_iff.trans (and_congr decide_eq_true_iff decide_eq_true_iff)
  exact Bool.or_eq_true_iff.trans (or_congr upper lower)

section Classes

variable {c : Char} {b : UInt8} (mem : b ∈ String.utf8EncodeChar c)

include mem

theorem isDigitByte_eq : isDigitByte b = c.isDigit := by
  have same := toNat_iff_of_mem_utf8EncodeChar (p := fun n => 48 ≤ n ∧ n ≤ 57) (by omega) mem
  rw [Bool.eq_iff_iff, isDigit_iff, ← same]
  simp [isDigitByte]

theorem isLetterByte_eq : isLetterByte b = c.isAlpha := by
  have same := toNat_iff_of_mem_utf8EncodeChar
    (p := fun n => (65 ≤ n ∧ n ≤ 90) ∨ (97 ≤ n ∧ n ≤ 122)) (by omega) mem
  rw [Bool.eq_iff_iff, isAlpha_iff, ← same]
  simp [isLetterByte]

theorem eq_tilde_iff : b = 126 ↔ c = '~' := by
  have same := toNat_iff_of_mem_utf8EncodeChar (p := (· = 126)) (by omega) mem
  rw [← UInt8.toNat_inj, ← Char.toNat_inj]
  exact same

theorem eq_caret_iff : b = 94 ↔ c = '^' := by
  have same := toNat_iff_of_mem_utf8EncodeChar (p := (· = 94)) (by omega) mem
  rw [← UInt8.toNat_inj, ← Char.toNat_inj]
  exact same

end Classes

section Runs

variable {p : UInt8 → Bool} {q : Char → Bool}
  (same : ∀ {c b}, b ∈ String.utf8EncodeChar c → p b = q c)

include same

theorem takeWhile_bytes (cs : List Char) :
    (bytes cs).takeWhile p = bytes (cs.takeWhile q) := by
  induction cs with
  | nil => rfl
  | cons c cs ih =>
    rw [bytes_cons, List.takeWhile_cons]
    split
    next belongs =>
      rw [List.takeWhile_append_of_pos fun b mem => (same mem).trans belongs, ih, bytes_cons]
    next stops =>
      obtain ⟨b, rest, encoded⟩ := List.exists_cons_of_ne_nil String.utf8EncodeChar_ne_nil
      have first : ¬ p b = true := by
        rw [same (encoded ▸ List.mem_cons_self)]
        exact stops
      rw [encoded, List.cons_append, List.takeWhile_cons_of_neg first]
      rfl

theorem dropWhile_bytes (cs : List Char) :
    (bytes cs).dropWhile p = bytes (cs.dropWhile q) := by
  apply List.append_cancel_left
  calc
    bytes (cs.takeWhile q) ++ (bytes cs).dropWhile p = bytes cs := by
      rw [← takeWhile_bytes same, List.takeWhile_append_dropWhile]
    _ = bytes (cs.takeWhile q) ++ bytes (cs.dropWhile q) := by
      rw [bytes, bytes, bytes, ← List.flatMap_append, List.takeWhile_append_dropWhile]

end Runs

end FleetRoster.Package.Version
