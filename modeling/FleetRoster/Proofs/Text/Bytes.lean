import FleetRoster.Text.Utf8

/-!
# Texts as bytes and back

A text that is written in bytes is read from them without a gap, so no two texts have the same bytes.
Each character begins with a byte that says how many follow, and none of these can be taken for the
beginning of another character.
-/

namespace FleetRoster.Text

variable {c : Char}

theorem continuation?_ofNat (k : Nat) :
    continuation? (UInt8.ofNat (0x80 + k % 64)) = some (k % 64) := by
  have value : (UInt8.ofNat (0x80 + k % 64)).toNat = 0x80 + k % 64 :=
    UInt8.toNat_ofNat_of_lt' (by change _ < 256; omega)
  rw [continuation?, value, if_pos (by simp; omega), Nat.add_sub_cancel_left]

/-- A character is that of its code point, if no shorter sequence of bytes could have held it. -/
theorem charFrom?_toNat {least : Nat} (long : least ≤ c.toNat) :
    charFrom? least c.toNat = some c := by
  have valid : c.toNat.isValidChar := c.valid
  rw [charFrom?, if_neg (Nat.not_lt.mpr long), dif_pos valid, Option.some.injEq]
  have same := Char.ofNat_toNat c
  rwa [Char.ofNat, dif_pos valid] at same

theorem toNat_lt (c : Char) : c.toNat < 0x110000 := by
  rcases c.valid with low | ⟨_, high⟩
  · exact Nat.lt_trans low (by decide)
  · exact high

/-! ## Characters of two, three and four bytes -/

section

variable {first second third fourth : UInt8} {x y z : Nat} (rest : List UInt8)

theorem nextChar?_two (lead : 0xC0 ≤ first.toNat ∧ first.toNat < 0xE0)
    (next : continuation? second = some x)
    (char : charFrom? 0x80 ((first.toNat - 0xC0) * 64 + x) = some c) :
    nextChar? (first :: second :: rest) = some (c, rest) := by
  have notOne : ¬ first.toNat < 0x80 := by omega
  have notMore : ¬ first.toNat < 0xC0 := by omega
  simp [nextChar?, notOne, notMore, lead.2, next, char]

theorem nextChar?_three (lead : 0xE0 ≤ first.toNat ∧ first.toNat < 0xF0)
    (next : continuation? second = some x) (next' : continuation? third = some y)
    (char : charFrom? 0x800 ((first.toNat - 0xE0) * 4096 + x * 64 + y) = some c) :
    nextChar? (first :: second :: third :: rest) = some (c, rest) := by
  have notOne : ¬ first.toNat < 0x80 := by omega
  have notMore : ¬ first.toNat < 0xC0 := by omega
  have notTwo : ¬ first.toNat < 0xE0 := by omega
  simp [nextChar?, notOne, notMore, notTwo, lead.2, next, next', char]

theorem nextChar?_four (lead : 0xF0 ≤ first.toNat ∧ first.toNat < 0xF8)
    (next : continuation? second = some x) (next' : continuation? third = some y)
    (next'' : continuation? fourth = some z)
    (char : charFrom? 0x10000 ((first.toNat - 0xF0) * 262144 + x * 4096 + y * 64 + z) = some c) :
    nextChar? (first :: second :: third :: fourth :: rest) = some (c, rest) := by
  have notOne : ¬ first.toNat < 0x80 := by omega
  have notMore : ¬ first.toNat < 0xC0 := by omega
  have notTwo : ¬ first.toNat < 0xE0 := by omega
  have notThree : ¬ first.toNat < 0xF0 := by omega
  rw [nextChar?, if_neg notOne, if_neg notMore, if_neg notTwo, if_neg notThree, if_pos lead.2]
  -- step by step: unfolding `charFrom?` would count up to the factor
  simp only [Option.bind_eq_bind]
  rw [next, Option.bind_some, next', Option.bind_some, next'', Option.bind_some, char,
    Option.bind_some]
  rfl

end

/-! ## Whole texts -/

/-- A character is read from its bytes, whatever follows them. -/
theorem nextChar?_charBytes (c : Char) (rest : List UInt8) :
    nextChar? (charBytes c ++ rest) = some (c, rest) := by
  have bounded := toNat_lt c
  have byte {n : Nat} (small : n < 256) : (UInt8.ofNat n).toNat = n :=
    UInt8.toNat_ofNat_of_lt' small
  rw [charBytes]
  split
  next one =>
    have lead := byte (n := c.toNat) (by omega)
    simp [nextChar?, lead, one, charFrom?_toNat (Nat.zero_le _)]
  split
  next one two =>
    have lead := byte (n := 0xC0 + c.toNat / 64) (by omega)
    simp only [List.cons_append, List.nil_append]
    refine nextChar?_two rest (by omega) (continuation?_ofNat _) ?_
    have whole : (0xC0 + c.toNat / 64 - 0xC0) * 64 + c.toNat % 64 = c.toNat := by omega
    rw [lead, whole]
    exact charFrom?_toNat (Nat.not_lt.mp one)
  split
  next one two three =>
    have lead := byte (n := 0xE0 + c.toNat / 4096) (by omega)
    simp only [List.cons_append, List.nil_append]
    refine nextChar?_three rest (by omega) (continuation?_ofNat _) (continuation?_ofNat _) ?_
    have whole : (0xE0 + c.toNat / 4096 - 0xE0) * 4096 + c.toNat / 64 % 64 * 64 + c.toNat % 64 =
        c.toNat := by omega
    rw [lead, whole]
    exact charFrom?_toNat (Nat.not_lt.mp two)
  next one two three =>
    have lead := byte (n := 0xF0 + c.toNat / 262144) (by omega)
    simp only [List.cons_append, List.nil_append]
    refine nextChar?_four rest (by omega) (continuation?_ofNat _) (continuation?_ofNat _)
      (continuation?_ofNat _) ?_
    have whole : (0xF0 + c.toNat / 262144 - 0xF0) * 262144 + c.toNat / 4096 % 64 * 4096 +
        c.toNat / 64 % 64 * 64 + c.toNat % 64 = c.toNat := by omega
    rw [lead, whole]
    exact charFrom?_toNat (Nat.not_lt.mp three)

theorem charBytes_ne_nil (c : Char) : charBytes c ≠ [] := by
  rw [charBytes]
  repeat' split
  all_goals exact List.cons_ne_nil _ _

/-- Every character takes a step, and there are as many steps as bytes. -/
theorem decodeBytesWithin_flatMap (fuel : Nat) (cs : List Char)
    (enough : (cs.flatMap charBytes).length ≤ fuel) :
    decodeBytesWithin fuel (cs.flatMap charBytes) = cs.map some := by
  induction cs generalizing fuel with
  | nil => cases fuel <;> rfl
  | cons c cs ih =>
    obtain ⟨b, more, spelled⟩ := List.exists_cons_of_ne_nil (charBytes_ne_nil c)
    have first := nextChar?_charBytes c (cs.flatMap charBytes)
    rw [List.flatMap_cons, List.length_append, spelled, List.length_cons] at enough
    rw [spelled, List.cons_append] at first
    cases fuel with
    | zero => omega
    | succ fuel =>
      rw [List.flatMap_cons, spelled, List.cons_append, decodeBytesWithin, first, List.map_cons,
        ← ih fuel (by omega)]

/-- A text is read from its bytes. -/
theorem decodeBytes_encodeBytes (s : String) : decodeBytes (encodeBytes s) = payload s :=
  decodeBytesWithin_flatMap _ _ (Nat.le_refl _)

/-- No two texts have the same bytes. -/
theorem encodeBytes_injective {s t : String} (same : encodeBytes s = encodeBytes t) : s = t := by
  have payloads : payload s = payload t := by
    rw [← decodeBytes_encodeBytes, same, decodeBytes_encodeBytes]
  exact String.toList_inj.mp ((List.map_inj_right fun _ _ => Option.some.inj).mp payloads)

end FleetRoster.Text
