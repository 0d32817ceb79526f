import FleetRoster.Proofs.Text.Bytes
import FleetRoster.Text.Base64
import FleetRoster.Text.Blank

/-!
# The canonical form of bytes in base64

Each sequence of bytes has one form in either alphabet, and a text is decoded exactly if it is one of
these forms, into the bytes of which it is the form. A text that is a form in both alphabets is that
of the same bytes, so it does not matter which alphabet is tried first.
-/

namespace FleetRoster.Text.Base64

/-! ## Canonical forms -/

/-- So many characters, from one on. -/
def charsFrom (first : Char) (count : Nat) : List Char :=
  (List.range count).map fun k => Char.ofNat (first.toNat + k)

/-- The symbols that both alphabets have. -/
def sharedSymbols : List Char :=
  charsFrom 'A' 26 ++ charsFrom 'a' 26 ++ charsFrom '0' 10

/-- The symbols that only one alphabet has. -/
def Alphabet.ownSymbols : Alphabet → List Char
  | .standard => ['+', '/']
  | .urlSafe => ['-', '_']

/-- The symbols of an alphabet in the order of their values. -/
def Alphabet.symbols (alphabet : Alphabet) : List Char :=
  sharedSymbols ++ alphabet.ownSymbols

/-- The symbol of a value. -/
def Alphabet.symbol (alphabet : Alphabet) (v : Nat) : Char :=
  alphabet.symbols.getD v '='

/-- The bits of bytes, six by six; those that are missing at the end are zero. -/
def valuesOfBytes : List UInt8 → List Nat
  | a :: b :: c :: rest =>
    a.toNat / 4 :: (a.toNat % 4 * 16 + b.toNat / 16) :: (b.toNat % 16 * 4 + c.toNat / 64)
      :: c.toNat % 64 :: valuesOfBytes rest
  | [a, b] => [a.toNat / 4, a.toNat % 4 * 16 + b.toNat / 16, b.toNat % 16 * 4]
  | [a] => [a.toNat / 4, a.toNat % 4 * 16]
  | [] => []

/-- How much padding fills up so many symbols to a multiple of four. -/
def padding (count : Nat) : Nat :=
  (4 - count % 4) % 4

/-- Values in symbols, with so much padding. -/
def Alphabet.spell (alphabet : Alphabet) (values : List Nat) (pads : Nat) : List Char :=
  values.map alphabet.symbol ++ List.replicate pads '='

/-- The canonical form of bytes. -/
def encode (alphabet : Alphabet) (bytes : List UInt8) : String :=
  String.ofList (alphabet.spell (valuesOfBytes bytes) (padding (valuesOfBytes bytes).length))

variable {alphabet other : Alphabet} {values : List Nat} {v pads : Nat} {bytes : List UInt8}

/-! ## Symbols -/

/-- The byte of a symbol. -/
def Alphabet.byte (alphabet : Alphabet) (v : Nat) : UInt8 :=
  UInt8.ofNat (alphabet.symbol v).toNat

theorem value?_byte (small : v < 64) : alphabet.value? (alphabet.byte v) = some v := by
  have all : ∀ v < 64, alphabet.value? (alphabet.byte v) = some v := by
    cases alphabet <;> decide
  exact all v small

theorem value?_pad : alphabet.value? pad = none := by
  cases alphabet <;> rfl

/-- A byte that has a value is that of the symbol of the value. -/
theorem byte_of_value? {b : UInt8} (found : alphabet.value? b = some v) :
    v < 64 ∧ b = alphabet.byte v := by
  have all : ∀ n < 256, ∀ v ∈ alphabet.value? (UInt8.ofNat n),
      v < 64 ∧ UInt8.ofNat n = alphabet.byte v := by
    cases alphabet <;> decide +kernel
  have same : UInt8.ofNat b.toNat = b := UInt8.ofNat_toNat
  rw [← same] at found ⊢
  exact all b.toNat b.toNat_lt v found

theorem symbol_mem (small : v < 64) : alphabet.symbol v ∈ alphabet.symbols := by
  have all : ∀ v < 64, alphabet.symbol v ∈ alphabet.symbols := by
    cases alphabet <;> decide
  exact all v small

theorem charBytes_symbol (small : v < 64) : charBytes (alphabet.symbol v) = [alphabet.byte v] := by
  have all : ∀ v < 64, charBytes (alphabet.symbol v) = [alphabet.byte v] := by
    cases alphabet <;> decide
  exact all v small

theorem isBlank_symbol (small : v < 64) : isBlank (alphabet.symbol v) = false := by
  have all : ∀ v < 64, isBlank (alphabet.symbol v) = false := by
    cases alphabet <;> decide
  exact all v small

/-! ## Values and bytes -/

/-- Values that are all the bits of some bytes: the last one is not alone in its group of four, and
what it has besides is zero. -/
structure IsWhole (values : List Nat) : Prop where
  small : ∀ v ∈ values, v < 64
  length : values.length % 4 ≠ 1
  spare : spareBits values = 0

theorem length_group (a b c d : Nat) (rest : List Nat) :
    (a :: b :: c :: d :: rest).length % 4 = rest.length % 4 := by
  simp only [List.length_cons]
  omega

theorem spareBits_cons (a b c d : Nat) (rest : List Nat) :
    spareBits (a :: b :: c :: d :: rest) = spareBits rest := by
  unfold spareBits
  rw [length_group]
  cases rest with
  | nil => rfl
  | cons e rest => rfl

theorem isWhole_cons {a b c d : Nat} {rest : List Nat} :
    IsWhole (a :: b :: c :: d :: rest) ↔
      (a < 64 ∧ b < 64 ∧ c < 64 ∧ d < 64) ∧ IsWhole rest := by
  constructor
  · rintro ⟨small, long, spare⟩
    simp only [List.forall_mem_cons] at small
    rw [length_group] at long
    rw [spareBits_cons] at spare
    exact ⟨⟨small.1, small.2.1, small.2.2.1, small.2.2.2.1⟩, small.2.2.2.2, long, spare⟩
  · rintro ⟨⟨first, second, third, fourth⟩, small, long, spare⟩
    refine ⟨?_, length_group a b c d rest ▸ long, (spareBits_cons ..).trans spare⟩
    simp only [List.forall_mem_cons]
    exact ⟨first, second, third, fourth, small⟩

theorem isWhole_valuesOfBytes (bytes : List UInt8) : IsWhole (valuesOfBytes bytes) := by
  induction bytes using valuesOfBytes.induct with
  | case1 a b c rest ih =>
      have := a.toNat_lt
      have := b.toNat_lt
      have := c.toNat_lt
      exact isWhole_cons.mpr ⟨⟨by omega, by omega, by omega, by omega⟩, ih⟩
  | case2 a b =>
      have := a.toNat_lt
      have := b.toNat_lt
      refine ⟨?_, by simp [valuesOfBytes], ?_⟩
      · simp only [valuesOfBytes, List.forall_mem_cons]
        exact ⟨by omega, by omega, by omega, nofun⟩
      · change b.toNat % 16 * 4 % 4 = 0
        omega
  | case3 a =>
      have := a.toNat_lt
      refine ⟨?_, by simp [valuesOfBytes], ?_⟩
      · simp only [valuesOfBytes, List.forall_mem_cons]
        exact ⟨by omega, by omega, nofun⟩
      · change a.toNat % 4 * 16 % 16 = 0
        omega
  | case4 => exact ⟨nofun, by decide, rfl⟩

theorem ofNat_eq {n : Nat} {b : UInt8} (same : n = b.toNat) : UInt8.ofNat n = b := by
  rw [same, UInt8.ofNat_toNat]

/-- The bytes of the values of bytes. -/
theorem bytesOfValues_valuesOfBytes (bytes : List UInt8) :
    bytesOfValues (valuesOfBytes bytes) = bytes := by
  induction bytes using valuesOfBytes.induct with
  | case1 a b c rest ih =>
      have := b.toNat_lt
      have := c.toNat_lt
      rw [valuesOfBytes, bytesOfValues, ih, ofNat_eq (b := a) (by omega),
        ofNat_eq (b := b) (by omega), ofNat_eq (b := c) (by omega)]
  | case2 a b =>
      have := b.toNat_lt
      rw [valuesOfBytes, bytesOfValues, ofNat_eq (b := a) (by omega),
        ofNat_eq (b := b) (by omega)]
  | case3 a => rw [valuesOfBytes, bytesOfValues, ofNat_eq (b := a) (by omega)]
  | case4 => rfl

/-- The values of the bytes of whole values. -/
theorem valuesOfBytes_bytesOfValues (whole : IsWhole values) :
    valuesOfBytes (bytesOfValues values) = values := by
  have byte {n : Nat} (small : n < 256) : (UInt8.ofNat n).toNat = n :=
    UInt8.toNat_ofNat_of_lt' small
  induction values using bytesOfValues.induct with
  | case1 a b c d rest ih =>
      obtain ⟨⟨first, second, third, fourth⟩, whole⟩ := isWhole_cons.mp whole
      rw [bytesOfValues, valuesOfBytes, ih whole, byte (by omega), byte (by omega),
        byte (by omega)]
      simp only [List.cons.injEq, and_true]
      omega
  | case2 a b c =>
      obtain ⟨small, -, spare⟩ := whole
      simp only [List.forall_mem_cons] at small
      change c % 4 = 0 at spare
      rw [bytesOfValues, valuesOfBytes, byte (by omega), byte (by omega)]
      simp only [List.cons.injEq, and_true]
      omega
  | case3 a b =>
      obtain ⟨small, -, spare⟩ := whole
      simp only [List.forall_mem_cons] at small
      change b % 16 = 0 at spare
      rw [bytesOfValues, valuesOfBytes, byte (by omega)]
      simp only [List.cons.injEq, and_true]
      omega
  | case4 values noGroup noThree noTwo =>
      rcases values with _ | ⟨a, _ | ⟨b, _ | ⟨c, _ | ⟨d, rest⟩⟩⟩⟩
      · rfl
      · exact absurd rfl whole.length
      · exact (noTwo a b rfl).elim
      · exact (noThree a b c rfl).elim
      · exact (noGroup a b c d rest rfl).elim

/-! ## Decoding -/

/-- The values that are read, and what is left, are all there is. -/
theorem map_byte_span (alphabet : Alphabet) (text : List UInt8) :
    (alphabet.span text).1.map alphabet.byte ++ (alphabet.span text).2 = text ∧
      ∀ v ∈ (alphabet.span text).1, v < 64 := by
  induction text with
  | nil => exact ⟨rfl, nofun⟩
  | cons b rest ih =>
      rw [Alphabet.span]
      cases found : alphabet.value? b with
      | none => exact ⟨rfl, nofun⟩
      | some v =>
          obtain ⟨small, spelled⟩ := byte_of_value? found
          rw [List.forall_mem_cons, List.map_cons, List.cons_append, ih.1, ← spelled]
          exact ⟨rfl, small, ih.2⟩

/-- Values are read up to the first byte that has none. -/
theorem span_append (small : ∀ v ∈ values, v < 64) {tail : List UInt8}
    (ends : ∀ b ∈ tail.head?, alphabet.value? b = none) :
    alphabet.span (values.map alphabet.byte ++ tail) = (values, tail) := by
  induction values with
  | nil =>
      cases tail with
      | nil => rfl
      | cons b rest => rw [List.map_nil, List.nil_append, Alphabet.span, ends b rfl]
  | cons v values ih =>
      rw [List.forall_mem_cons] at small
      rw [List.map_cons, List.cons_append, Alphabet.span, value?_byte small.1, ih small.2]

theorem finish_eq_ok_iff {text : List UInt8} :
    decode.finish text values = .ok bytes ↔ spareBits values = 0 ∧ bytesOfValues values = bytes := by
  unfold decode.finish
  split
  next spare => simp [spare]
  next whole => simp [Decidable.not_not.mp whole]

/-- A text that is decoded is that of whole values, with their padding. -/
theorem exists_of_decode {text : List UInt8} (decoded : decode alphabet text = .ok bytes) :
    ∃ values, IsWhole values ∧ bytesOfValues values = bytes ∧
      text = values.map alphabet.byte ++ List.replicate (padding values.length) pad := by
  obtain ⟨spelled, small⟩ := map_byte_span alphabet text
  unfold decode at decoded
  split at decoded
  · split at decoded
    · split at decoded <;> contradiction
    · contradiction
  next long =>
  rw [← spelled] at long
  generalize alphabet.span text = read at decoded spelled small long
  obtain ⟨values, tail⟩ := read
  rw [List.length_append, List.length_map] at long
  dsimp only at decoded spelled small long
  cases tail with
  | nil =>
      dsimp only at decoded
      split at decoded
      · contradiction
      next whole =>
      obtain ⟨spare, result⟩ := finish_eq_ok_iff.mp decoded
      have none : padding values.length = 0 := by
        unfold padding
        omega
      refine ⟨values, ⟨small, by omega, spare⟩, result, ?_⟩
      rw [none]
      exact spelled.symm
  | cons b more =>
      dsimp only at decoded
      split at decoded
      next padded =>
        split at decoded
        · contradiction
        next whole =>
        obtain ⟨spare, result⟩ := finish_eq_ok_iff.mp decoded
        simp only [Bool.and_eq_true, decide_eq_true_eq, List.all_eq_true, beq_iff_eq] at padded
        obtain ⟨⟨⟨-, atLeast⟩, atMost⟩, pads⟩ := padded
        have count : (b :: more).length = padding values.length := by
          unfold padding
          omega
        refine ⟨values, ⟨small, by omega, spare⟩, result, ?_⟩
        rw [← count, ← List.eq_replicate_of_mem pads]
        exact spelled.symm
      next => contradiction

/-- The text of whole values with their padding is decoded into their bytes. -/
theorem decode_spelled (whole : IsWhole values) :
    decode alphabet (values.map alphabet.byte ++ List.replicate (padding values.length) pad) =
      .ok (bytesOfValues values) := by
  obtain ⟨small, long, spare⟩ := whole
  have finished {text : List UInt8} : decode.finish text values = .ok (bytesOfValues values) :=
    finish_eq_ok_iff.mpr ⟨spare, rfl⟩
  have filled : (values.length + padding values.length) % 4 = 0 := by
    unfold padding
    omega
  have read : alphabet.span
      (values.map alphabet.byte ++ List.replicate (padding values.length) pad) =
        (values, List.replicate (padding values.length) pad) := by
    refine span_append small fun b isFirst => ?_
    rw [List.eq_of_mem_replicate (List.mem_of_mem_head? isFirst), value?_pad]
  unfold decode
  rw [if_neg, read]
  · cases pads : padding values.length with
    | zero =>
        rw [pads] at filled
        exact (if_neg (Decidable.not_not.mpr filled)).trans finished
    | succ more =>
        have atLeast : 2 ≤ values.length % 4 := by
          unfold padding at pads
          omega
        have atMost : more + 1 ≤ 4 - values.length % 4 := by
          unfold padding at pads
          omega
        rw [pads] at filled
        dsimp only [List.replicate_succ]
        rw [if_pos, if_neg, finished]
        · simpa using filled
        · simp [atLeast, atMost]
  · rw [List.length_append, List.length_map, List.length_replicate]
    omega

/-! ## Texts -/

theorem encodeBytes_spell (small : ∀ v ∈ values, v < 64) :
    encodeBytes (String.ofList (alphabet.spell values pads)) =
      values.map alphabet.byte ++ List.replicate pads pad := by
  have symbols : (values.map alphabet.symbol).flatMap charBytes = values.map alphabet.byte := by
    induction values with
    | nil => rfl
    | cons v values ih =>
        rw [List.forall_mem_cons] at small
        rw [List.map_cons, List.flatMap_cons, charBytes_symbol small.1, ih small.2, List.map_cons,
          List.singleton_append]
  have padded : (List.replicate pads '=').flatMap charBytes = List.replicate pads pad := by
    induction pads with
    | zero => rfl
    | succ pads ih => rw [List.replicate_succ, List.flatMap_cons, ih]; rfl
  rw [encodeBytes, String.toList_ofList, Alphabet.spell, List.flatMap_append, symbols, padded]

/-- Bytes are decoded from their canonical form. -/
theorem decode_encode (alphabet : Alphabet) (bytes : List UInt8) :
    decode alphabet (encodeBytes (encode alphabet bytes)) = .ok bytes := by
  have whole := isWhole_valuesOfBytes bytes
  rw [encode, encodeBytes_spell whole.small, decode_spelled whole, bytesOfValues_valuesOfBytes]

/-- A text is decoded exactly if it is the canonical form of the bytes. -/
theorem decode_eq_ok_iff {s : String} :
    decode alphabet (encodeBytes s) = .ok bytes ↔ s = encode alphabet bytes := by
  constructor
  · intro decoded
    obtain ⟨values, whole, result, spelled⟩ := exists_of_decode decoded
    rw [← encodeBytes_spell whole.small] at spelled
    rw [encodeBytes_injective spelled, encode, ← result, valuesOfBytes_bytesOfValues whole]
  · rintro rfl
    exact decode_encode alphabet bytes

example : ["", "f", "fo", "foo", "foobar"].map (fun s => encode .standard (encodeBytes s)) =
    ["", "Zg==", "Zm8=", "Zm9v", "Zm9vYmFy"] := by
  decide +kernel

theorem mem_spell {c : Char} (there : c ∈ alphabet.spell values pads) :
    (∃ v ∈ values, alphabet.symbol v = c) ∨ c = '=' := by
  rw [Alphabet.spell, List.mem_append, List.mem_map] at there
  exact there.imp_right List.eq_of_mem_replicate

/-- A canonical form is written in the symbols of its alphabet. -/
theorem mem_encode {c : Char} (there : c ∈ (encode alphabet bytes).toList) :
    c ∈ alphabet.symbols ∨ c = '=' := by
  rw [encode, String.toList_ofList] at there
  rcases mem_spell there with ⟨v, mem, rfl⟩ | isPad
  · exact .inl (symbol_mem ((isWhole_valuesOfBytes bytes).small v mem))
  · exact .inr isPad

theorem length_encode (alphabet : Alphabet) (bytes : List UInt8) :
    (encode alphabet bytes).length % 4 = 0 := by
  rw [encode, String.length_ofList, Alphabet.spell, List.length_append, List.length_map,
    List.length_replicate, padding]
  omega

theorem isBlank_of_mem_encode {c : Char} (there : c ∈ (encode alphabet bytes).toList) :
    isBlank c = false := by
  rw [encode, String.toList_ofList] at there
  rcases mem_spell there with ⟨v, mem, rfl⟩ | rfl
  · exact isBlank_symbol ((isWhole_valuesOfBytes bytes).small v mem)
  · decide

/-! ## Both alphabets -/

/-- The value of a character in the one alphabet or the other. -/
def value? (c : Char) : Option Nat :=
  (Alphabet.standard.value? (UInt8.ofNat c.toNat)).or
    (Alphabet.urlSafe.value? (UInt8.ofNat c.toNat))

theorem value?_symbol (small : v < 64) : value? (alphabet.symbol v) = some v := by
  have all : ∀ v < 64, value? (alphabet.symbol v) = some v := by
    cases alphabet <;> decide
  exact all v small

/-- The values are read off their text, whatever the alphabet. -/
theorem filterMap_spell (small : ∀ v ∈ values, v < 64) :
    (alphabet.spell values pads).filterMap value? = values := by
  have symbols : (values.map alphabet.symbol).filterMap value? = values := by
    induction values with
    | nil => rfl
    | cons v values ih =>
        rw [List.forall_mem_cons] at small
        rw [List.map_cons, List.filterMap_cons, value?_symbol small.1, ih small.2]
  have padded : (List.replicate pads '=').filterMap value? = [] := by
    rw [List.filterMap_eq_nil_iff]
    intro c mem
    rw [List.eq_of_mem_replicate mem]
    rfl
  rw [Alphabet.spell, List.filterMap_append, symbols, padded, List.append_nil]

/-- No two sequences of bytes have the same form, not even in different alphabets. -/
theorem encode_injective {p q : List UInt8} (same : encode alphabet p = encode other q) :
    p = q := by
  have values : valuesOfBytes p = valuesOfBytes q := by
    rw [← filterMap_spell (isWhole_valuesOfBytes p).small,
      ← filterMap_spell (isWhole_valuesOfBytes q).small]
    exact congrArg (List.filterMap value?) (String.ofList_injective same)
  rw [← bytesOfValues_valuesOfBytes p, values, bytesOfValues_valuesOfBytes]

/-- A text is decoded exactly if it is the canonical form of the bytes in one of the alphabets. -/
theorem decodeEither_eq_ok_iff {s : String} :
    decodeEither (encodeBytes s) = .ok bytes ↔ ∃ alphabet, s = encode alphabet bytes := by
  unfold decodeEither
  constructor
  · intro decoded
    split at decoded
    next read =>
      cases decoded
      exact ⟨.standard, decode_eq_ok_iff.mp read⟩
    next => exact ⟨.urlSafe, decode_eq_ok_iff.mp decoded⟩
  · rintro ⟨alphabet, rfl⟩
    split
    next read => rw [encode_injective (decode_eq_ok_iff.mp read)]
    next why unread =>
      cases alphabet with
      | standard =>
          rw [decode_encode] at unread
          contradiction
      | urlSafe => exact decode_encode .urlSafe bytes

end FleetRoster.Text.Base64
