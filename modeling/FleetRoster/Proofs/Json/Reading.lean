import FleetRoster.Proofs.Json.Grammar
import FleetRoster.Proofs.Package.Grammar

/-!
# Texts read as their values

Every text of a value is read as that value: the sketch of the text is the value with its members
in the order of the text, it holds to its end, and nothing is left over. So what a text is decoded
to does not depend on the blanks in it, nor on the way in which its strings are spelled.
-/

namespace FleetRoster.Json

open Text (Payload)

/-! ## Blanks -/

namespace Sketch

theorem skipSpace_blank {before : List Char} (blank : IsBlank before) (rest : Payload) :
    skipSpace (before.map some ++ rest) = skipSpace rest := by
  apply List.dropWhile_append_of_pos
  intro c mem
  obtain ⟨d, there, rfl⟩ := List.mem_map.mp mem
  exact blank d there

theorem skipSpace_cons {c : Option Char} (visible : isSpace c = false) (rest : Payload) :
    skipSpace (c :: rest) = c :: rest :=
  List.dropWhile_cons_of_neg (by simp [visible])

theorem skipSpace_skipSpace (rest : Payload) : skipSpace (skipSpace rest) = skipSpace rest := by
  cases skipped : skipSpace rest with
  | nil => rfl
  | cons c after =>
      apply skipSpace_cons
      have stopped := List.head?_dropWhile_not isSpace rest
      rw [skipSpace] at skipped
      simpa [skipped] using stopped

end Sketch

/-! ## Strings -/

open Sketch

/-- What stands for a character is read in pieces that stand for it, whatever follows. -/
theorem CharSpelling.pieces {c : Char} {own : List Char} (spelling : CharSpelling c own) :
    ∃ ps, (∀ {rest qs after}, readPieces rest = some (qs, after) →
        readPieces (own.map some ++ rest) = some (ps ++ qs, after)) ∧
      ∀ {qs cs}, pieceChars? qs = some cs → pieceChars? (ps ++ qs) = some (c :: cs) := by
  cases spelling with
  | plain quote backslash visible =>
      refine ⟨[.char c], fun {rest qs after} read => ?_, fun {qs cs} chars => ?_⟩
      · rw [List.map_singleton, List.singleton_append, readPieces.eq_7 c rest quote
          (fun _ _ _ _ _ _ => backslash) (fun _ _ _ => backslash) backslash,
          if_neg (Nat.not_lt.mpr visible), read]
        rfl
      · rw [List.singleton_append, pieceChars?, chars]
        rfl
  | @short _ e escape =>
      have notUnit : e ≠ 'u' := by
        rintro rfl
        contradiction
      refine ⟨[.char c], fun {rest qs after} read => ?_, fun {qs cs} chars => ?_⟩
      · change readPieces (some '\\' :: some e :: rest) = _
        rw [readPieces.eq_5 e rest fun _ _ _ _ _ _ => notUnit, escape, read]
        rfl
      · rw [List.singleton_append, pieceChars?, chars]
        rfl
  | @unit n h i j k digits whole =>
      refine ⟨[.unit n], fun {rest qs after} read => ?_, fun {qs cs} chars => ?_⟩
      · change readPieces
          (some '\\' :: some 'u' :: some h :: some i :: some j :: some k :: rest) = _
        rw [readPieces, digits, read]
        rfl
      · have notHigh : ¬ (0xD800 ≤ n && n ≤ 0xDBFF) = true := by simp; omega
        have notLow : ¬ (0xDC00 ≤ n && n ≤ 0xDFFF) = true := by simp; omega
        rw [List.singleton_append, pieceChars?.eq_def]
        simp only [notHigh, notLow, chars]
        rfl
  | @pair m n h i j k h' i' j' k' highDigits high lowDigits low =>
      -- the two units are separate pieces, and only both together are a character
      refine ⟨[.unit m, .unit n], fun {rest qs after} read => ?_, fun {qs cs} chars => ?_⟩
      · change readPieces (some '\\' :: some 'u' :: some h :: some i :: some j :: some k ::
          some '\\' :: some 'u' :: some h' :: some i' :: some j' :: some k' :: rest) = _
        rw [readPieces, highDigits, readPieces, lowDigits, read]
        rfl
      · have isHigh : (0xD800 ≤ m && m ≤ 0xDBFF) = true := by simp; omega
        have isLow : (0xDC00 ≤ n && n ≤ 0xDFFF) = true := by simp; omega
        change pieceChars? (.unit m :: .unit n :: qs) = _
        rw [pieceChars?.eq_4, if_pos isHigh, if_pos isLow, chars]
        rfl

/-- What stands for a text is read up to the closing quote, and as that text. -/
theorem Spelling.pieces {cs t : List Char} (spelling : Spelling cs t) (rest : Payload) :
    ∃ ps, readPieces (t.map some ++ some '"' :: rest) = some (ps, rest) ∧
      pieceChars? ps = some cs := by
  induction spelling with
  | nil => exact ⟨[], rfl, rfl⟩
  | cons first _ ih =>
      obtain ⟨qs, read, chars⟩ := ih
      obtain ⟨ps, reads, means⟩ := first.pieces
      refine ⟨ps ++ qs, ?_, means chars⟩
      rw [List.map_append, List.append_assoc]
      exact reads read

/-- A string is read as the text that it stands for. -/
theorem Spelling.readString {s : String} {t : List Char} (spelling : Spelling s.toList t)
    (rest : Payload) :
    readString (t.map some ++ some '"' :: rest) = some (some s, rest) := by
  obtain ⟨ps, read, chars⟩ := spelling.pieces rest
  rw [Sketch.readString, read, Option.map_some]
  simp only [chars, Option.map_some, String.ofList_toList]

/-! ## Integers -/

/-- No number goes on in a text. -/
def NumberEnds (rest : Payload) : Prop :=
  ∀ c ∈ rest.head?, digit? c = none ∧ c ≠ some '.' ∧ c ≠ some 'e' ∧ c ≠ some 'E'

/-- The digits of a number, as numbers. -/
def decimals (n : Nat) : List Nat :=
  (Nat.toDigits 10 n).map fun c => c.toNat - 48

theorem digit?_of_isDigit {c : Char} (digit : c.isDigit = true) :
    digit? (some c) = some (c.toNat - 48) := by
  rw [digit?, if_pos]
  simpa using Package.isDigit_iff_le.mp digit

theorem spanDigits_append {ds : List Char} (digits : ∀ d ∈ ds, d.isDigit = true) {rest : Payload}
    (ends : ∀ c ∈ rest.head?, digit? c = none) :
    spanDigits (ds.map some ++ rest) = (ds.map fun c => c.toNat - 48, rest) := by
  induction ds with
  | nil =>
      cases rest with
      | nil => rfl
      | cons c rest => simp [spanDigits, ends c rfl]
  | cons d ds ih =>
      rw [List.forall_mem_cons] at digits
      rw [List.map_cons, List.cons_append, spanDigits, digit?_of_isDigit digits.1, ih digits.2,
        List.map_cons]

/-- A number of sixty-four bits is taken whole from its digits. -/
theorem takeWhole_map {ds : List Char} {n : Nat}
    (small : Nat.ofDigitChars 10 ds n < Literal.wordLimit) :
    Literal.takeWhole n (ds.map fun c => c.toNat - 48) = (Nat.ofDigitChars 10 ds n, 0) := by
  induction ds generalizing n with
  | nil => rfl
  | cons d ds ih =>
      rw [Nat.ofDigitChars_cons] at small
      have grows := Package.le_ofDigitChars ds (10 * n + (d.toNat - 48))
      rw [List.map_cons, Literal.takeWhole, Nat.ofDigitChars_cons, Nat.mul_comm n 10,
        if_pos (Nat.lt_of_le_of_lt grows small)]
      exact ih small

theorem takeWhole_decimals {n : Nat} (small : n < 2 ^ 64) :
    Literal.takeWhole 0 (decimals n) = (n, 0) := by
  have whole : Nat.ofDigitChars 10 (Nat.toDigits 10 n) 0 = n := Nat.ofDigitChars_ten_toDigits
  rw [decimals, takeWhole_map (by rw [whole]; exact small), whole]

/-- No number but zero begins with a zero. -/
theorem head_toDigits {n : Nat} (positive : 0 < n) :
    ∀ c ∈ (Nat.toDigits 10 n).head?, c ≠ '0' := by
  induction n using Nat.strongRecOn with
  | ind n ih =>
      rw [Nat.toDigits_eq_if (by decide)]
      split
      next small => simp; omega
      next large =>
        rw [List.head?_append_of_ne_nil _ Nat.toDigits_ne_nil]
        exact ih (n / 10) (by omega) (by omega)

/-- A number begins with a digit. -/
theorem exists_toDigits (n : Nat) : ∃ c cs, Nat.toDigits 10 n = c :: cs ∧ c.isDigit = true := by
  obtain ⟨c, cs, digits⟩ := List.exists_cons_of_ne_nil (Nat.toDigits_ne_nil (b := 10) (n := n))
  exact ⟨c, cs, digits, Nat.isDigit_of_mem_toDigits (by decide) (by decide)
    (digits ▸ List.mem_cons_self)⟩

theorem decimals_ne_nil (n : Nat) : decimals n ≠ [] :=
  mt List.map_eq_nil_iff.mp Nat.toDigits_ne_nil

/-- No digit follows a zero in front. -/
theorem decimals_ne_zero_cons (n d : Nat) (ds : List Nat) : decimals n ≠ 0 :: d :: ds := by
  intro spelled
  rcases Nat.eq_zero_or_pos n with rfl | positive
  · exact absurd (congrArg List.length spelled) (by simp [decimals])
  · rw [decimals] at spelled
    obtain ⟨c, cs, digits, zero, _⟩ := List.map_eq_cons_iff.mp spelled
    have first : c ∈ (Nat.toDigits 10 n).head? := by rw [digits]; rfl
    have digit := Package.isDigit_iff.mp
      (Nat.isDigit_of_mem_toDigits (by decide) (by decide) (List.mem_of_mem_head? first))
    apply head_toDigits positive c first
    rw [← Char.toNat_inj]
    change c.toNat = 48
    omega

theorem readFraction_of_ends {rest : Payload} (ends : NumberEnds rest) :
    readFraction rest = some (none, rest) := by
  rw [readFraction.eq_def]
  split
  next after => exact absurd rfl (ends (some '.') rfl).2.1
  next => rfl

theorem readExponent_of_ends {rest : Payload} (ends : NumberEnds rest) :
    readExponent rest = some (none, rest) := by
  rw [readExponent.eq_def]
  split
  next e after =>
    obtain ⟨_, _, small, capital⟩ := ends (some e) rfl
    have other : ¬ (e = 'e' || e = 'E') = true := by
      simpa using ⟨mt (congrArg some) small, mt (congrArg some) capital⟩
    rw [if_neg other]
  next => rfl

/-- The digits of a number are read as a literal with neither fraction nor exponent. -/
theorem readLiteral_toDigits (negative : Bool) (n : Nat) {rest : Payload}
    (ends : NumberEnds rest) :
    readLiteral negative ((Nat.toDigits 10 n).map some ++ rest) =
      some (⟨negative, decimals n, none, none⟩, rest) := by
  have digits : ∀ d ∈ Nat.toDigits 10 n, d.isDigit = true := fun d mem =>
    Nat.isDigit_of_mem_toDigits (by decide) (by decide) mem
  have spanned : spanDigits ((Nat.toDigits 10 n).map some ++ rest) = (decimals n, rest) :=
    spanDigits_append digits fun c first => (ends c first).1
  rw [readLiteral, spanned]
  dsimp only
  split
  next none => exact absurd none (decimals_ne_nil n)
  next d ds leading => exact absurd leading (decimals_ne_zero_cons n d ds)
  next => simp [readFraction_of_ends ends, readExponent_of_ends ends]

theorem number?_of_nat {n : Nat} (small : n < 2 ^ 64) :
    Literal.number? ⟨false, decimals n, none, none⟩ = some (.int n) := by
  rw [Literal.number?, takeWhole_decimals small]
  rfl

theorem number?_of_neg {n : Nat} (positive : 0 < n) (small : n ≤ 2 ^ 63) :
    Literal.number? ⟨true, decimals n, none, none⟩ = some (.int (-n)) := by
  have inRange : ¬ (n = 0 ∨ Nat.pow 2 63 < n) := by
    change ¬ (n = 0 ∨ 2 ^ 63 < n)
    omega
  rw [Literal.number?, takeWhole_decimals (Nat.lt_of_le_of_lt small (by decide))]
  simp only [inRange]
  rfl

/-! ## Values -/

/-- Every text of a value is read as it, if no number goes on behind the text. -/
def ReadsTexts (v : Value) : Prop :=
  ∀ {t : List Char} {fuel : Nat} {rest : Payload}, v.Spelled t → 2 * t.length ≤ fuel →
    NumberEnds rest → Sketch.readValue fuel (t.map some ++ rest) = (ofValue v, rest)

theorem readValue_skipSpace (fuel : Nat) (text : Payload) :
    Sketch.readValue fuel (skipSpace text) = Sketch.readValue fuel text := by
  cases fuel with
  | zero => rfl
  | succ fuel => rw [Sketch.readValue, Sketch.readValue, skipSpace_skipSpace]

theorem NumberEnds.blank {before : List Char} (blank : IsBlank before) {rest : Payload}
    (ends : NumberEnds rest) : NumberEnds (before.map some ++ rest) := by
  cases before with
  | nil => exact ends
  | cons c before =>
      have space := blank c List.mem_cons_self
      rintro d first
      cases first
      rcases (by simpa [isSpace, or_assoc] using space : c = ' ' ∨ c = '\n' ∨ c = '\t' ∨ c = '\r')
        with rfl | rfl | rfl | rfl <;> decide

/-- A value with blanks around it is read, and what is left begins with the blanks behind it. -/
theorem ReadsTexts.padded {v : Value} (reads : ReadsTexts v) {t : List Char} {fuel : Nat}
    {rest : Payload} (padded : Padded v.Spelled t) (enough : 2 * t.length < fuel)
    (ends : NumberEnds rest) : ∃ left,
      Sketch.readValue fuel (skipSpace (t.map some ++ rest)) = (ofValue v, left) ∧
        skipSpace left = skipSpace rest := by
  obtain ⟨before, inner, after, blank, spelled, alsoBlank, rfl⟩ := padded
  simp only [List.length_append] at enough
  refine ⟨after.map some ++ rest, ?_, skipSpace_blank alsoBlank rest⟩
  have moved : skipSpace ((before ++ (inner ++ after)).map some ++ rest) =
      skipSpace (inner.map some ++ (after.map some ++ rest)) := by
    rw [List.map_append, List.map_append, List.append_assoc, List.append_assoc,
      skipSpace_blank blank]
  rw [moved, readValue_skipSpace]
  exact reads spelled (by omega) (ends.blank alsoBlank)

mutual

theorem isWhole_ofValue : (v : Value) → (ofValue v).isWhole = true
  | .null => rfl
  | .bool _ => rfl
  | .number _ => rfl
  | .string _ => rfl
  | .array items => areWhole_ofValues items
  | .object members => membersWhole_ofMembers members

theorem areWhole_ofValues : (items : List Value) → areWhole (ofValues items) = true
  | [] => rfl
  | v :: rest => by
      rw [ofValues, areWhole, isWhole_ofValue v, areWhole_ofValues rest]
      rfl

theorem membersWhole_ofMembers :
    (members : List (String × Value)) → membersWhole (ofMembers members) = true
  | [] => rfl
  | (_, v) :: rest => by
      rw [ofMembers, membersWhole, isWhole_ofValue v, membersWhole_ofMembers rest]
      rfl

end

/-- A character that begins a number without a sign. -/
theorem readValue_digit {c : Char} (digit : c.isDigit = true) (fuel : Nat) (rest : Payload) :
    Sketch.readValue (fuel + 1) (some c :: rest) =
      match readLiteral false (some c :: rest) with
      | some (l, after) => (.number l.number?, after)
      | none => (.broken, []) := by
  obtain ⟨low, high⟩ := Package.isDigit_iff.mp digit
  have listed : c = '0' ∨ c = '1' ∨ c = '2' ∨ c = '3' ∨ c = '4' ∨ c = '5' ∨ c = '6' ∨ c = '7' ∨
      c = '8' ∨ c = '9' := by
    simp only [← Char.toNat_inj]
    change c.toNat = 48 ∨ c.toNat = 49 ∨ c.toNat = 50 ∨ c.toNat = 51 ∨ c.toNat = 52 ∨
      c.toNat = 53 ∨ c.toNat = 54 ∨ c.toNat = 55 ∨ c.toNat = 56 ∨ c.toNat = 57
    omega
  rcases listed with rfl | rfl | rfl | rfl | rfl | rfl | rfl | rfl | rfl | rfl <;> rfl

theorem readsTexts_int (n : Int) : ReadsTexts (.number (.int n)) := by
  rintro t fuel rest ⟨⟨low, high⟩, rfl⟩ enough ends
  rw [Number.intText] at enough ⊢
  split
  next negative =>
    rw [if_pos negative, List.length_cons] at enough
    obtain ⟨fuel, rfl⟩ : ∃ m, fuel = m + 1 := ⟨fuel - 1, by omega⟩
    have literal := readLiteral_toDigits true n.natAbs ends
    have number := number?_of_neg (n := n.natAbs) (by omega) (by omega)
    change (match readLiteral true ((Nat.toDigits 10 n.natAbs).map some ++ rest) with
      | some (l, after) => (Sketch.number l.number?, after)
      | none => (.broken, [])) = _
    rw [literal]
    dsimp only
    rw [number, ofValue, show -(n.natAbs : Int) = n by omega]
  next positive =>
    obtain ⟨c, cs, digits, digit⟩ := exists_toDigits n.natAbs
    rw [if_neg positive, digits, List.length_cons] at enough
    obtain ⟨fuel, rfl⟩ : ∃ m, fuel = m + 1 := ⟨fuel - 1, by omega⟩
    have literal := readLiteral_toDigits false n.natAbs ends
    have number := number?_of_nat (n := n.natAbs) (by omega)
    rw [digits, List.map_cons, List.cons_append] at literal ⊢
    rw [readValue_digit digit, literal]
    dsimp only
    rw [number, ofValue, show (n.natAbs : Int) = n by omega]

theorem NumberEnds.cons {c : Char} (digit : digit? (some c) = none)
    (other : c ≠ '.' ∧ c ≠ 'e' ∧ c ≠ 'E') (rest : Payload) : NumberEnds (some c :: rest) := by
  rintro d first
  cases first
  simpa using ⟨digit, other⟩

theorem visible_of_isDigit {c : Char} (digit : c.isDigit = true) :
    isSpace (some c) = false ∧ c ≠ ']' ∧ c ≠ '\x7d' := by
  have apart : ∀ d : Char, d.isDigit = false → c ≠ d := by
    rintro d other rfl
    simp [digit] at other
  refine ⟨?_, apart _ rfl, apart _ rfl⟩
  simp [isSpace, apart ' ' rfl, apart '\n' rfl, apart '\t' rfl, apart '\r' rfl]

/-- A text of a value begins with a character that is neither a blank nor closes a container. -/
theorem Value.Spelled.head {v : Value} {t : List Char} (spelled : v.Spelled t) :
    ∃ c cs, t = c :: cs ∧ isSpace (some c) = false ∧ c ≠ ']' ∧ c ≠ '\x7d' := by
  cases v with
  | null => exact ⟨_, _, spelled, by decide⟩
  | bool b => cases b <;> exact ⟨_, _, spelled, by decide⟩
  | number n =>
      cases n with
      | int n =>
          obtain ⟨-, rfl⟩ := spelled
          rw [Number.intText]
          split
          next => exact ⟨_, _, rfl, by decide⟩
          next =>
            obtain ⟨c, cs, digits, digit⟩ := exists_toDigits n.natAbs
            exact ⟨c, cs, digits, visible_of_isDigit digit⟩
      | double bits => exact spelled.elim
  | string s =>
      obtain ⟨_, _, rfl⟩ := spelled
      exact ⟨_, _, rfl, by decide⟩
  | array items =>
      obtain ⟨_, _, rfl⟩ := spelled
      exact ⟨_, _, rfl, by decide⟩
  | object members =>
      obtain ⟨_, _, rfl⟩ := spelled
      exact ⟨_, _, rfl, by decide⟩

/-- Behind the blanks before a value stands the value's first character. -/
theorem skipSpace_padded {v : Value} {t : List Char} (padded : Padded v.Spelled t)
    (rest : Payload) : ∃ c left,
      skipSpace (t.map some ++ rest) = some c :: left ∧ c ≠ ']' ∧ c ≠ '\x7d' := by
  obtain ⟨before, inner, after, blank, spelled, -, rfl⟩ := padded
  obtain ⟨c, cs, rfl, visible, other⟩ := spelled.head
  refine ⟨c, cs.map some ++ (after.map some ++ rest), ?_, other⟩
  rw [List.map_append, List.append_assoc, skipSpace_blank blank, List.cons_append, List.map_cons,
    List.cons_append, skipSpace_cons visible, List.map_append, List.append_assoc]

theorem skipSpace_items {v : Value} {vs : List Value} {t : List Char}
    (spelled : Value.ItemsSpelled (v :: vs) t) (rest : Payload) :
    ∃ c left, skipSpace (t.map some ++ rest) = some c :: left ∧ c ≠ ']' := by
  cases vs with
  | nil =>
      obtain ⟨c, left, skipped, notBracket, -⟩ := skipSpace_padded spelled rest
      exact ⟨c, left, skipped, notBracket⟩
  | cons w vs =>
      obtain ⟨first, more, padded, -, rfl⟩ := spelled
      obtain ⟨c, left, skipped, notBracket, -⟩ :=
        skipSpace_padded padded (some ',' :: more.map some ++ rest)
      refine ⟨c, left, ?_, notBracket⟩
      rwa [List.map_append, List.append_assoc]

/-- Items are read in order up to the bracket behind them. -/
theorem readItems_of_spelled {v : Value} {vs : List Value}
    (reads : ∀ w ∈ v :: vs, ReadsTexts w) {t : List Char} {fuel : Nat} {rest : Payload}
    (spelled : Value.ItemsSpelled (v :: vs) t) (enough : 2 * t.length + 2 ≤ fuel) :
    readItems fuel (skipSpace (t.map some ++ some ']' :: rest)) =
      (ofValues (v :: vs), true, rest) := by
  have readsFirst : ReadsTexts v := reads v List.mem_cons_self
  induction vs generalizing v t fuel with
  | nil =>
      obtain ⟨fuel, rfl⟩ : ∃ m, fuel = m + 1 := ⟨fuel - 1, by omega⟩
      obtain ⟨left, read, same⟩ := readsFirst.padded spelled (by omega : _ < fuel)
        (.cons rfl (by decide) rest : NumberEnds (some ']' :: rest))
      rw [readItems, read]
      dsimp only
      rw [if_pos (isWhole_ofValue v), same]
      rfl
  | cons w vs ih =>
      -- the step from one item to the next is paid for by the comma between them
      obtain ⟨first, more, padded, spelled, rfl⟩ := spelled
      simp only [List.length_append, List.length_cons] at enough
      obtain ⟨fuel, rfl⟩ : ∃ m, fuel = m + 1 := ⟨fuel - 1, by omega⟩
      obtain ⟨left, read, same⟩ := readsFirst.padded padded (by omega : _ < fuel)
        (.cons rfl (by decide) _ : NumberEnds (some ',' :: (more.map some ++ some ']' :: rest)))
      have others := ih (fun u mem => reads u (List.mem_cons_of_mem v mem)) spelled
        (by omega : _ ≤ fuel) (reads w (by simp))
      obtain ⟨c, cs, skipped, notBracket⟩ := skipSpace_items spelled (some ']' :: rest)
      rw [skipped] at others
      rw [List.map_append, List.append_assoc, List.map_cons, List.cons_append, readItems, read]
      dsimp only
      rw [if_pos (isWhole_ofValue v), same, skipSpace_cons (by decide)]
      simp only [skipped]
      split
      next closes => exact absurd (Option.some.inj (List.cons.inj closes).1) notBracket
      next =>
        rw [others]
        rfl

theorem skipSpace_quoted {name : String} {label : List Char} (padded : Padded (Quoted name) label)
    (rest : Payload) : ∃ left,
      skipSpace (label.map some ++ rest) = some '"' :: left ∧
        ∃ behind, Sketch.readString left = some (some name, behind) ∧
          skipSpace behind = skipSpace rest := by
  obtain ⟨before, inner, after, blank, ⟨chars, spelling, rfl⟩, alsoBlank, rfl⟩ := padded
  refine ⟨chars.map some ++ some '"' :: (after.map some ++ rest), ?_, after.map some ++ rest,
    spelling.readString _, skipSpace_blank alsoBlank rest⟩
  rw [List.map_append, List.append_assoc, skipSpace_blank blank]
  simp only [List.cons_append, List.map_cons, List.map_append, List.append_assoc,
    List.nil_append]
  exact skipSpace_cons rfl _

/-- How an object goes on behind its first member. -/
def afterMember (fuel : Nat) (m : Option String × Sketch) :
    Payload → List (Option String × Sketch) × Bool × Payload
  | some '\x7d' :: rest => ([m], true, rest)
  | some ',' :: rest =>
    let (members, closed, rest) := readMembers fuel (skipSpace rest)
    (m :: members, closed, rest)
  | _ => ([m], false, [])

/-- A member is read, and what follows it decides how the object goes on. -/
theorem readMembers_member {name : String} {v : Value} (reads : ReadsTexts v)
    {label body : List Char} (named : Padded (Quoted name) label)
    (spelled : Padded v.Spelled body) {fuel : Nat} (enough : 2 * body.length < fuel)
    {rest : Payload} (ends : NumberEnds rest) :
    readMembers (fuel + 1) (skipSpace (label.map some ++ some ':' :: (body.map some ++ rest))) =
      afterMember fuel (some name, ofValue v) (skipSpace rest) := by
  obtain ⟨left, skipped, behind, read, same⟩ :=
    skipSpace_quoted named (some ':' :: (body.map some ++ rest))
  obtain ⟨more, value, alsoSame⟩ := reads.padded spelled enough ends
  rw [readValue_skipSpace] at value
  rw [skipped, readMembers]
  simp only [read, same, skipSpace_cons (c := some ':') rfl, value, isWhole_ofValue, alsoSame,
    if_true]
  rfl

/-- Members are read in order up to the brace behind them. -/
theorem readMembers_of_spelled {m : String × Value} {ms : Members}
    (reads : ∀ n ∈ m :: ms, ReadsTexts n.2) {t : List Char} {fuel : Nat} {rest : Payload}
    (spelled : Value.MembersSpelled (m :: ms) t) (enough : 2 * t.length + 2 ≤ fuel) :
    readMembers fuel (skipSpace (t.map some ++ some '\x7d' :: rest)) =
      (ofMembers (m :: ms), true, rest) := by
  obtain ⟨name, v⟩ := m
  have readsFirst : ReadsTexts v := reads _ List.mem_cons_self
  obtain ⟨fuel, rfl⟩ : ∃ n, fuel = n + 1 := ⟨fuel - 1, by omega⟩
  induction ms generalizing name v t fuel with
  | nil =>
      obtain ⟨label, body, named, spelled, rfl⟩ := spelled
      simp only [List.length_append, List.length_cons] at enough
      have read := readMembers_member readsFirst named spelled (by omega : _ < fuel)
        (.cons rfl (by decide) rest : NumberEnds (some '\x7d' :: rest))
      rw [List.map_append, List.append_assoc, List.map_cons, List.cons_append, read]
      rfl
  | cons m ms ih =>
      obtain ⟨label, body, more, named, padded, spelled, rfl⟩ := spelled
      simp only [List.length_append, List.length_cons] at enough
      obtain ⟨fuel, rfl⟩ : ∃ n, fuel = n + 1 := ⟨fuel - 1, by omega⟩
      have others := ih _ _ (fun n mem => reads n (List.mem_cons_of_mem _ mem)) spelled
        (reads _ (by simp)) fuel (by omega)
      have read := readMembers_member readsFirst named padded (by omega : _ < fuel + 1)
        (.cons rfl (by decide) _ : NumberEnds (some ',' :: (more.map some ++ some '\x7d' :: rest)))
      rw [List.map_append, List.append_assoc, List.map_cons, List.cons_append, List.map_append,
        List.append_assoc, List.map_cons, List.cons_append, read, skipSpace_cons rfl]
      simp only [afterMember, others]
      rfl

theorem readsTexts_string (s : String) : ReadsTexts (.string s) := by
  rintro t fuel rest ⟨inner, spelling, rfl⟩ enough -
  obtain ⟨fuel, rfl⟩ : ∃ n, fuel = n + 1 := ⟨fuel - 1, by simp at enough; omega⟩
  have read := spelling.readString rest
  rw [List.map_cons, List.map_append, List.cons_append, List.append_assoc, Sketch.readValue,
    skipSpace_cons rfl]
  simp only [List.map_cons, List.map_nil, List.cons_append, List.nil_append, read]
  rfl

theorem readValue_bracket (fuel : Nat) (text : Payload) :
    Sketch.readValue (fuel + 1) (some '[' :: text) =
      match skipSpace text with
      | some ']' :: rest => (.array [] true, rest)
      | rest =>
        let (items, closed, rest) := readItems fuel rest
        (.array items closed, rest) := rfl

theorem readValue_brace (fuel : Nat) (text : Payload) :
    Sketch.readValue (fuel + 1) (some '\x7b' :: text) =
      match skipSpace text with
      | some '\x7d' :: rest => (.object [] true, rest)
      | rest =>
        let (members, closed, rest) := readMembers fuel rest
        (.object members closed, rest) := rfl

theorem readsTexts_array {items : List Value} (reads : ∀ v ∈ items, ReadsTexts v) :
    ReadsTexts (.array items) := by
  rintro t fuel rest ⟨inner, spelled, rfl⟩ enough -
  simp only [List.length_append, List.length_cons, List.length_nil] at enough
  obtain ⟨fuel, rfl⟩ : ∃ n, fuel = n + 1 := ⟨fuel - 1, by omega⟩
  simp only [List.map_cons, List.map_append, List.map_nil, List.cons_append, List.append_assoc,
    List.nil_append, readValue_bracket]
  cases items with
  | nil =>
      rw [skipSpace_blank spelled, skipSpace_cons rfl]
      rfl
  | cons v vs =>
      have read : readItems fuel (skipSpace (inner.map some ++ some ']' :: rest)) =
          (ofValues (v :: vs), true, rest) := readItems_of_spelled reads spelled (by omega)
      obtain ⟨c, cs, skipped, notBracket⟩ := skipSpace_items spelled (some ']' :: rest)
      rw [skipped] at read ⊢
      split
      next closes => exact absurd (Option.some.inj (List.cons.inj closes).1) notBracket
      next =>
        rw [read]
        rfl

theorem skipSpace_members {m : String × Value} {ms : Members} {t : List Char}
    (spelled : Value.MembersSpelled (m :: ms) t) (rest : Payload) :
    ∃ left, skipSpace (t.map some ++ rest) = some '"' :: left := by
  obtain ⟨label, more, named, rfl⟩ :
      ∃ label more, Padded (Quoted m.1) label ∧ t = label ++ more := by
    cases ms with
    | nil =>
        obtain ⟨label, _, named, -, rfl⟩ := spelled
        exact ⟨label, _, named, rfl⟩
    | cons m ms =>
        obtain ⟨label, _, _, named, -, -, rfl⟩ := spelled
        exact ⟨label, _, named, rfl⟩
  obtain ⟨left, skipped, -⟩ := skipSpace_quoted named (more.map some ++ rest)
  exact ⟨left, by rwa [List.map_append, List.append_assoc]⟩

theorem readsTexts_object {members : Members} (reads : ∀ m ∈ members, ReadsTexts m.2) :
    ReadsTexts (.object members) := by
  rintro t fuel rest ⟨inner, spelled, rfl⟩ enough -
  simp only [List.length_append, List.length_cons, List.length_nil] at enough
  obtain ⟨fuel, rfl⟩ : ∃ n, fuel = n + 1 := ⟨fuel - 1, by omega⟩
  simp only [List.map_cons, List.map_append, List.map_nil, List.cons_append, List.append_assoc,
    List.nil_append, readValue_brace]
  cases members with
  | nil =>
      rw [skipSpace_blank spelled, skipSpace_cons rfl]
      rfl
  | cons m ms =>
      have read : readMembers fuel (skipSpace (inner.map some ++ some '\x7d' :: rest)) =
          (ofMembers (m :: ms), true, rest) := readMembers_of_spelled reads spelled (by omega)
      obtain ⟨left, skipped⟩ := skipSpace_members spelled (some '\x7d' :: rest)
      rw [skipped] at read ⊢
      change (let (members, closed, rest) := readMembers fuel (some '"' :: left);
        (Sketch.object members closed, rest)) = _
      rw [read]
      rfl

/-- A value with only one text is read as it if that text is. -/
theorem readsTexts_word {v : Value} {word : List Char} (only : v.Spelled = (· = word))
    (reads : ∀ fuel rest, Sketch.readValue (fuel + 1) (word.map some ++ rest) = (ofValue v, rest)) :
    ReadsTexts v := by
  intro t fuel rest spelled enough _
  obtain ⟨c, cs, rfl, -⟩ := spelled.head
  obtain ⟨fuel, rfl⟩ : ∃ n, fuel = n + 1 := ⟨fuel - 1, by simp at enough; omega⟩
  rw [only] at spelled
  rw [spelled]
  exact reads fuel rest

mutual

/-- Every text of a value is read as it. -/
theorem readsTexts : (v : Value) → ReadsTexts v
  | .null => readsTexts_word rfl fun _ _ => rfl
  | .bool true => readsTexts_word rfl fun _ _ => rfl
  | .bool false => readsTexts_word rfl fun _ _ => rfl
  | .number (.int n) => readsTexts_int n
  | .number (.double _) => fun spelled => spelled.elim
  | .string s => readsTexts_string s
  | .array items => readsTexts_array (readsTexts_items items)
  | .object members => readsTexts_object (readsTexts_members members)

theorem readsTexts_items : (items : List Value) → ∀ v ∈ items, ReadsTexts v
  | [] => nofun
  | v :: rest => List.forall_mem_cons.mpr ⟨readsTexts v, readsTexts_items rest⟩

theorem readsTexts_members : (members : List (String × Value)) → ∀ m ∈ members, ReadsTexts m.2
  | [] => nofun
  | (_, v) :: rest => List.forall_mem_cons.mpr ⟨readsTexts v, readsTexts_members rest⟩

end

/-! ## Whole texts -/

/-- A text of a value is that value's sketch, with nothing left over. -/
theorem ofPayload_of_isText {v : Value} {text : String} (spelled : v.IsText text) :
    ofPayload (Text.payload text) = (ofValue v, true) := by
  have reads : ReadsTexts v := readsTexts v
  obtain ⟨left, read, same⟩ := reads.padded spelled
    (by simp [Text.payload] : _ < 2 * (Text.payload text).length + 2) (nofun : NumberEnds [])
  rw [List.append_nil, readValue_skipSpace] at read
  change Sketch.readValue _ (Text.payload text) = _ at read
  rw [ofPayload, read]
  dsimp only
  rw [same]
  rfl

end FleetRoster.Json
