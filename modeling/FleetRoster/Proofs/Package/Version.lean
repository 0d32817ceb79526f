import FleetRoster.Proofs.Package.Bytes

/-!
# Versions are compared by their tokens

The order of versions goes through two texts side by side, and which branch it takes depends on what
either of them has next. It is the order of their tokens all the same: each step takes one token from
both texts and decides as the order of tokens does. So it is a preorder, in which versions with the
same tokens are equal and no others are.
-/

namespace FleetRoster.Package.Version

variable {c d : Char} {cs ds : List Char}

/-! ## The first token -/

theorem ne_of_isAlphanum (counts : c.isDigit = true ∨ c.isAlpha = true) : c ≠ '~' ∧ c ≠ '^' := by
  constructor <;> rintro rfl <;> rcases counts with digit | letter <;> contradiction

theorem isDigit_of_isAlpha (letter : c.isAlpha = true) : c.isDigit = false := by
  rw [Bool.eq_false_iff]
  intro digit
  have := isAlpha_iff.mp letter
  have := isDigit_iff.mp digit
  omega

theorem ascii_of_isDigit (digit : c.isDigit = true) : c.toNat < 128 := by
  have := isDigit_iff.mp digit
  omega

theorem ascii_of_isAlpha (letter : c.isAlpha = true) : c.toNat < 128 := by
  have := isAlpha_iff.mp letter
  omega

theorem toNat_ofNat_of_ascii (ascii : c.toNat < 128) : (UInt8.ofNat c.toNat).toNat = c.toNat :=
  UInt8.toNat_ofNat_of_lt' (Nat.lt_of_lt_of_le ascii (by decide))

theorem bytes_cons_of_ascii (ascii : c.toNat < 128) :
    bytes (c :: cs) = UInt8.ofNat c.toNat :: bytes cs := by
  rw [bytes_cons, utf8EncodeChar_of_ascii ascii, List.singleton_append]

theorem mem_utf8EncodeChar_of_ascii (ascii : c.toNat < 128) :
    UInt8.ofNat c.toNat ∈ String.utf8EncodeChar c := by
  rw [utf8EncodeChar_of_ascii ascii]
  exact List.mem_singleton_self _

/-- The tokens of a sequence of characters. -/
def charTokens (cs : List Char) : List Token :=
  tokens (bytes cs)

theorem isSeparator_iff : isSeparator c = true ↔
    c ≠ '~' ∧ c ≠ '^' ∧ c.isDigit = false ∧ c.isAlpha = false := by
  simp only [isSeparator, Char.isAlphanum, Bool.and_eq_true, Bool.not_eq_true',
    Bool.or_eq_false_iff, bne_iff_ne]
  grind

theorem charTokens_separator (separates : isSeparator c = true) (cs : List Char) :
    charTokens (c :: cs) = charTokens cs := by
  obtain ⟨noTilde, noCaret, noDigit, noLetter⟩ := isSeparator_iff.mp separates
  have skipped : ∀ bs : List UInt8, (∀ b ∈ bs, b ∈ String.utf8EncodeChar c) →
      tokens (bs ++ bytes cs) = tokens (bytes cs) := by
    intro bs sub
    induction bs with
    | nil => rfl
    | cons b bs ih =>
      rw [List.forall_mem_cons] at sub
      rw [List.cons_append, tokens, if_neg (mt (eq_tilde_iff sub.1).mp noTilde),
        if_neg (mt (eq_caret_iff sub.1).mp noCaret), isDigitByte_eq sub.1, noDigit,
        isLetterByte_eq sub.1, noLetter]
      exact ih sub.2
  rw [charTokens, bytes_cons, skipped _ fun b mem => mem, charTokens]

theorem charTokens_skipSeparators (cs : List Char) :
    charTokens (skipSeparators cs) = charTokens cs := by
  induction cs with
  | nil => rfl
  | cons c cs ih =>
    rw [skipSeparators, List.dropWhile_cons]
    split
    next separates => rw [charTokens_separator separates, ← ih, skipSeparators]
    next => rfl

theorem charTokens_nil : charTokens [] = [.finish] := by
  rw [charTokens, bytes, List.flatMap_nil, tokens]

theorem charTokens_tilde (cs : List Char) : charTokens ('~' :: cs) = .tilde :: charTokens cs := by
  rw [charTokens, bytes_cons, utf8EncodeChar_of_ascii (by decide), List.singleton_append, tokens]
  rfl

theorem charTokens_caret (cs : List Char) : charTokens ('^' :: cs) = .caret :: charTokens cs := by
  rw [charTokens, bytes_cons, utf8EncodeChar_of_ascii (by decide), List.singleton_append, tokens]
  rfl

theorem decimal_bytes {ds : List Char} (digits : ∀ d ∈ ds, d.isDigit) :
    decimal (bytes ds) = digitsValue ds := by
  rw [decimal, digitsValue]
  generalize 0 = n
  induction ds generalizing n with
  | nil => rfl
  | cons d ds ih =>
    rw [List.forall_mem_cons] at digits
    have ascii := ascii_of_isDigit digits.1
    rw [bytes_cons_of_ascii ascii, List.foldl_cons, List.foldl_cons, toNat_ofNat_of_ascii ascii]
    exact ih digits.2 _

theorem charTokens_digit (digit : c.isDigit = true) (cs : List Char) :
    charTokens (c :: cs) =
      .number (digitsValue (run true (c :: cs))) :: charTokens (afterRun true (c :: cs)) := by
  have ascii := ascii_of_isDigit digit
  have mem := mem_utf8EncodeChar_of_ascii ascii
  have taken : run true (c :: cs) = c :: cs.takeWhile Char.isDigit :=
    List.takeWhile_cons_of_pos digit
  have dropped : afterRun true (c :: cs) = cs.dropWhile Char.isDigit :=
    List.dropWhile_cons_of_pos digit
  have digits : ∀ d ∈ c :: cs.takeWhile Char.isDigit, d.isDigit := by
    rw [List.forall_mem_cons]
    exact ⟨digit, List.all_eq_true.mp List.all_takeWhile⟩
  obtain ⟨noTilde, noCaret⟩ := ne_of_isAlphanum (.inl digit)
  rw [charTokens, bytes_cons_of_ascii ascii, tokens, if_neg (mt (eq_tilde_iff mem).mp noTilde),
    if_neg (mt (eq_caret_iff mem).mp noCaret), if_pos ((isDigitByte_eq mem).trans digit),
    takeWhile_bytes isDigitByte_eq, dropWhile_bytes isDigitByte_eq, ← bytes_cons_of_ascii ascii,
    decimal_bytes digits, taken, dropped, charTokens]

theorem charTokens_letter (letter : c.isAlpha = true) (cs : List Char) :
    charTokens (c :: cs) =
      .letters (bytes (run false (c :: cs))) :: charTokens (afterRun false (c :: cs)) := by
  have ascii := ascii_of_isAlpha letter
  have mem := mem_utf8EncodeChar_of_ascii ascii
  have taken : run false (c :: cs) = c :: cs.takeWhile Char.isAlpha :=
    List.takeWhile_cons_of_pos letter
  have dropped : afterRun false (c :: cs) = cs.dropWhile Char.isAlpha :=
    List.dropWhile_cons_of_pos letter
  have noDigit : ¬ isDigitByte (UInt8.ofNat c.toNat) = true := by
    rw [isDigitByte_eq mem, isDigit_of_isAlpha letter]
    exact Bool.false_ne_true
  obtain ⟨noTilde, noCaret⟩ := ne_of_isAlphanum (.inr letter)
  rw [charTokens, bytes_cons_of_ascii ascii, tokens, if_neg (mt (eq_tilde_iff mem).mp noTilde),
    if_neg (mt (eq_caret_iff mem).mp noCaret), if_neg noDigit,
    if_pos ((isLetterByte_eq mem).trans letter), takeWhile_bytes isLetterByte_eq,
    dropWhile_bytes isLetterByte_eq, ← bytes_cons_of_ascii ascii, taken, dropped, charTokens]

/-- What stands at the front of a version once separators are skipped, with the tokens that are read
there. -/
inductive Front : List Char → List Token → Prop
  | finish : Front [] [.finish]
  | tilde (rest : List Char) : Front ('~' :: rest) (.tilde :: charTokens rest)
  | caret (rest : List Char) : Front ('^' :: rest) (.caret :: charTokens rest)
  | number {c : Char} (tilde : c ≠ '~') (caret : c ≠ '^') (digit : c.isDigit = true)
      (letter : c.isAlpha = false) (rest : List Char) :
      Front (c :: rest)
        (.number (digitsValue (run true (c :: rest))) :: charTokens (afterRun true (c :: rest)))
  | letters {c : Char} (tilde : c ≠ '~') (caret : c ≠ '^') (digit : c.isDigit = false)
      (letter : c.isAlpha = true) (rest : List Char) :
      Front (c :: rest)
        (.letters (bytes (run false (c :: rest))) :: charTokens (afterRun false (c :: rest)))

theorem front (cs : List Char) : Front (skipSeparators cs) (charTokens cs) := by
  rw [← charTokens_skipSeparators]
  cases skipped : skipSeparators cs with
  | nil =>
    rw [charTokens_nil]
    exact .finish
  | cons c rest =>
    have counts : ¬ isSeparator c = true := by
      have stopped := List.head?_dropWhile_not isSeparator cs
      rw [skipSeparators] at skipped
      simpa [skipped] using stopped
    by_cases tilde : c = '~'
    · subst tilde
      rw [charTokens_tilde]
      exact .tilde rest
    by_cases caret : c = '^'
    · subst caret
      rw [charTokens_caret]
      exact .caret rest
    cases digit : c.isDigit with
    | true =>
      have letter : c.isAlpha = false := by
        rw [Bool.eq_false_iff]
        intro letter
        rw [isDigit_of_isAlpha letter] at digit
        contradiction
      rw [charTokens_digit digit]
      exact .number tilde caret digit letter rest
    | false =>
      cases letter : c.isAlpha with
      | true =>
        rw [charTokens_letter letter]
        exact .letters tilde caret digit letter rest
      | false => exact absurd (isSeparator_iff.mpr ⟨tilde, caret, digit, letter⟩) counts

/-! ## The order -/

theorem compare_toNat_ofNat (ascii : c.toNat < 128) (moreAscii : d.toNat < 128) :
    compare (UInt8.ofNat c.toNat) (UInt8.ofNat d.toNat) = compare c d := by
  rw [compare_eq_compare_toNat]
  simp only [compare, compareOfLessAndEq, UInt8.lt_iff_toNat_lt, ← UInt8.toNat_inj,
    toNat_ofNat_of_ascii ascii, toNat_ofNat_of_ascii moreAscii]

theorem compare_bytes (letters : ∀ c ∈ cs, c.isAlpha) (moreLetters : ∀ d ∈ ds, d.isAlpha) :
    compare (bytes cs) (bytes ds) = compare cs ds := by
  induction cs generalizing ds with
  | nil =>
    cases ds with
    | nil => rfl
    | cons d ds =>
      rw [bytes_cons_of_ascii (ascii_of_isAlpha (moreLetters d (by simp)))]
      rfl
  | cons c cs ih =>
    rw [List.forall_mem_cons] at letters
    have ascii := ascii_of_isAlpha letters.1
    rw [bytes_cons_of_ascii ascii]
    cases ds with
    | nil => rfl
    | cons d ds =>
      rw [List.forall_mem_cons] at moreLetters
      have moreAscii := ascii_of_isAlpha moreLetters.1
      rw [bytes_cons_of_ascii moreAscii, List.compare_cons_cons, List.compare_cons_cons,
        ih letters.2 moreLetters.2, compare_toNat_ofNat ascii moreAscii]

theorem compareRuns_numbers (cs ds : List Char) :
    compareRuns true (run true cs) (run true ds) =
      compare (digitsValue (run true cs)) (digitsValue (run true ds)) :=
  compareDigits_eq (List.all_eq_true.mp List.all_takeWhile)
    (List.all_eq_true.mp List.all_takeWhile)

theorem compareRuns_letters (cs ds : List Char) :
    compareRuns false (run false cs) (run false ds) =
      compare (bytes (run false cs)) (bytes (run false ds)) :=
  (compare_bytes (List.all_eq_true.mp List.all_takeWhile)
    (List.all_eq_true.mp List.all_takeWhile)).symm

theorem length_afterRun_lt (digits : Bool) (belongs : inRun digits c = true) (cs : List Char) :
    (afterRun digits (c :: cs)).length < (c :: cs).length := by
  rw [afterRun, List.dropWhile_cons_of_pos belongs]
  exact Nat.lt_succ_of_le (List.dropWhile_suffix _).length_le

/-- Where both versions go on with a run of one kind, the runs decide, and then what is after them. -/
theorem compareWithin_runs {fuel : Nat} {a b rest rest' : List Char}
    (skipped : skipSeparators a = c :: rest) (skipped' : skipSeparators b = d :: rest')
    (plain : c ≠ '~' ∧ c ≠ '^') (plain' : d ≠ '~' ∧ d ≠ '^') (belongs : inRun c.isDigit d = true) :
    compareWithin (fuel + 1) a b =
      (compareRuns c.isDigit (run c.isDigit (c :: rest)) (run c.isDigit (d :: rest'))).then
        (compareWithin fuel (afterRun c.isDigit (c :: rest)) (afterRun c.isDigit (d :: rest'))) := by
  cases outcome : compareRuns c.isDigit (run c.isDigit (c :: rest)) (run c.isDigit (d :: rest'))
  all_goals
    -- a tilde, a caret or an end on either side is excluded, which leaves the last alternative
    simp only [compareWithin, skipped, skipped']
    split <;> simp_all

/-- With enough steps the order of versions is that of their tokens. -/
theorem compareWithin_eq (fuel : Nat) (a b : List Char) (enough : a.length < fuel) :
    compareWithin fuel a b = compareTokens (charTokens a) (charTokens b) := by
  induction fuel generalizing a b with
  | zero => omega
  | succ fuel ih =>
    have frontA := front a
    have frontB := front b
    have shorter : (skipSeparators a).length ≤ a.length := (List.dropWhile_suffix _).length_le
    generalize skippedA : skipSeparators a = x at frontA shorter
    generalize skippedB : skipSeparators b = y at frontB
    generalize charTokens a = s at frontA
    generalize charTokens b = t at frontB
    cases frontA <;> cases frontB
    case finish.finish =>
      rw [compareWithin, skippedA, skippedB]
      rfl
    case tilde.tilde rest rest' =>
      rw [List.length_cons] at shorter
      rw [compareWithin, skippedA, skippedB]
      exact ih rest rest' (by omega)
    case caret.caret rest rest' =>
      rw [List.length_cons] at shorter
      rw [compareWithin, skippedA, skippedB]
      exact ih rest rest' (by omega)
    case number.number c tilde caret digit letter rest d tilde' caret' digit' letter' rest' =>
      have taken := length_afterRun_lt true digit rest
      have belongs : inRun c.isDigit d = true := by
        rw [digit]
        exact digit'
      rw [compareWithin_runs skippedA skippedB ⟨tilde, caret⟩ ⟨tilde', caret'⟩ belongs, digit,
        compareRuns_numbers, ih _ _ (by omega), compareTokens_cons, Token.order]
    case letters.letters c tilde caret digit letter rest d tilde' caret' digit' letter' rest' =>
      have taken := length_afterRun_lt false letter rest
      have belongs : inRun c.isDigit d = true := by
        rw [digit]
        exact letter'
      rw [compareWithin_runs skippedA skippedB ⟨tilde, caret⟩ ⟨tilde', caret'⟩ belongs, digit,
        compareRuns_letters, ih _ _ (by omega), compareTokens_cons, Token.order]
    -- Tokens of different kinds decide by their kinds.
    all_goals
      simp_all [compareWithin, compareTokens_cons, Token.order, Token.rank, inRun]
      rfl

/-- The order of versions is that of their tokens. -/
theorem order_eq (a b : String) : order a b = compareTokens (tokensOf a) (tokensOf b) := by
  rw [tokensOf, tokensOf, bytes_toList, bytes_toList, order]
  split
  next same =>
    rw [same]
    exact Std.ReflCmp.compare_self.symm
  next => exact compareWithin_eq _ _ _ (Nat.lt_succ_self _)

theorem order_eq_eq_iff {a b : String} : order a b = .eq ↔ tokensOf a = tokensOf b := by
  rw [order_eq]
  exact Std.LawfulEqCmp.compare_eq_iff_eq

instance : Std.TransCmp order where
  eq_swap {a b} := by
    rw [order_eq, order_eq]
    exact Std.OrientedCmp.eq_swap
  isLE_trans {a b c} first second := by
    rw [order_eq] at first second ⊢
    exact Std.TransCmp.isLE_trans first second

/-- Versions are compared by their tokens. It is a total preorder, and versions are equal in it exactly
when they have the same tokens. -/
theorem order_by_tokens :
    (∀ a b, order a b = compareTokens (tokensOf a) (tokensOf b)) ∧
      (∀ a, order a a = .eq) ∧
      (∀ a b, order a b = (order b a).swap) ∧
      (∀ a b c, (order a b).isLE → (order b c).isLE → (order a c).isLE) ∧
      ∀ a b, order a b = .eq ↔ tokensOf a = tokensOf b :=
  ⟨order_eq, fun _ => Std.ReflCmp.compare_self, fun _ _ => Std.OrientedCmp.eq_swap,
    fun _ _ _ => Std.TransCmp.isLE_trans, fun _ _ => order_eq_eq_iff⟩

example : tokensOf "1.010~rc1^é" =
    [.number 1, .number 10, .tilde, .letters [114, 99], .number 1, .caret, .finish] := by
  cbv

end FleetRoster.Package.Version
