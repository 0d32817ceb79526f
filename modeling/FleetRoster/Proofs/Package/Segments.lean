import Mathlib.Data.List.TakeWhile
import FleetRoster.Proofs.Package.Version

/-!
# Versions in parts

Where no run of digits or letters goes on from one part of a version into the next, the tokens of the
whole are those of the parts, one after the other. So versions that begin alike are compared by what
comes after the delimiter; a tilde makes a version older than its beginning and a caret newer, but older
than any further run; and separators, as long as they cut no run, and leading zeros do not count.
-/

namespace FleetRoster.Package.Version

variable {c : Char} {lead rest : List Char}

/-! ## Parts of a version -/

/-- A text of nothing but separators, and not empty. -/
def IsSeparation (text : String) : Prop :=
  text ≠ "" ∧ ∀ c ∈ text.toList, isSeparator c = true

/-- What parts a version: a tilde, a caret or separators. -/
def IsDelimiter (text : String) : Prop :=
  text = "~" ∨ text = "^" ∨ IsSeparation text

/-- A text that begins with a letter or a digit. -/
def BeginsWithRun (text : String) : Prop :=
  ∃ c ∈ text.toList.head?, c.isAlphanum = true

/-- Two texts that no comparison of versions tells apart. -/
def Interchangeable (a b : String) : Prop :=
  ∀ c, order a c = order b c ∧ order c a = order c b

/-- No run of digits or letters goes on from one part into the next. -/
def Detached (lead rest : List Char) : Prop :=
  ∀ c ∈ lead.getLast?, ∀ d ∈ rest.head?,
    ¬ (c.isDigit = true ∧ d.isDigit = true) ∧ ¬ (c.isAlpha = true ∧ d.isAlpha = true)

/-- The laws of versions that are put together from parts. -/
structure OrderedByParts : Prop where
  /-- What versions have in common up to a delimiter does not count. -/
  common {d : String} (delimiter : IsDelimiter d) (p s t : String) :
    order (p ++ d ++ s) (p ++ d ++ t) = order s t
  /-- A tilde is older than the end of a version. -/
  tilde (p s : String) : order (p ++ "~" ++ s) p = .lt
  /-- A caret is newer than the end of a version. -/
  caret (p s : String) : order p (p ++ "^" ++ s) = .lt
  /-- A caret is older than a further run. -/
  run {x : String} (begins : BeginsWithRun x) (p s : String) :
    order (p ++ "^" ++ s) (p ++ "." ++ x) = .lt ∧ order (p ++ "~" ++ s) (p ++ "." ++ x) = .lt
  /-- Separators may be put wherever they do not cut a run. -/
  inserted {u w v : String} (detached : Detached u.toList v.toList)
    (separates : ∀ c ∈ w.toList, isSeparator c = true) : Interchangeable (u ++ w ++ v) (u ++ v)
  /-- It does not matter which separators there are, and how many. -/
  lengthened {w w' : String} (separates : IsSeparation w) (alsoSeparates : IsSeparation w')
    (u v : String) : Interchangeable (u ++ w ++ v) (u ++ w' ++ v)
  /-- Separators at the end do not count. -/
  trailing {w : String} (separates : ∀ c ∈ w.toList, isSeparator c = true) (u : String) :
    Interchangeable (u ++ w) u
  /-- Zeros in front of a run of digits do not count. -/
  zeros {u z v : String} (zeros : ∀ c ∈ z.toList, c = '0')
    (begins : ∃ d ∈ v.toList.head?, d.isDigit = true)
    (detached : ∀ c ∈ u.toList.getLast?, c.isDigit = false) :
    Interchangeable (u ++ z ++ v) (u ++ v)

/-! ## Where tokens end -/

/-- The tokens of a part that others follow: all but the one that says it is at its end. -/
def segments (lead : List Char) : List Token :=
  (charTokens lead).dropLast

theorem charTokens_ne_nil (cs : List Char) : charTokens cs ≠ [] := by
  have first := front cs
  generalize skipSeparators cs = skipped, charTokens cs = ts at first
  cases first <;> exact List.cons_ne_nil _ _

theorem Detached.of_suffix {shorter : List Char} (detached : Detached lead rest)
    (suffix : shorter <:+ lead) : Detached shorter rest := by
  intro c last d first
  refine detached c ?_ d first
  obtain ⟨before, rfl⟩ := suffix
  rw [List.getLast?_append, last]
  rfl

/-- A run that the part behind it does not go on with ends where its own part has it end. -/
theorem span_append {p : Char → Bool} (ends : (∀ x ∈ lead, p x) → ∀ d ∈ rest.head?, ¬ p d) :
    (lead ++ rest).takeWhile p = lead.takeWhile p ∧
      (lead ++ rest).dropWhile p = lead.dropWhile p ++ rest := by
  by_cases whole : ∀ x ∈ lead, p x
  · have stops := ends whole
    rw [List.takeWhile_append_of_pos whole, List.dropWhile_append_of_pos whole,
      List.takeWhile_eq_self_iff.mpr whole, List.dropWhile_eq_nil_iff.mpr whole]
    cases rest with
    | nil => simp
    | cons d rest => simp [stops d rfl]
  · have shorter : (lead.takeWhile p).length ≠ lead.length := by
      intro same
      apply whole
      rw [← List.takeWhile_eq_self_iff]
      exact (List.takeWhile_prefix p).eq_of_length same
    have left : ¬ (lead.dropWhile p).isEmpty := by
      rwa [List.isEmpty_iff, List.dropWhile_eq_nil_iff]
    rw [List.takeWhile_append, if_neg shorter, List.dropWhile_append, if_neg left]
    exact ⟨rfl, rfl⟩

/-- The run at the lead of a part is the run at the lead of the whole. -/
theorem run_append (digits : Bool) (detached : Detached (c :: lead) rest) :
    run digits (c :: lead ++ rest) = run digits (c :: lead) ∧
      afterRun digits (c :: lead ++ rest) = afterRun digits (c :: lead) ++ rest := by
  apply span_append
  intro whole d first belongs
  obtain ⟨last, isLast⟩ := Option.ne_none_iff_exists'.mp
    (mt List.getLast?_eq_none_iff.mp (List.cons_ne_nil c lead))
  have inside := whole last (List.mem_of_getLast? isLast)
  obtain ⟨notDigits, notLetters⟩ := detached last isLast d first
  cases digits with
  | true => exact notDigits ⟨inside, belongs⟩
  | false => exact notLetters ⟨inside, belongs⟩

theorem charTokens_append_of_head {t : Token} {tail : List Char}
    (own : charTokens lead = t :: charTokens tail)
    (whole : charTokens (lead ++ rest) = t :: charTokens (tail ++ rest))
    (ih : charTokens (tail ++ rest) = segments tail ++ charTokens rest) :
    charTokens (lead ++ rest) = segments lead ++ charTokens rest := by
  rw [whole, ih, segments, segments, own, List.dropLast_cons_of_ne_nil (charTokens_ne_nil tail),
    List.cons_append]

/-- The tokens of a whole are those of its parts, if no run goes on from one into the other. -/
theorem charTokens_append (detached : Detached lead rest) :
    charTokens (lead ++ rest) = segments lead ++ charTokens rest := by
  -- a run is taken at once, so the induction is on the length
  induction length : lead.length using Nat.strongRecOn generalizing lead with
  | ind n ih =>
    subst length
    cases lead with
    | nil => simp [segments, charTokens_nil]
    | cons c lead =>
      have tail := detached.of_suffix (List.suffix_cons c lead)
      have shorter := ih lead.length (by simp) tail rfl
      by_cases separates : isSeparator c = true
      · rw [List.cons_append, charTokens_separator separates, shorter, segments, segments,
          charTokens_separator separates]
      by_cases tilde : c = '~'
      · subst tilde
        exact charTokens_append_of_head (charTokens_tilde _) (charTokens_tilde _) shorter
      by_cases caret : c = '^'
      · subst caret
        exact charTokens_append_of_head (charTokens_caret _) (charTokens_caret _) shorter
      have counts : c.isDigit = true ∨ c.isAlpha = true := by
        rw [isSeparator_iff] at separates
        grind
      have afterRun_shorter : ∀ digits, inRun digits c = true →
          charTokens (afterRun digits (c :: lead) ++ rest) =
            segments (afterRun digits (c :: lead)) ++ charTokens rest := fun digits belongs =>
        ih _ (length_afterRun_lt digits belongs lead)
          (detached.of_suffix (List.dropWhile_suffix _)) rfl
      rcases counts with digit | letter
      · obtain ⟨sameRun, sameRest⟩ := run_append true detached
        refine charTokens_append_of_head (charTokens_digit digit lead) ?_
          (afterRun_shorter true digit)
        rw [← sameRun, ← sameRest]
        exact charTokens_digit digit (lead ++ rest)
      · obtain ⟨sameRun, sameRest⟩ := run_append false detached
        refine charTokens_append_of_head (charTokens_letter letter lead) ?_
          (afterRun_shorter false letter)
        rw [← sameRun, ← sameRest]
        exact charTokens_letter letter (lead ++ rest)

theorem charTokens_eq_segments (lead : List Char) :
    charTokens lead = segments lead ++ [.finish] := by
  have whole : charTokens (lead ++ []) = segments lead ++ charTokens [] :=
    charTokens_append fun c last d first => nomatch first
  rwa [List.append_nil, charTokens_nil] at whole

/-! ## Parts that only separate -/

theorem charTokens_separators {separators : List Char}
    (separate : ∀ c ∈ separators, isSeparator c = true) (rest : List Char) :
    charTokens (separators ++ rest) = charTokens rest := by
  induction separators with
  | nil => rfl
  | cons c separators ih =>
    rw [List.forall_mem_cons] at separate
    rw [List.cons_append, charTokens_separator separate.1, ih separate.2]

/-- Nothing goes on in a part that begins with neither a digit nor a letter. -/
theorem Detached.of_head (noDigit : c.isDigit = false) (noLetter : c.isAlpha = false) :
    Detached lead (c :: rest) := by
  rintro b - d first
  cases first
  simp [noDigit, noLetter]

theorem Detached.of_separator (separates : isSeparator c = true) : Detached lead (c :: rest) :=
  have kinds := isSeparator_iff.mp separates
  .of_head kinds.2.2.1 kinds.2.2.2

theorem Detached.separators {separators : List Char} (detached : Detached lead rest)
    (separate : ∀ c ∈ separators, isSeparator c = true) : Detached lead (separators ++ rest) := by
  cases separators with
  | nil => exact detached
  | cons c separators => exact .of_separator (separate c List.mem_cons_self)

/-- Separators that cut no run leave the tokens as they are. -/
theorem charTokens_inserted {separators : List Char} (detached : Detached lead rest)
    (separate : ∀ c ∈ separators, isSeparator c = true) :
    charTokens (lead ++ (separators ++ rest)) = charTokens (lead ++ rest) := by
  rw [charTokens_append (detached.separators separate), charTokens_separators separate,
    charTokens_append detached]

theorem IsSeparation.charTokens_append {w : String} (separates : IsSeparation w)
    (lead rest : List Char) :
    charTokens (lead ++ (w.toList ++ rest)) = segments lead ++ charTokens rest := by
  obtain ⟨there, separates⟩ := separates
  obtain ⟨c, separators, spelled⟩ :=
    List.exists_cons_of_ne_nil (mt String.toList_eq_nil_iff.mp there)
  rw [spelled] at separates ⊢
  have detached : Detached lead (c :: separators ++ rest) :=
    .of_separator (separates c List.mem_cons_self)
  rw [Version.charTokens_append detached, charTokens_separators separates]

theorem charTokens_append_tilde (lead rest : List Char) :
    charTokens (lead ++ '~' :: rest) = segments lead ++ .tilde :: charTokens rest := by
  rw [charTokens_append (.of_head rfl rfl), charTokens_tilde]

theorem charTokens_append_caret (lead rest : List Char) :
    charTokens (lead ++ '^' :: rest) = segments lead ++ .caret :: charTokens rest := by
  rw [charTokens_append (.of_head rfl rfl), charTokens_caret]

/-- A delimiter gives the same tokens wherever it stands. -/
theorem IsDelimiter.charTokens_append {d : String} (delimiter : IsDelimiter d) :
    ∃ ts, ∀ lead rest,
      charTokens (lead ++ (d.toList ++ rest)) = segments lead ++ (ts ++ charTokens rest) := by
  rcases delimiter with rfl | rfl | separates
  · exact ⟨[.tilde], charTokens_append_tilde⟩
  · exact ⟨[.caret], charTokens_append_caret⟩
  · exact ⟨[], separates.charTokens_append⟩

/-! ## Zeros -/

theorem charTokens_zero {d : Char} (digit : d.isDigit = true) (rest : List Char) :
    charTokens ('0' :: d :: rest) = charTokens (d :: rest) := by
  have longer : run true ('0' :: d :: rest) = '0' :: run true (d :: rest) :=
    List.takeWhile_cons_of_pos rfl
  have same : afterRun true ('0' :: d :: rest) = afterRun true (d :: rest) :=
    List.dropWhile_cons_of_pos rfl
  have value : digitsValue ('0' :: run true (d :: rest)) = digitsValue (run true (d :: rest)) := by
    have nothing : '0'.toNat - 48 = 0 := rfl
    rw [digitsValue_cons, nothing, Nat.zero_mul, Nat.zero_add]
  rw [charTokens_digit rfl, charTokens_digit digit, longer, same, value]

/-- Zeros in front of a digit leave the tokens as they are. -/
theorem charTokens_zeros {zeros : List Char} (zero : ∀ c ∈ zeros, c = '0') {d : Char}
    (digit : d.isDigit = true) (rest : List Char) :
    charTokens (zeros ++ d :: rest) = charTokens (d :: rest) := by
  induction zeros with
  | nil => rfl
  | cons c zeros ih =>
    rw [List.forall_mem_cons] at zero
    rw [zero.1, List.cons_append, ← ih zero.2]
    cases zeros with
    | nil => exact charTokens_zero digit rest
    | cons e zeros =>
      rw [(List.forall_mem_cons.mp zero.2).1]
      exact charTokens_zero rfl _

theorem Detached.of_digit {d : Char} (digit : d.isDigit = true)
    (noDigits : ∀ c ∈ lead.getLast?, c.isDigit = false) : Detached lead (d :: rest) := by
  rintro c last e first
  cases first
  refine ⟨fun both => ?_, fun both => ?_⟩
  · rw [noDigits c last] at both
    exact nomatch both.1
  · rw [isDigit_of_isAlpha both.2] at digit
    contradiction

/-- Zeros in front of a run of digits leave the tokens as they are. -/
theorem charTokens_append_zeros {zeros : List Char} (zero : ∀ c ∈ zeros, c = '0') {d : Char}
    (digit : d.isDigit = true) (noDigits : ∀ c ∈ lead.getLast?, c.isDigit = false) :
    charTokens (lead ++ (zeros ++ d :: rest)) = charTokens (lead ++ d :: rest) := by
  have detached : Detached lead (zeros ++ d :: rest) := by
    cases zeros with
    | nil => exact .of_digit digit noDigits
    | cons c zeros =>
      have alsoDigit : c.isDigit = true := zero c List.mem_cons_self ▸ rfl
      exact .of_digit alsoDigit noDigits
  rw [charTokens_append detached, charTokens_zeros zero digit,
    charTokens_append (.of_digit digit noDigits)]

/-! ## Comparing -/

theorem order_eq_charTokens (a b : String) :
    order a b = compareTokens (charTokens a.toList) (charTokens b.toList) := by
  rw [order_eq, tokensOf, tokensOf, bytes_toList, bytes_toList]
  rfl

theorem interchangeable_of_charTokens {a b : String}
    (same : charTokens a.toList = charTokens b.toList) : Interchangeable a b := by
  intro c
  rw [order_eq_charTokens, order_eq_charTokens, order_eq_charTokens, order_eq_charTokens, same]
  exact ⟨rfl, rfl⟩

theorem compareTokens_append_left (ts ss us : List Token) :
    compareTokens (ts ++ ss) (ts ++ us) = compareTokens ss us := by
  induction ts with
  | nil => rfl
  | cons t ts ih =>
    have same : t.order t = .eq := Std.ReflCmp.compare_self
    rw [List.cons_append, List.cons_append, compareTokens_cons, same, Ordering.eq_then, ih]

/-- What goes before decides, where it is what comes after a common beginning. -/
theorem compareTokens_of_lt {s t : Token} (less : s.order t = .lt) (ts ss us : List Token) :
    compareTokens (ts ++ s :: ss) (ts ++ t :: us) = .lt := by
  rw [compareTokens_append_left, compareTokens_cons, less, Ordering.lt_then]

/-- A version that begins with a run has a token that is newer than a caret and a tilde. -/
theorem BeginsWithRun.charTokens {x : String} (begins : BeginsWithRun x) :
    ∃ t ts, charTokens x.toList = t :: ts ∧ Token.order .caret t = .lt ∧
      Token.order .tilde t = .lt := by
  obtain ⟨c, first, counts⟩ := begins
  obtain ⟨rest, spelled⟩ := List.head?_eq_some_iff.mp first
  rw [spelled]
  rw [Char.isAlphanum, Bool.or_eq_true] at counts
  rcases counts with letter | digit
  · exact ⟨_, _, charTokens_letter letter rest, rfl, rfl⟩
  · exact ⟨_, _, charTokens_digit digit rest, rfl, rfl⟩

theorem isSeparation_dot : IsSeparation "." := by
  refine ⟨by decide, fun c mem => ?_⟩
  obtain rfl : c = '.' := by simpa using mem
  rfl

/-- Versions are ordered by their parts. -/
theorem versions_by_parts : OrderedByParts := by
  have tildeTokens (p s : String) : charTokens (p ++ "~" ++ s).toList =
      segments p.toList ++ .tilde :: charTokens s.toList := by
    rw [String.toList_append, String.toList_append, List.append_assoc]
    exact charTokens_append_tilde _ _
  have caretTokens (p s : String) : charTokens (p ++ "^" ++ s).toList =
      segments p.toList ++ .caret :: charTokens s.toList := by
    rw [String.toList_append, String.toList_append, List.append_assoc]
    exact charTokens_append_caret _ _
  have dotTokens (p x : String) : charTokens (p ++ "." ++ x).toList =
      segments p.toList ++ charTokens x.toList := by
    rw [String.toList_append, String.toList_append, List.append_assoc]
    exact isSeparation_dot.charTokens_append _ _
  constructor
  case common =>
    intro d delimiter p s t
    obtain ⟨ts, tokens⟩ := delimiter.charTokens_append
    simp only [order_eq_charTokens, String.toList_append, List.append_assoc, tokens,
      compareTokens_append_left]
  case tilde =>
    intro p s
    rw [order_eq_charTokens, tildeTokens, charTokens_eq_segments p.toList]
    exact compareTokens_of_lt rfl _ _ _
  case caret =>
    intro p s
    rw [order_eq_charTokens, caretTokens, charTokens_eq_segments p.toList]
    exact compareTokens_of_lt rfl _ _ _
  case run =>
    intro x begins p s
    obtain ⟨t, ts, tokens, afterCaret, afterTilde⟩ := begins.charTokens
    rw [order_eq_charTokens, order_eq_charTokens, caretTokens, tildeTokens, dotTokens, tokens]
    exact ⟨compareTokens_of_lt afterCaret _ _ _, compareTokens_of_lt afterTilde _ _ _⟩
  case inserted =>
    intro u w v detached separates
    apply interchangeable_of_charTokens
    simp only [String.toList_append, List.append_assoc]
    exact charTokens_inserted detached separates
  case lengthened =>
    intro w w' separates alsoSeparates u v
    apply interchangeable_of_charTokens
    simp only [String.toList_append, List.append_assoc, separates.charTokens_append,
      alsoSeparates.charTokens_append]
  case trailing =>
    intro w separates u
    apply interchangeable_of_charTokens
    have atEnd : charTokens (u.toList ++ (w.toList ++ [])) = charTokens (u.toList ++ []) :=
      charTokens_inserted nofun separates
    rwa [List.append_nil, List.append_nil, ← String.toList_append] at atEnd
  case zeros =>
    intro u z v zeros begins detached
    obtain ⟨d, first, digit⟩ := begins
    obtain ⟨rest, spelled⟩ := List.head?_eq_some_iff.mp first
    apply interchangeable_of_charTokens
    simp only [String.toList_append, List.append_assoc, spelled]
    exact charTokens_append_zeros zeros digit detached

end FleetRoster.Package.Version
