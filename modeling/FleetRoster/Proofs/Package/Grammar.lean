import Mathlib.Data.List.TakeWhile
import Mathlib.Data.Nat.Digits.Defs
import FleetRoster.Proofs.Package.Digits

/-!
# The grammar of identifiers

An identifier is written `name-version-release.arch`, with an epoch and a colon before the name or
before the version or before both. No part but a name holds a dash, only the architecture holds no
dot, and no part holds a colon. So an identifier can be written in one way only, and reading finds
it: it cuts at the last dot and at the last two dashes. What cannot be written so is not read.
-/

namespace FleetRoster.Package

/-! ## Writings -/

/-- A number in decimal digits. -/
def IsNumeral (text : String) : Prop :=
  text ≠ "" ∧ ∀ c ∈ text.toList, '0' ≤ c ∧ c ≤ '9'

/-- The number that a numeral stands for. -/
def numeral (digits : String) : Nat :=
  Nat.ofDigits 10 (digits.toList.reverse.map fun c => c.toNat - '0'.toNat)

/-- The name of a package. -/
def IsName (text : String) : Prop :=
  text ≠ "" ∧ ':' ∉ text.toList

/-- A version. -/
def IsVersion (text : String) : Prop :=
  text ≠ "" ∧ '-' ∉ text.toList ∧ ':' ∉ text.toList

/-- A release, which may be empty. -/
def IsRelease (text : String) : Prop :=
  '-' ∉ text.toList ∧ ':' ∉ text.toList

/-- An architecture: small letters, digits and underscores. -/
def IsArch (text : String) : Prop :=
  text ≠ "" ∧ ∀ c ∈ text.toList, ('a' ≤ c ∧ c ≤ 'z') ∨ ('0' ≤ c ∧ c ≤ '9') ∨ c = '_'

/-- The parts that an identifier is written in. -/
structure Writing where
  /-- The epoch before the name. -/
  outer : Option String
  name : String
  /-- The epoch before the version. -/
  inner : Option String
  version : String
  release : String
  arch : String

namespace Writing

/-- An epoch with its colon, if there is one. -/
def marked : Option String → String
  | none => ""
  | some digits => digits ++ ":"

/-- The identifier that is written in these parts. -/
def text (w : Writing) : String :=
  marked w.outer ++ w.name ++ "-" ++ marked w.inner ++ w.version ++ "-" ++ w.release ++ "." ++ w.arch

/-- Each part is of its kind. -/
structure IsProper (w : Writing) : Prop where
  outer : ∀ digits ∈ w.outer, IsNumeral digits
  name : IsName w.name
  inner : ∀ digits ∈ w.inner, IsNumeral digits
  version : IsVersion w.version
  release : IsRelease w.release
  arch : IsArch w.arch

/-- The epoch that counts: the one before the name, or else the one before the version. -/
def epoch? (w : Writing) : Option String :=
  w.outer.or w.inner

/-- What the parts say: a package, unless their epoch is past thirty-two bits. -/
def package (w : Writing) : Except ReadError Package :=
  match w.epoch? with
  | none => .ok ⟨w.name, 0, w.version, w.release, w.arch⟩
  | some digits =>
    if numeral digits ≤ 2 ^ 32 - 1 then
      .ok ⟨w.name, UInt32.ofNat (numeral digits), w.version, w.release, w.arch⟩
    else .error (.epochTooLarge digits w.text)

end Writing

/-- Reading a text goes by the grammar. -/
structure ReadsByGrammar (text : String) : Prop where
  /-- There is at most one way to write a text. -/
  unique {w v : Writing} (proper : w.IsProper) (alsoProper : v.IsProper) (written : w.text = text)
    (alsoWritten : v.text = text) : w = v
  /-- A text that can be written is read as its parts say. -/
  written {w : Writing} (proper : w.IsProper) (written : w.text = text) : read text = w.package
  /-- A text that cannot be written is malformed. -/
  unwritten (unwritten : ∀ w : Writing, w.IsProper → w.text ≠ text) :
    read text = .error (.malformed text)
  /-- The dot before the architecture is the last one. -/
  dot {w : Writing} (proper : w.IsProper) (written : w.text = text) {before after : String}
    (cut : text = before ++ "." ++ after) (last : '.' ∉ after.toList) : after = w.arch
  /-- The dashes before version and release are the last two. -/
  dashes {w : Writing} (proper : w.IsProper) (written : w.text = text)
    {before between after : String} (cut : text = before ++ "-" ++ between ++ "-" ++ after)
    (last : '-' ∉ after.toList) (lastButOne : '-' ∉ between.toList) :
    before = Writing.marked w.outer ++ w.name ∧ between = Writing.marked w.inner ++ w.version ∧
      after = w.release ++ "." ++ w.arch

/-! ## Kinds of characters -/

theorem isDigit_iff_le {c : Char} : c.isDigit = true ↔ '0' ≤ c ∧ c ≤ '9' := by
  rw [Char.isDigit, Bool.and_eq_true, decide_eq_true_iff, decide_eq_true_iff]
  rfl

theorem isArchChar_iff {c : Char} :
    isArchChar c = true ↔ ('a' ≤ c ∧ c ≤ 'z') ∨ ('0' ≤ c ∧ c ≤ '9') ∨ c = '_' := by
  have lower : c.isLower = true ↔ 'a' ≤ c ∧ c ≤ 'z' :=
    Bool.and_eq_true_iff.trans (and_congr decide_eq_true_iff decide_eq_true_iff)
  rw [isArchChar, Bool.or_eq_true, Bool.or_eq_true, lower, isDigit_iff_le, beq_iff_eq, or_assoc]

/-- A numeral is a run of digits. -/
theorem isNumeral_iff {text : String} :
    IsNumeral text ↔ text.toList ≠ [] ∧ ∀ c ∈ text.toList, c.isDigit = true := by
  rw [IsNumeral, Ne, ← String.toList_inj]
  simp only [isDigit_iff_le]
  rfl

/-- The number of a numeral, one digit after another. -/
theorem digitsValue_toList (digits : String) : digitsValue digits.toList = numeral digits := by
  rw [numeral]
  induction digits.toList with
  | nil => rfl
  | cons d ds ih =>
      rw [digitsValue_cons, ih, List.reverse_cons, List.map_append, Nat.ofDigits_append,
        List.length_map, List.length_reverse, Nat.mul_comm, Nat.add_comm]
      simp

/-! ## Cuts -/

section

variable {c : Char} {cs before after part : List Char}

/-- What is left after the characters before `c` begins with it. -/
theorem eq_of_dropWhile {x : Char} {rest : List Char} (left : cs.dropWhile (· != c) = x :: rest) :
    x = c ∧ cs = cs.takeWhile (· != c) ++ c :: rest := by
  have stops : x = c := by
    have stopped := List.head?_dropWhile_not (· != c) cs
    rw [left] at stopped
    simpa using stopped
  have whole := List.takeWhile_append_dropWhile (p := (· != c)) (l := cs)
  rw [left, stops] at whole
  exact ⟨stops, whole.symm⟩

theorem bne_of_notMem (absent : c ∉ part) : ∀ x ∈ part, (x != c) = true := by
  intro x mem
  rw [bne_iff_ne]
  rintro rfl
  exact absent mem

theorem takeWhile_of_notMem (absent : c ∉ before) (after : List Char) :
    (before ++ c :: after).takeWhile (· != c) = before := by
  rw [List.takeWhile_append_of_pos (bne_of_notMem absent), List.takeWhile_cons_of_neg (by simp),
    List.append_nil]

theorem dropWhile_of_notMem (absent : c ∉ before) (after : List Char) :
    (before ++ c :: after).dropWhile (· != c) = c :: after := by
  rw [List.dropWhile_append_of_pos (bne_of_notMem absent), List.dropWhile_cons_of_neg (by simp)]

/-- A cut is at the last occurrence. -/
theorem splitLast?_eq_some_iff :
    splitLast? c cs = some (before, after) ↔ cs = before ++ c :: after ∧ c ∉ after := by
  constructor
  · intro cut
    unfold splitLast? at cut
    split at cut
    · contradiction
    next x rest left =>
      cases cut
      constructor
      · simpa using congrArg List.reverse (eq_of_dropWhile left).2
      · intro mem
        rw [List.mem_reverse] at mem
        simpa using List.mem_takeWhile_imp mem
  · rintro ⟨rfl, absent⟩
    have last : c ∉ after.reverse := by rwa [List.mem_reverse]
    have turned : (before ++ c :: after).reverse = after.reverse ++ c :: before.reverse := by simp
    simp only [splitLast?, turned, dropWhile_of_notMem last, takeWhile_of_notMem last,
      List.reverse_reverse]

theorem splitLast?_of_notMem (before : List Char) (last : c ∉ after) :
    splitLast? c (before ++ c :: after) = some (before, after) :=
  splitLast?_eq_some_iff.mpr ⟨rfl, last⟩

/-- The characters of an epoch with its colon, if there is one. -/
def markedChars : Option (List Char) → List Char
  | none => []
  | some digits => digits ++ [':']

/-- What is before a colon is an epoch, and what is after it holds no other colon. -/
theorem splitEpoch?_eq_some_iff {epoch : Option (List Char)} :
    splitEpoch? cs = some (epoch, part) ↔
      cs = markedChars epoch ++ part ∧
        (∀ digits ∈ epoch, digits ≠ [] ∧ ∀ d ∈ digits, d.isDigit = true) ∧ ':' ∉ part := by
  constructor
  · intro cut
    unfold splitEpoch? at cut
    split at cut
    next none =>
      cases cut
      refine ⟨rfl, nofun, fun mem => ?_⟩
      simpa using List.dropWhile_eq_nil_iff.mp none ':' mem
    next x rest left =>
      simp only [Option.ite_none_right_eq_some, Bool.and_eq_true, Bool.not_eq_true',
        List.isEmpty_eq_false_iff, List.all_eq_true, bne_iff_ne, Option.some.injEq,
        Prod.mk.injEq] at cut
      obtain ⟨⟨⟨some, digits⟩, noColon⟩, rfl, rfl⟩ := cut
      refine ⟨?_, ?_, fun mem => noColon ':' mem rfl⟩
      · rw [markedChars, List.append_assoc]
        exact (eq_of_dropWhile left).2
      · rintro _ ⟨⟩
        exact ⟨some, digits⟩
  · rintro ⟨rfl, proper, noColon⟩
    cases epoch with
    | none =>
        have absent : part.dropWhile (· != ':') = [] :=
          List.dropWhile_eq_nil_iff.mpr (bne_of_notMem noColon)
        simp only [splitEpoch?, markedChars, List.nil_append, absent]
    | some digits =>
        obtain ⟨some, areDigits⟩ := proper digits rfl
        have colonless : ':' ∉ digits := fun mem => absurd (areDigits ':' mem) (by decide)
        have written : markedChars (.some digits) ++ part = digits ++ ':' :: part := by
          rw [markedChars, List.append_assoc]
          rfl
        have allowed : (!digits.isEmpty && digits.all (·.isDigit) && part.all (· != ':')) = true := by
          have passes := bne_of_notMem noColon
          simpa using ⟨⟨some, areDigits⟩, by simpa using passes⟩
        simp only [splitEpoch?, written, dropWhile_of_notMem colonless,
          takeWhile_of_notMem colonless, allowed, if_true]

/-- A text has one last occurrence of a character. -/
theorem cut_unique {before' after' : List Char} (same : before ++ c :: after = before' ++ c :: after')
    (last : c ∉ after) (alsoLast : c ∉ after') : before = before' ∧ after = after' := by
  have cut := splitLast?_of_notMem before last
  have alsoCut := splitLast?_eq_some_iff.mpr ⟨same, alsoLast⟩
  simpa using cut.symm.trans alsoCut

end

/-! ## Reading writings -/

namespace Writing

/-- The characters of an epoch. -/
def chars (epoch : Option String) : Option (List Char) :=
  epoch.map String.toList

theorem toList_marked (epoch : Option String) :
    (marked epoch).toList = markedChars (chars epoch) := by
  cases epoch with
  | none => rfl
  | some digits => exact String.toList_append

theorem chars_injective {epoch other : Option String} (same : chars epoch = chars other) :
    epoch = other :=
  Option.map_injective (fun _ _ => String.toList_inj.mp) same

/-- The characters of an identifier, as it is cut. -/
theorem toList_text (w : Writing) :
    w.text.toList =
      (((markedChars (chars w.outer) ++ w.name.toList) ++
        '-' :: (markedChars (chars w.inner) ++ w.version.toList)) ++
        '-' :: w.release.toList) ++ '.' :: w.arch.toList := by
  simp [text, toList_marked]

namespace IsProper

variable {w v : Writing} (proper : w.IsProper)
include proper

theorem dot_notMem_arch : '.' ∉ w.arch.toList := by
  intro mem
  exact absurd (proper.arch.2 '.' mem) (by decide)

theorem dash_notMem_arch : '-' ∉ w.arch.toList := by
  intro mem
  exact absurd (proper.arch.2 '-' mem) (by decide)

theorem dash_notMem_tail : '-' ∉ markedChars (chars w.inner) ++ w.version.toList := by
  rw [List.mem_append, not_or]
  constructor
  · intro mem
    cases epoch : w.inner with
    | none => simp [epoch, chars, markedChars] at mem
    | some digits =>
        have inDigits : '-' ∈ digits.toList := by simpa [epoch, chars, markedChars] using mem
        exact absurd ((proper.inner digits epoch).2 '-' inDigits) (by decide)
  · exact proper.version.2.1

theorem dash_notMem_end : '-' ∉ w.release.toList ++ '.' :: w.arch.toList := by
  simpa using ⟨proper.release.1, proper.dash_notMem_arch⟩

theorem splitEpoch?_lead : splitEpoch? (markedChars (chars w.outer) ++ w.name.toList) =
    some (chars w.outer, w.name.toList) := by
  rw [splitEpoch?_eq_some_iff]
  refine ⟨rfl, ?_, proper.name.2⟩
  intro digits found
  obtain ⟨text, outer, rfl⟩ := Option.map_eq_some_iff.mp found
  exact isNumeral_iff.mp (proper.outer text outer)

theorem splitEpoch?_tail : splitEpoch? (markedChars (chars w.inner) ++ w.version.toList) =
    some (chars w.inner, w.version.toList) := by
  rw [splitEpoch?_eq_some_iff]
  refine ⟨rfl, ?_, proper.version.2.2⟩
  intro digits found
  obtain ⟨text, inner, rfl⟩ := Option.map_eq_some_iff.mp found
  exact isNumeral_iff.mp (proper.inner text inner)

/-- A text is written in one way only. -/
theorem eq_of_text (alsoProper : v.IsProper) (same : w.text = v.text) : w = v := by
  have chars := String.toList_inj.mpr same
  rw [toList_text, toList_text] at chars
  obtain ⟨stem, arch⟩ := cut_unique chars proper.dot_notMem_arch alsoProper.dot_notMem_arch
  obtain ⟨front, release⟩ := cut_unique stem proper.release.1 alsoProper.release.1
  obtain ⟨lead, tail⟩ := cut_unique front proper.dash_notMem_tail alsoProper.dash_notMem_tail
  have leads := proper.splitEpoch?_lead
  rw [lead, alsoProper.splitEpoch?_lead, Option.some.injEq, Prod.mk.injEq] at leads
  have tails := proper.splitEpoch?_tail
  rw [tail, alsoProper.splitEpoch?_tail, Option.some.injEq, Prod.mk.injEq] at tails
  cases w
  cases v
  simp only [Writing.mk.injEq]
  exact ⟨(chars_injective leads.1).symm, (String.toList_inj.mp leads.2).symm,
    (chars_injective tails.1).symm, (String.toList_inj.mp tails.2).symm,
    String.toList_inj.mp release, String.toList_inj.mp arch⟩

/-- What is written is cut into its parts. -/
theorem split?_text : split? w.text.toList =
    some (chars w.epoch?, w.name.toList, w.version.toList, w.release.toList, w.arch.toList) := by
  have stem := splitLast?_eq_some_iff.mpr ⟨w.toList_text, proper.dot_notMem_arch⟩
  have front := splitLast?_of_notMem
    ((markedChars (chars w.outer) ++ w.name.toList) ++
      '-' :: (markedChars (chars w.inner) ++ w.version.toList)) proper.release.1
  have lead := splitLast?_of_notMem (markedChars (chars w.outer) ++ w.name.toList)
    proper.dash_notMem_tail
  have epoch : (chars w.outer <|> chars w.inner) = chars w.epoch? := by
    rw [epoch?]
    cases w.outer <;> rfl
  have allowed : (!w.arch.toList.isEmpty && w.arch.toList.all isArchChar &&
      w.release.toList.all (· != ':') && !w.version.toList.isEmpty && !w.name.toList.isEmpty) =
        true := by
    have archChars : ∀ c ∈ w.arch.toList, isArchChar c = true :=
      fun c mem => isArchChar_iff.mpr (proper.arch.2 c mem)
    have noColon : ∀ c ∈ w.release.toList, c ≠ ':' := by
      rintro c mem rfl
      exact proper.release.2 mem
    simpa [and_assoc] using
      ⟨proper.arch.1, archChars, noColon, proper.version.1, proper.name.1⟩
  simp only [split?, stem, front, lead, proper.splitEpoch?_lead, proper.splitEpoch?_tail,
    Option.bind_eq_bind, Option.bind_some, allowed, if_true, epoch]

/-- What is written is read as its parts say. -/
theorem read_text : read w.text = w.package := by
  rw [read, proper.split?_text, package]
  cases w.epoch? with
  | none =>
      have zero : digitsValue ((chars none).getD []) = 0 := rfl
      simp only [zero, String.ofList_toList]
      rfl
  | some digits =>
      have given : (chars (some digits)).getD [] = digits.toList := rfl
      have below : numeral digits < Nat.pow 2 32 ↔ numeral digits ≤ 2 ^ 32 - 1 :=
        Nat.lt_succ_iff
      simp only [given, digitsValue_toList, String.ofList_toList, below]

end IsProper

/-- Parts that are cut from a text write it. -/
theorem exists_of_split? {text : String}
    {parts : Option (List Char) × List Char × List Char × List Char × List Char}
    (found : split? text.toList = some parts) : ∃ w : Writing, w.IsProper ∧ w.text = text := by
  simp only [split?, Option.bind_eq_bind, Option.bind_eq_some_iff, Prod.exists,
    splitLast?_eq_some_iff, splitEpoch?_eq_some_iff, Option.ite_none_right_eq_some,
    Bool.and_eq_true, Bool.not_eq_true', List.isEmpty_eq_false_iff, List.all_eq_true,
    bne_iff_ne] at found
  obtain ⟨stem, arch, ⟨whole, -⟩, front, release, ⟨rfl, releaseDash⟩, lead, tail,
    ⟨rfl, tailDash⟩, inner, version, ⟨rfl, innerDigits, versionColon⟩, outer, name,
    ⟨rfl, outerDigits, nameColon⟩,
    ⟨⟨⟨⟨someArch, archChars⟩, releaseColon⟩, someVersion⟩, someName⟩, -⟩ := found
  refine ⟨⟨outer.map String.ofList, String.ofList name, inner.map String.ofList,
    String.ofList version, String.ofList release, String.ofList arch⟩, ?_, ?_⟩
  · have numerals {epoch : Option (List Char)}
        (areDigits : ∀ digits ∈ epoch, digits ≠ [] ∧ ∀ d ∈ digits, d.isDigit = true) :
        ∀ digits ∈ epoch.map String.ofList, IsNumeral digits := by
      intro digits found
      obtain ⟨ds, mem, rfl⟩ := Option.map_eq_some_iff.mp found
      simpa [isNumeral_iff] using areDigits ds mem
    have versionDash : '-' ∉ version := fun mem => tailDash (List.mem_append_right _ mem)
    have releaseNoColon : ':' ∉ release := fun mem => releaseColon ':' mem rfl
    constructor
    · exact numerals outerDigits
    · simpa [IsName] using ⟨someName, nameColon⟩
    · exact numerals innerDigits
    · simpa [IsVersion] using ⟨someVersion, versionDash, versionColon⟩
    · simpa [IsRelease] using ⟨releaseDash, releaseNoColon⟩
    · simpa [IsArch, ← isArchChar_iff] using ⟨someArch, archChars⟩
  · rw [← String.toList_inj, toList_text, whole]
    have chars (epoch : Option (List Char)) : chars (epoch.map String.ofList) = epoch := by
      cases epoch <;> simp [Writing.chars]
    simp [chars]

end Writing

/-! ## The grammar -/

/-- Reading goes by the grammar, whatever the text is. -/
theorem read_by_grammar (text : String) : ReadsByGrammar text := by
  constructor
  case unique =>
    intro w v proper alsoProper written alsoWritten
    exact proper.eq_of_text alsoProper (written.trans alsoWritten.symm)
  case written =>
    rintro w proper rfl
    exact proper.read_text
  case unwritten =>
    intro unwritten
    cases found : split? text.toList with
    | none => rw [read, found]
    | some parts =>
        obtain ⟨w, proper, written⟩ := Writing.exists_of_split? found
        exact absurd written (unwritten w proper)
  case dot =>
    rintro w proper rfl before after cut last
    have chars := w.toList_text
    rw [cut, String.toList_append, String.toList_append, List.append_assoc] at chars
    exact String.toList_inj.mp (cut_unique chars last proper.dot_notMem_arch).2
  case dashes =>
    rintro w proper rfl before between after cut last lastButOne
    have chars := String.toList_inj.mpr cut
    have dashes : (before.toList ++ '-' :: between.toList) ++ '-' :: after.toList =
        ((markedChars (Writing.chars w.outer) ++ w.name.toList) ++
          '-' :: (markedChars (Writing.chars w.inner) ++ w.version.toList)) ++
          '-' :: (w.release.toList ++ '.' :: w.arch.toList) := by
      rw [Writing.toList_text] at chars
      simpa using chars.symm
    obtain ⟨front, tail⟩ := cut_unique dashes last proper.dash_notMem_end
    obtain ⟨lead, middle⟩ := cut_unique front lastButOne proper.dash_notMem_tail
    simp [← String.toList_inj, Writing.toList_marked, lead, middle, tail]

example : read "7:lib-2-0:1.0-.el9.x86_64" = .ok ⟨"lib-2", 7, "1.0", ".el9", "x86_64"⟩ := by
  decide +kernel

end FleetRoster.Package
