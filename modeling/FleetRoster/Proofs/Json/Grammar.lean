import FleetRoster.Json.Printer
import FleetRoster.Json.Sketch
import Mathlib.Algebra.Group.Int.Defs

/-!
# The texts of a value

A value has many texts: blanks may stand around every value and name, and a character of a string may
be given by itself, by a short escape or by its units of sixteen bits. The members of an object stand in
the order in which they are kept. What the printer writes is one of the texts of a value, provided that
its numbers are integers of sixty-four bits.
-/

namespace FleetRoster.Json

/-! ## Blanks and numbers -/

/-- Nothing but blanks. -/
def IsBlank (t : List Char) : Prop :=
  ∀ c ∈ t, Sketch.isSpace (some c) = true

/-- A text with blanks around it. -/
def Padded (p : List Char → Prop) (t : List Char) : Prop :=
  ∃ before inner after, IsBlank before ∧ p inner ∧ IsBlank after ∧ t = before ++ (inner ++ after)

/-- An integer of sixty-four bits, with a sign or without. -/
def IsWord (n : Int) : Prop :=
  -2 ^ 63 ≤ n ∧ n < 2 ^ 64

/-! ## Strings -/

/-- What may stand in a string for a character. -/
inductive CharSpelling : Char → List Char → Prop
  /-- A character that is neither quote nor backslash nor control character stands for itself. -/
  | plain {c : Char} (quote : c ≠ '"') (backslash : c ≠ '\\') (visible : 0x20 ≤ c.toNat) :
      CharSpelling c [c]
  /-- Some characters have a letter of their own. -/
  | short {c e : Char} (escape : Sketch.shortEscape? e = some c) : CharSpelling c ['\\', e]
  /-- A character of the first plane is a unit of sixteen bits. -/
  | unit {n : Nat} {h i j k : Char}
      (digits : Sketch.readUnit? (some h) (some i) (some j) (some k) = some n)
      (whole : n < 0xD800 ∨ 0xDFFF < n) : CharSpelling (Char.ofNat n) ['\\', 'u', h, i, j, k]
  /-- Any other character is a pair of units. -/
  | pair {m n : Nat} {h i j k h' i' j' k' : Char}
      (highDigits : Sketch.readUnit? (some h) (some i) (some j) (some k) = some m)
      (high : 0xD800 ≤ m ∧ m ≤ 0xDBFF)
      (lowDigits : Sketch.readUnit? (some h') (some i') (some j') (some k') = some n)
      (low : 0xDC00 ≤ n ∧ n ≤ 0xDFFF) :
      CharSpelling (Sketch.pairChar m n) ['\\', 'u', h, i, j, k, '\\', 'u', h', i', j', k']

/-- What may stand in a string for a sequence of characters. -/
inductive Spelling : List Char → List Char → Prop
  | nil : Spelling [] []
  | cons {c : Char} {cs own rest : List Char} (first : CharSpelling c own)
      (more : Spelling cs rest) : Spelling (c :: cs) (own ++ rest)

/-- A text between quotes. -/
def Quoted (s : String) (t : List Char) : Prop :=
  ∃ inner, Spelling s.toList inner ∧ t = '"' :: (inner ++ ['"'])

/-! ## Values -/

namespace Value

mutual

/-- The texts of a value, without blanks around them. -/
def Spelled : Value → List Char → Prop
  | .null, t => t = ['n', 'u', 'l', 'l']
  | .bool true, t => t = ['t', 'r', 'u', 'e']
  | .bool false, t => t = ['f', 'a', 'l', 's', 'e']
  | .number (.int n), t => IsWord n ∧ t = Number.intText n
  | .number (.double _), _ => False
  | .string s, t => Quoted s t
  | .array items, t => ∃ inner, ItemsSpelled items inner ∧ t = '[' :: (inner ++ [']'])
  | .object members, t =>
    ∃ inner, MembersSpelled members inner ∧ t = '\x7b' :: (inner ++ ['\x7d'])

/-- The texts of the items of an array. -/
def ItemsSpelled : List Value → List Char → Prop
  | [], t => IsBlank t
  | [v], t => Padded v.Spelled t
  | v :: w :: rest, t =>
    ∃ first more, Padded v.Spelled first ∧ ItemsSpelled (w :: rest) more ∧ t = first ++ ',' :: more

/-- The texts of the members of an object. -/
def MembersSpelled : List (String × Value) → List Char → Prop
  | [], t => IsBlank t
  | [(name, v)], t =>
    ∃ label body, Padded (Quoted name) label ∧ Padded v.Spelled body ∧ t = label ++ ':' :: body
  | (name, v) :: m :: rest, t =>
    ∃ label body more, Padded (Quoted name) label ∧ Padded v.Spelled body ∧
      MembersSpelled (m :: rest) more ∧ t = label ++ ':' :: (body ++ ',' :: more)

end

/-- The texts of a value. -/
def IsText (v : Value) (text : String) : Prop :=
  Padded v.Spelled text.toList

mutual

/-- Every number in a value is an integer of sixty-four bits. -/
def IsIntegral : Value → Prop
  | .number (.int n) => IsWord n
  | .number (.double _) => False
  | .array items => AreIntegral items
  | .object members => MembersIntegral members
  | _ => True

/-- Every number in the values of a list is an integer of sixty-four bits. -/
def AreIntegral : List Value → Prop
  | [] => True
  | v :: rest => v.IsIntegral ∧ AreIntegral rest

/-- Every number in the values of some members is an integer of sixty-four bits. -/
def MembersIntegral : List (String × Value) → Prop
  | [] => True
  | (_, v) :: rest => v.IsIntegral ∧ MembersIntegral rest

end

theorem areIntegral_iff {items : List Value} :
    AreIntegral items ↔ ∀ v ∈ items, v.IsIntegral := by
  induction items with
  | nil => simp [AreIntegral]
  | cons v rest ih => rw [AreIntegral, ih, List.forall_mem_cons]

theorem membersIntegral_iff {members : Members} :
    MembersIntegral members ↔ ∀ m ∈ members, m.2.IsIntegral := by
  induction members with
  | nil => simp [MembersIntegral]
  | cons m rest ih => rw [MembersIntegral, ih, List.forall_mem_cons]

@[simp]
theorem isIntegral_string (s : String) : (string s).IsIntegral :=
  trivial

@[simp]
theorem isIntegral_texts (items : List String) : (texts items).IsIntegral := by
  rw [texts, IsIntegral, areIntegral_iff]
  simp

theorem isIntegral_orNull {α : Type} {write : α → Value} {x : Option α}
    (integral : ∀ a, (write a).IsIntegral) : (orNull write x).IsIntegral := by
  cases x with
  | none => trivial
  | some a => exact integral a

end Value

/-! ## What is printed -/

theorem padded_of {p : List Char → Prop} {t : List Char} (spelled : p t) : Padded p t :=
  ⟨[], t, [], nofun, spelled, nofun, by simp⟩

/-- The unit of a control character has two zeros and the two digits of its number. -/
theorem readUnit?_of_control {n : Nat} (control : n < 0x20) :
    Sketch.readUnit? (some '0') (some '0') (some (Nat.digitChar (n / 16)))
      (some (Nat.digitChar (n % 16))) = some n := by
  revert n
  decide

/-- The printer's way to write a character. -/
theorem charSpelling_escaped (c : Char) : CharSpelling c (escaped c) := by
  -- seven characters have a letter of their own, the other control characters are units
  rw [escaped]
  split
  next quote =>
    subst quote
    exact .short rfl
  split
  next backslash =>
    subst backslash
    exact .short rfl
  split
  next backspace =>
    rw [← Char.ofNat_toNat c, backspace]
    exact .short rfl
  split
  next formFeed =>
    rw [← Char.ofNat_toNat c, formFeed]
    exact .short rfl
  split
  next newline =>
    subst newline
    exact .short rfl
  split
  next carriageReturn =>
    subst carriageReturn
    exact .short rfl
  split
  next tab =>
    subst tab
    exact .short rfl
  split
  next control =>
    have spelling := CharSpelling.unit (readUnit?_of_control control) (.inl (by omega))
    rwa [Char.ofNat_toNat] at spelling
  next quote backslash _ _ _ _ _ visible => exact .plain quote backslash (Nat.not_lt.mp visible)

theorem spelling_flatMap (cs : List Char) : Spelling cs (cs.flatMap escaped) := by
  induction cs with
  | nil => exact .nil
  | cons c cs ih => exact .cons (charSpelling_escaped c) ih

theorem quoted_stringText (s : String) : Quoted s (stringText s) :=
  ⟨_, spelling_flatMap s.toList, rfl⟩

namespace Value

mutual

/-- What is printed for a value is one of its texts. -/
theorem spelled_chars : (v : Value) → v.IsIntegral → v.Spelled v.chars
  | .null, _ => rfl
  | .bool true, _ => rfl
  | .bool false, _ => rfl
  | .number (.int _), word => ⟨word, rfl⟩
  | .string s, _ => quoted_stringText s
  | .array items, integral => ⟨_, itemsSpelled_itemChars items integral, rfl⟩
  | .object members, integral => ⟨_, membersSpelled_memberChars members integral, rfl⟩

theorem itemsSpelled_itemChars :
    (items : List Value) → AreIntegral items → ItemsSpelled items (itemChars items)
  | [], _ => nofun
  | [v], integral => padded_of (spelled_chars v integral.1)
  | v :: w :: rest, integral =>
    ⟨_, _, padded_of (spelled_chars v integral.1), itemsSpelled_itemChars (w :: rest) integral.2,
      rfl⟩

theorem membersSpelled_memberChars :
    (members : List (String × Value)) → MembersIntegral members →
      MembersSpelled members (memberChars members)
  | [], _ => nofun
  | [(name, v)], integral =>
    ⟨_, _, padded_of (quoted_stringText name), padded_of (spelled_chars v integral.1), rfl⟩
  | (name, v) :: m :: rest, integral =>
    ⟨_, _, _, padded_of (quoted_stringText name), padded_of (spelled_chars v integral.1),
      membersSpelled_memberChars (m :: rest) integral.2, rfl⟩

end

/-- What is printed for a value is one of its texts. -/
theorem isText_text {v : Value} (integral : v.IsIntegral) : v.IsText v.text := by
  rw [IsText, text, String.toList_ofList]
  exact padded_of (spelled_chars v integral)

end Value

end FleetRoster.Json
