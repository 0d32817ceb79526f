/-!
# Blank characters

The property White_Space of Unicode. It has more members than the six blanks of ASCII, and fewer
than the characters that look empty: the zero-width space is not blank.
-/

namespace FleetRoster.Text

/-- White_Space: the blanks of ASCII, U+0085, and the space, line and paragraph separators. -/
def isBlank (c : Char) : Bool :=
  let n := c.toNat
  (9 ≤ n && n ≤ 13) || n == 0x20 || n == 0x85 || n == 0xA0 || n == 0x1680
    || (0x2000 ≤ n && n ≤ 0x200A) || n == 0x2028 || n == 0x2029 || n == 0x202F || n == 0x205F
    || n == 0x3000

/-- The characters from the first one that is not blank. -/
def dropBlanks (cs : List Char) : List Char :=
  cs.dropWhile isBlank

/-- The characters without the blanks at both ends. -/
def trimBlanks (cs : List Char) : List Char :=
  (dropBlanks (dropBlanks cs).reverse).reverse

/-- A text without the blanks at both ends. -/
def trim (s : String) : String :=
  String.ofList (trimBlanks s.toList)

/-- The first text stands in the second one, with blanks on either side or none. -/
def IsSetOff (inner whole : String) : Prop :=
  ∃ before after : List Char, (∀ c ∈ before, isBlank c = true) ∧ (∀ c ∈ after, isBlank c = true) ∧
    whole.toList = before ++ inner.toList ++ after

/-- The characters of ASCII that can be seen are not blank. -/
theorem isBlank_of_visible {c : Char} (first : 0x21 ≤ c.toNat) (last : c.toNat ≤ 0x7E) :
    isBlank c = false := by
  simp only [isBlank, Bool.or_eq_false_iff, Bool.and_eq_false_iff, decide_eq_false_iff_not,
    beq_eq_false_iff_ne]
  omega

/-! ## Trimming -/

theorem dropBlanks_cons {c : Char} (visible : isBlank c = false) (rest : List Char) :
    dropBlanks (c :: rest) = c :: rest :=
  List.dropWhile_cons_of_neg (by simp [visible])

theorem dropBlanks_append {before : List Char} (blank : ∀ c ∈ before, isBlank c = true)
    (rest : List Char) : dropBlanks (before ++ rest) = dropBlanks rest :=
  List.dropWhile_append_of_pos blank

theorem dropBlanks_of_visible {cs : List Char} (visible : ∀ c ∈ cs, isBlank c = false) :
    dropBlanks cs = cs := by
  cases cs with
  | nil => rfl
  | cons c rest => exact dropBlanks_cons (visible c List.mem_cons_self) rest

/-- Characters none of which is blank are left when blanks around them are trimmed. -/
theorem trimBlanks_append {before cs after : List Char} (blank : ∀ c ∈ before, isBlank c = true)
    (alsoBlank : ∀ c ∈ after, isBlank c = true) (visible : ∀ c ∈ cs, isBlank c = false) :
    trimBlanks (before ++ cs ++ after) = cs := by
  have front : dropBlanks (before ++ cs ++ after) = dropBlanks (cs ++ after) := by
    rw [List.append_assoc, dropBlanks_append blank]
  cases cs with
  | nil =>
      rw [trimBlanks, front, List.nil_append, ← List.append_nil after, dropBlanks_append alsoBlank]
      rfl
  | cons c rest =>
      have reversed : ∀ d ∈ (c :: rest).reverse, isBlank d = false :=
        fun d mem => visible d (List.mem_reverse.mp mem)
      have back : ∀ d ∈ after.reverse, isBlank d = true :=
        fun d mem => alsoBlank d (List.mem_reverse.mp mem)
      rw [trimBlanks, front, List.cons_append, dropBlanks_cons (visible c List.mem_cons_self),
        ← List.cons_append, List.reverse_append, dropBlanks_append back,
        dropBlanks_of_visible reversed, List.reverse_reverse]

/-- What is trimmed away are blanks. -/
theorem isSetOff_trim (s : String) : IsSetOff (trim s) s := by
  have blanks : ∀ cs : List Char, ∀ c ∈ cs.takeWhile isBlank, isBlank c = true :=
    fun cs c mem => List.all_eq_true.mp List.all_takeWhile c mem
  let back := (dropBlanks s.toList).reverse
  have cut : dropBlanks s.toList = trimBlanks s.toList ++ (back.takeWhile isBlank).reverse := by
    have split : back.takeWhile isBlank ++ dropBlanks back = back := List.takeWhile_append_dropWhile
    rw [trimBlanks, ← List.reverse_append, split, List.reverse_reverse]
  refine ⟨s.toList.takeWhile isBlank, (back.takeWhile isBlank).reverse, blanks _, ?_, ?_⟩
  · exact fun c mem => blanks back c (List.mem_reverse.mp mem)
  · rw [trim, String.toList_ofList, List.append_assoc, ← cut]
    exact List.takeWhile_append_dropWhile.symm

/-- Trimming leaves a text without blanks exactly if it was set off by blanks. -/
theorem trim_eq_iff {inner whole : String} (visible : ∀ c ∈ inner.toList, isBlank c = false) :
    trim whole = inner ↔ IsSetOff inner whole := by
  constructor
  · rintro rfl
    exact isSetOff_trim whole
  · rintro ⟨before, after, blank, alsoBlank, spelled⟩
    rw [trim, spelled, trimBlanks_append blank alsoBlank visible, String.ofList_toList]

end FleetRoster.Text
