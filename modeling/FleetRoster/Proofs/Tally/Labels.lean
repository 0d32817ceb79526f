import Mathlib.Data.String.Basic
import FleetRoster.Tally

/-!
# Counts under labels

Counts are kept in the order of their labels, each of which comes once. One more under a label is one
more under this label and nothing under any other, and one more in all.
-/

namespace FleetRoster

/-! ## Orders of labels -/

/-- Labels can be put in order. -/
structure IsOrder {κ : Type} (isBefore : κ → κ → Bool) : Prop where
  irrefl : ∀ a, ¬ isBefore a a
  trans : ∀ {a b c}, isBefore a b → isBefore b c → isBefore a c
  total : ∀ {a b}, ¬ isBefore a b → a ≠ b → isBefore b a

/-- Pairs of labels are ordered by the first, and then by the second. -/
theorem isOrder_labelsBefore : IsOrder labelsBefore where
  irrefl a := by simp [labelsBefore]
  trans := by
    intro a b c first second
    simp only [labelsBefore, Bool.or_eq_true, Bool.and_eq_true, decide_eq_true_eq] at first second ⊢
    rcases first with first | ⟨same, first⟩
    · rcases second with second | ⟨same, second⟩
      · exact .inl (first.trans second)
      · exact .inl (same ▸ first)
    · rcases second with second | ⟨same', second⟩
      · exact .inl (same ▸ second)
      · exact .inr ⟨same.trans same', first.trans second⟩
  total := by
    intro a b notBefore other
    simp only [labelsBefore, Bool.or_eq_true, Bool.and_eq_true, decide_eq_true_eq, not_or,
      not_and] at notBefore ⊢
    rcases lt_trichotomy a.1 b.1 with lt | same | gt
    · exact absurd lt notBefore.1
    · rcases lt_trichotomy a.2 b.2 with lt | same' | gt
      · exact absurd lt (notBefore.2 same)
      · exact absurd (Prod.ext same same') other
      · exact .inr ⟨same.symm, gt⟩
    · exact .inl gt

/-- Single labels are ordered as texts. -/
theorem isOrder_text : IsOrder fun a b : String => decide (a < b) where
  irrefl a := by simp
  trans := by
    intro a b c first second
    simp only [decide_eq_true_eq] at first second ⊢
    exact first.trans second
  total := by
    intro a b notBefore other
    simp only [decide_eq_true_eq, not_lt] at notBefore ⊢
    exact lt_of_le_of_ne notBefore (Ne.symm other)

/-! ## Lists of counts -/

section

variable {κ : Type} {isBefore : κ → κ → Bool} {label other l : κ} {n : Nat}
  {counts rest : List (κ × Nat)}

/-- Counts in the order of their labels. -/
def IsAscending (isBefore : κ → κ → Bool) (counts : List (κ × Nat)) : Prop :=
  counts.Pairwise fun a b => isBefore a.1 b.1

/-- All counts together. -/
def totalCount (counts : List (κ × Nat)) : Nat :=
  counts.foldr (fun count total => count.2 + total) 0

variable [DecidableEq κ]

theorem countUnder_cons :
    countUnder label ((l, n) :: rest) = if l = label then n else countUnder label rest := by
  by_cases same : l = label <;> simp [countUnder, same]

theorem countUnder_of_absent (absent : ∀ count ∈ counts, count.1 ≠ label) :
    countUnder label counts = 0 := by
  have none : counts.find? (fun count => count.1 = label) = none := by simpa using absent
  rw [countUnder, none]
  rfl

/-- A label that comes before the first one is not there. -/
theorem countUnder_of_isBefore (order : IsOrder isBefore) (before : isBefore label l)
    (ascending : IsAscending isBefore ((l, n) :: rest)) :
    countUnder label ((l, n) :: rest) = 0 := by
  apply countUnder_of_absent
  rw [List.forall_mem_cons]
  constructor
  · rintro rfl
    exact order.irrefl _ before
  · rintro count mem rfl
    have later : isBefore l count.1 := List.rel_of_pairwise_cons ascending mem
    exact order.irrefl _ (order.trans before later)

/-- One more under a label counts under this label, and under no other. -/
theorem countUnder_addOne (order : IsOrder isBefore) (ascending : IsAscending isBefore counts) :
    countUnder other (addOne isBefore label counts) =
      countUnder other counts + if other = label then 1 else 0 := by
  fun_induction addOne isBefore label counts with
  | case1 =>
      rw [countUnder_cons]
      simp [countUnder, eq_comm]
  | case2 l n rest before =>
      rw [countUnder_cons]
      by_cases same : label = other
      · subst same
        simp [countUnder_of_isBefore order before ascending]
      · simp [same, Ne.symm same]
  | case3 n rest notBefore =>
      rw [countUnder_cons, countUnder_cons]
      by_cases same : label = other
      · simp [same]
      · simp [same, Ne.symm same]
  | case4 l n rest notBefore notSame ih =>
      rw [countUnder_cons, countUnder_cons, ih ascending.of_cons]
      by_cases same : l = other
      · subst same
        simp [Ne.symm notSame]
      · simp [same]

/-- One more under a label is one more in all. -/
theorem totalCount_addOne (isBefore : κ → κ → Bool) (label : κ) (counts : List (κ × Nat)) :
    totalCount (addOne isBefore label counts) = totalCount counts + 1 := by
  simp only [totalCount]
  fun_induction addOne isBefore label counts with
  | case1 => rfl
  | case2 l n rest before => exact Nat.add_comm 1 _
  | case3 n rest notBefore => exact Nat.add_right_comm n 1 _
  | case4 l n rest notBefore notSame ih => rw [List.foldr_cons, ih, List.foldr_cons, Nat.add_assoc]

theorem mem_addOne {count : κ × Nat} (mem : count ∈ addOne isBefore label counts) :
    count.1 = label ∨ ∃ old ∈ counts, old.1 = count.1 := by
  fun_induction addOne isBefore label counts with
  | case1 => exact .inl (congrArg (·.1) (List.mem_singleton.mp mem))
  | case2 l n rest before =>
      rcases List.mem_cons.mp mem with rfl | mem
      · exact .inl rfl
      · exact .inr ⟨count, mem, rfl⟩
  | case3 n rest notBefore =>
      rcases List.mem_cons.mp mem with rfl | mem
      · exact .inl rfl
      · exact .inr ⟨count, .tail _ mem, rfl⟩
  | case4 l n rest notBefore notSame ih =>
      rcases List.mem_cons.mp mem with rfl | mem
      · exact .inr ⟨(l, n), .head _, rfl⟩
      · rcases ih mem with same | ⟨old, mem, same⟩
        · exact .inl same
        · exact .inr ⟨old, .tail _ mem, same⟩

/-- One more under a label leaves the counts in their order. -/
theorem isAscending_addOne (order : IsOrder isBefore) (label : κ)
    (ascending : IsAscending isBefore counts) :
    IsAscending isBefore (addOne isBefore label counts) := by
  fun_induction addOne isBefore label counts with
  | case1 => exact List.pairwise_singleton _ _
  | case2 l n rest before =>
      refine List.pairwise_cons.mpr ⟨?_, ascending⟩
      rw [List.forall_mem_cons]
      refine ⟨before, fun count mem => ?_⟩
      exact order.trans before (List.rel_of_pairwise_cons ascending mem)
  | case3 n rest notBefore =>
      obtain ⟨first, later⟩ := List.pairwise_cons.mp ascending
      exact List.pairwise_cons.mpr ⟨first, later⟩
  | case4 l n rest notBefore notSame ih =>
      obtain ⟨first, later⟩ := List.pairwise_cons.mp ascending
      refine List.pairwise_cons.mpr ⟨fun count mem => ?_, ih later⟩
      rcases mem_addOne mem with same | ⟨old, mem, same⟩
      · rw [same]
        exact order.total notBefore notSame
      · rw [← same]
        exact first old mem

end

namespace Tally

/-- The number of messages that were handled. -/
def total (t : Tally) : Nat :=
  totalCount t.handled

end Tally

end FleetRoster
