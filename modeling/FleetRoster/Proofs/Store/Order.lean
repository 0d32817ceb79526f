import Mathlib.Data.List.Sort
import FleetRoster.Store.Record

/-!
# Sorting by numbers

Values that are sorted by their numbers are the same values in ascending order. If their numbers are
distinct there is only one such order, so that nothing depends on the order they were in before.
-/

namespace FleetRoster

variable {α : Type} {number : α → Int} {as bs : List α}

theorem insertByNumber_eq_orderedInsert (number : α → Int) (a : α) (as : List α) :
    insertByNumber number a as = as.orderedInsert (fun a b => number a ≤ number b) a := by
  induction as with
  | nil => rfl
  | cons b rest ih => rw [insertByNumber, List.orderedInsert_cons, ih]

theorem sortByNumber_eq_insertionSort (number : α → Int) (as : List α) :
    sortByNumber number as = as.insertionSort fun a b => number a ≤ number b := by
  induction as with
  | nil => rfl
  | cons a rest ih =>
      rw [List.insertionSort_cons, ← ih, ← insertByNumber_eq_orderedInsert]
      rfl

/-- Sorting leaves out and adds nothing. -/
theorem perm_sortByNumber (number : α → Int) (as : List α) : (sortByNumber number as).Perm as := by
  rw [sortByNumber_eq_insertionSort]
  exact List.perm_insertionSort _ as

theorem pairwise_sortByNumber (number : α → Int) (as : List α) :
    (sortByNumber number as).Pairwise fun a b => number a ≤ number b := by
  have : Std.Total fun a b : α => number a ≤ number b :=
    ⟨fun a b => Int.le_total (number a) (number b)⟩
  have : IsTrans α fun a b => number a ≤ number b :=
    ⟨fun _ _ _ first second => Int.le_trans first second⟩
  rw [sortByNumber_eq_insertionSort]
  exact List.pairwise_insertionSort _ as

/-- Distinct numbers ascend when they are sorted. -/
theorem ascending_sortByNumber (distinct : (as.map number).Nodup) :
    ((sortByNumber number as).map number).Pairwise (· < ·) := by
  have still : ((sortByNumber number as).map number).Nodup :=
    ((perm_sortByNumber number as).map number).nodup_iff.mpr distinct
  rw [List.Nodup, List.pairwise_map] at still
  rw [List.pairwise_map]
  refine (still.and (pairwise_sortByNumber number as)).imp ?_
  intro a b ordered
  exact lt_of_le_of_ne ordered.2 ordered.1

/-- There is only one way to put values with distinct numbers in their order. -/
theorem sortByNumber_eq_of_perm (distinct : (as.map number).Nodup) (perm : as.Perm bs) :
    sortByNumber number as = sortByNumber number bs := by
  have same : (sortByNumber number as).Perm (sortByNumber number bs) :=
    (perm_sortByNumber number as).trans (perm.trans (perm_sortByNumber number bs).symm)
  refine same.eq_of_pairwise ?_ (pairwise_sortByNumber number as) (pairwise_sortByNumber number bs)
  intro a b memFirst memSecond le ge
  apply List.inj_on_of_nodup_map distinct ((perm_sortByNumber number as).mem_iff.mp memFirst)
    (perm.mem_iff.mpr ((perm_sortByNumber number bs).mem_iff.mp memSecond))
  exact Int.le_antisymm le ge

/-- Values that are in their order stay as they are. -/
theorem sortByNumber_eq_self (ascending : (as.map number).Pairwise (· < ·)) :
    sortByNumber number as = as := by
  rw [sortByNumber_eq_insertionSort]
  apply List.Pairwise.insertionSort_eq
  exact (List.pairwise_map.mp ascending).imp Int.le_of_lt

/-- Whatever order ascending values have got into, sorting restores theirs. -/
theorem sortByNumber_eq_of_ascending (ascending : (as.map number).Pairwise (· < ·))
    (perm : bs.Perm as) : sortByNumber number bs = as := by
  rw [← sortByNumber_eq_of_perm (ascending.imp ne_of_lt) perm.symm, sortByNumber_eq_self ascending]

end FleetRoster
