import Mathlib.Data.List.Pairwise
import FleetRoster.Proofs.Package.Order

/-!
# Updates

Among the builds of one package, being a newer build is a strict weak order: it never holds of a build
and itself, it is transitive, and builds of which neither is newer are alike, which is transitive too.
Updates never lead to another package, and they go up in the total order. So whatever is last in a
sorted list of builds of one package is a newest one.
-/

namespace FleetRoster.Package

open Std (TransCmp OrientedCmp)

variable {a b c : Package}

/-- Updates are a strict weak order on the builds of one package, and the total order goes on from
it. -/
structure UpdatesOrdered : Prop where
  /-- No build is newer than itself. -/
  irreflexive (a : Package) : a.isUpdatedBy a = false
  /-- A newer build of a newer build is newer. -/
  transitive {a b c : Package} (first : a.isUpdatedBy b = true) (second : b.isUpdatedBy c = true) :
    a.isUpdatedBy c = true
  /-- Of two builds of one package the one is newer, or the other, or they are alike, and never two
  of these at once. -/
  trichotomous {a b : Package} (named : a.name = b.name) :
    (a.isUpdatedBy b = true ∧ b.isUpdatedBy a = false ∧ compareBuilds a b ≠ .eq) ∨
      (a.isUpdatedBy b = false ∧ b.isUpdatedBy a = true ∧ compareBuilds a b ≠ .eq) ∨
      (a.isUpdatedBy b = false ∧ b.isUpdatedBy a = false ∧ compareBuilds a b = .eq)
  /-- Builds that are like one build are alike. -/
  alike {a b c : Package} (first : compareBuilds a b = .eq) (second : compareBuilds b c = .eq) :
    compareBuilds a c = .eq
  /-- Builds that are alike have the same updates and are updates of the same builds. -/
  respected {a a' b b' : Package} (first : compareBuilds a a' = .eq)
    (second : compareBuilds b b' = .eq) : a.isUpdatedBy b = a'.isUpdatedBy b'
  /-- No build is newer than one of another package. -/
  apart {a b : Package} (named : a.name ≠ b.name) :
    a.isUpdatedBy b = false ∧ b.isUpdatedBy a = false
  /-- A newer build is greater. -/
  ascending {a b : Package} (newer : a.isUpdatedBy b = true) : order a b = .lt
  /-- The last one in a sorted list of builds of one package is not updated by any of them, and it
  updates all those that are not like it. -/
  newest {ps : List Package} {name : String} (there : ps ≠ []) (named : ∀ p ∈ ps, p.name = name) :
    ∃ last, (sortBy order ps).getLast? = some last ∧ last ∈ ps ∧
      ∀ p ∈ ps, last.isUpdatedBy p = false ∧
        (p.isUpdatedBy last = true ∨ compareBuilds p last = .eq)

/-! ## Being newer -/

theorem isUpdatedBy_iff : a.isUpdatedBy b = true ↔ a.name = b.name ∧ compareBuilds a b = .lt := by
  rw [isUpdatedBy, Bool.and_eq_true, beq_iff_eq, beq_iff_eq]

theorem isUpdatedBy_eq_false_iff :
    a.isUpdatedBy b = false ↔ a.name = b.name → compareBuilds a b ≠ .lt := by
  rw [Bool.eq_false_iff, Ne, isUpdatedBy_iff, not_and]

/-- Builds are alike only if they are of one package. -/
theorem name_eq_of_compareBuilds (alike : compareBuilds a b = .eq) : a.name = b.name := by
  simp only [compareBuilds, Ordering.then_eq_eq] at alike
  exact Std.LawfulEqCmp.eq_of_compare alike.2.2.2

theorem isUpdatedBy_trans (first : a.isUpdatedBy b = true) (second : b.isUpdatedBy c = true) :
    a.isUpdatedBy c = true := by
  rw [isUpdatedBy_iff] at first second ⊢
  exact ⟨first.1.trans second.1, TransCmp.lt_trans first.2 second.2⟩

theorem isUpdatedBy_congr {a' b' : Package} (first : compareBuilds a a' = .eq)
    (second : compareBuilds b b' = .eq) : a.isUpdatedBy b = a'.isUpdatedBy b' := by
  rw [isUpdatedBy, isUpdatedBy, name_eq_of_compareBuilds first, name_eq_of_compareBuilds second,
    TransCmp.congr_left first, TransCmp.congr_right second]

/-- Two builds of one package are told apart by which of them is newer. -/
theorem isUpdatedBy_trichotomy (named : a.name = b.name) :
    (a.isUpdatedBy b = true ∧ b.isUpdatedBy a = false ∧ compareBuilds a b ≠ .eq) ∨
      (a.isUpdatedBy b = false ∧ b.isUpdatedBy a = true ∧ compareBuilds a b ≠ .eq) ∨
      (a.isUpdatedBy b = false ∧ b.isUpdatedBy a = false ∧ compareBuilds a b = .eq) := by
  have swapped : compareBuilds b a = (compareBuilds a b).swap := OrientedCmp.eq_swap
  simp only [isUpdatedBy, named, swapped, beq_self_eq_true, Bool.true_and]
  cases compareBuilds a b
  case lt => exact .inl ⟨rfl, rfl, nofun⟩
  case gt => exact .inr (.inl ⟨rfl, rfl, nofun⟩)
  case eq => exact .inr (.inr ⟨rfl, rfl, rfl⟩)

/-! ## The newest build -/

/-- What is not greater in the total order is not newer either. -/
theorem compareBuilds_isLE (le : (order a b).isLE) : (compareBuilds a b).isLE := by
  cases compared : compareBuilds a b with
  | lt => rfl
  | eq => rfl
  | gt =>
    rw [order, compared, Ordering.gt_then] at le
    contradiction

/-- The last one in a sorted list is the greatest. -/
theorem order_getLast {ps : List Package} (there : sortBy order ps ≠ []) {p : Package}
    (mem : p ∈ ps) : (order p ((sortBy order ps).getLast there)).isLE := by
  apply (pairwise_sortBy ps).rel_getLast_of_rel_getLast_getLast
  · have alike : order (List.getLast _ there) (List.getLast _ there) = .eq :=
      Std.ReflCmp.compare_self
    exact Ordering.isLE_of_eq_eq alike
  · exact (sortBy_perm ps).mem_iff.mpr mem

/-- A build that is at least as new as another one of its package is like it or updates it. -/
theorem isUpdatedBy_or_alike (named : a.name = b.name) (le : (compareBuilds a b).isLE) :
    b.isUpdatedBy a = false ∧ (a.isUpdatedBy b = true ∨ compareBuilds a b = .eq) := by
  rcases isUpdatedBy_trichotomy named with ⟨newer, notOlder, _⟩ | ⟨_, older, _⟩ | ⟨_, notOlder, alike⟩
  · exact ⟨notOlder, .inl newer⟩
  · have greater := OrientedCmp.gt_of_lt (isUpdatedBy_iff.mp older).2
    rw [greater] at le
    contradiction
  · exact ⟨notOlder, .inr alike⟩

/-- Updates are ordered, and the total order agrees with them. -/
theorem updates_ordered : UpdatesOrdered := by
  constructor
  case irreflexive =>
    intro a
    have alike : compareBuilds a a = .eq := Std.ReflCmp.compare_self
    rw [isUpdatedBy_eq_false_iff, alike]
    exact fun _ => nofun
  case transitive => exact isUpdatedBy_trans
  case trichotomous => exact isUpdatedBy_trichotomy
  case alike => exact TransCmp.eq_trans
  case respected => exact isUpdatedBy_congr
  case apart =>
    intro a b named
    rw [isUpdatedBy_eq_false_iff, isUpdatedBy_eq_false_iff]
    exact ⟨fun same => absurd same named, fun same => absurd same.symm named⟩
  case ascending =>
    intro a b newer
    exact order_of_compareBuilds (isUpdatedBy_iff.mp newer).2
  case newest =>
    intro ps name there named
    have sorted : sortBy order ps ≠ [] := fun none => there (none ▸ sortBy_perm ps).nil_eq.symm
    have mem : (sortBy order ps).getLast sorted ∈ ps :=
      (sortBy_perm ps).mem_iff.mp (List.getLast_mem sorted)
    refine ⟨_, List.getLast?_eq_some_getLast sorted, mem, fun p member => ?_⟩
    have sameName := (named p member).trans (named _ mem).symm
    exact isUpdatedBy_or_alike sameName (compareBuilds_isLE (order_getLast sorted member))

end FleetRoster.Package
