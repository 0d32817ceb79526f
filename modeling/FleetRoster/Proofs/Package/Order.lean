import FleetRoster.Package.Order
import FleetRoster.Proofs.Package.Version

/-!
# The orders of packages

The order of updates is a preorder: it goes by epoch, then by version, release and name, and versions
that are written differently may be equal in it. The total order goes by architecture next and then by
the written version and release, so that only equal packages are equal in it. A list that is sorted by
it and then freed of repeats has its distinct elements in strictly ascending order, which no other list
of the same elements has.
-/

namespace FleetRoster.Package

open Std (TransCmp OrientedCmp LawfulEqCmp)

/-! ## The laws of the orders -/

/-- A part of a package may be compared in any order. -/
theorem transCmp_part {α : Type} (cmp : α → α → Ordering) [TransCmp cmp] (part : Package → α) :
    TransCmp fun a b => cmp (part a) (part b) where
  eq_swap := OrientedCmp.eq_swap
  isLE_trans := TransCmp.isLE_trans

instance : TransCmp compareBuilds :=
  have := transCmp_part Version.order (·.version)
  have := transCmp_part Version.order (·.release)
  inferInstanceAs <| TransCmp <|
    compareLex (compareOn fun p : Package => p.epoch.toNat) <|
      compareLex (fun a b => Version.order a.version b.version) <|
        compareLex (fun a b => Version.order a.release b.release) (compareOn Package.name)

instance : TransCmp order :=
  inferInstanceAs <| TransCmp <|
    compareLex compareBuilds <|
      compareLex (compareOn Package.arch) <|
        compareLex (compareOn Package.version) (compareOn Package.release)

/-- Only equal packages are equal in the total order. -/
theorem eq_of_order {a b : Package} (same : order a b = .eq) : a = b := by
  simp only [order, compareBuilds, Ordering.then_eq_eq, Std.compare_eq_iff_eq] at same
  obtain ⟨⟨epoch, _, _, name⟩, arch, version, release⟩ := same
  rw [UInt32.toNat_inj] at epoch
  cases a
  cases b
  simp_all

instance : LawfulEqCmp order where
  compare_self := Std.ReflCmp.compare_self
  eq_of_compare := eq_of_order

/-- What is older as an update is less. -/
theorem order_of_compareBuilds {a b : Package} (older : compareBuilds a b = .lt) :
    order a b = .lt := by
  rw [order, older, Ordering.lt_then]

theorem order_swap (a b : Package) : order a b = (order b a).swap :=
  OrientedCmp.eq_swap

/-! ## Sorting -/

/-- A sorted list ascends. -/
theorem pairwise_sortBy (ps : List Package) :
    (sortBy order ps).Pairwise fun a b => (order a b).isLE := by
  have notGreater : (fun a b => order a b != .gt) = fun a b => (order a b).isLE := by
    funext a b
    cases order a b <;> rfl
  rw [sortBy, notGreater]
  apply List.pairwise_mergeSort
  · intro a b c
    exact TransCmp.isLE_trans
  · intro a b
    rw [order_swap b a]
    cases order a b <;> rfl

theorem sortBy_perm (ps : List Package) : (sortBy order ps).Perm ps :=
  List.mergeSort_perm _ _

/-- Lists of the same packages are the same when they are sorted. -/
theorem sortBy_congr {ps qs : List Package} (perm : ps.Perm qs) :
    sortBy order ps = sortBy order qs := by
  apply List.Perm.eq_of_pairwise _ (pairwise_sortBy ps) (pairwise_sortBy qs)
  · exact (sortBy_perm ps).trans (perm.trans (sortBy_perm qs).symm)
  · intro a b _ _ le ge
    exact LawfulEqCmp.eq_of_compare (OrientedCmp.isLE_antisymm le ge)

/-! ## Repeats -/

theorem mem_dropRepeats_go {kept p : Package} {rest : List Package} :
    p ∈ kept :: dropRepeats.go kept rest ↔ p ∈ kept :: rest := by
  induction rest generalizing kept with
  | nil => rfl
  | cons q rest ih =>
    rw [dropRepeats.go]
    split
    next same =>
      rw [ih]
      simp [same]
    next => rw [List.mem_cons, ih, List.mem_cons (b := kept)]

/-- Nothing but repeats is dropped. -/
theorem mem_dropRepeats {p : Package} {ps : List Package} : p ∈ dropRepeats ps ↔ p ∈ ps := by
  cases ps with
  | nil => rfl
  | cons q rest => exact mem_dropRepeats_go

theorem pairwise_dropRepeats_go {kept : Package} {rest : List Package}
    (sorted : (kept :: rest).Pairwise fun a b => (order a b).isLE) :
    (kept :: dropRepeats.go kept rest).Pairwise fun a b => order a b = .lt := by
  induction rest generalizing kept with
  | nil => exact List.pairwise_singleton _ _
  | cons q rest ih =>
    rw [List.pairwise_cons, List.forall_mem_cons] at sorted
    obtain ⟨⟨le, keptLE⟩, tail⟩ := sorted
    rw [dropRepeats.go]
    split
    next => exact ih (List.pairwise_cons.mpr ⟨keptLE, tail.of_cons⟩)
    next different =>
      have less : order kept q = .lt := by
        cases compared : order kept q with
        | lt => rfl
        | eq => exact absurd (eq_of_order compared).symm different
        | gt =>
          rw [compared] at le
          contradiction
      have ascends := ih tail
      refine List.pairwise_cons.mpr ⟨?_, ascends⟩
      rw [List.forall_mem_cons]
      exact ⟨less, fun p mem => TransCmp.lt_trans less (List.rel_of_pairwise_cons ascends mem)⟩

/-- Without repeats a list that ascends does so strictly. -/
theorem pairwise_dropRepeats {ps : List Package}
    (sorted : ps.Pairwise fun a b => (order a b).isLE) :
    (dropRepeats ps).Pairwise fun a b => order a b = .lt := by
  cases ps with
  | nil => exact .nil
  | cons p rest => exact pairwise_dropRepeats_go sorted

/-! ## Both orders -/

/-- The total order tells different packages apart and goes on from the order of updates, which is a
total preorder. Sorted by it and freed of repeats, a list has its distinct packages in strictly
ascending order, however they were arranged. -/
theorem orders_packages :
    (∀ a b, order a b = .eq ↔ a = b) ∧
      (∀ a b, order a b = (order b a).swap) ∧
      (∀ a b c, (order a b).isLE → (order b c).isLE → (order a c).isLE) ∧
      (∀ a b, compareBuilds a b = .lt → order a b = .lt) ∧
      (∀ a, compareBuilds a a = .eq) ∧
      (∀ a b, compareBuilds a b = (compareBuilds b a).swap) ∧
      (∀ a b c, (compareBuilds a b).isLE → (compareBuilds b c).isLE → (compareBuilds a c).isLE) ∧
      ∀ ps, (dropRepeats (sortBy order ps)).Pairwise (fun a b => order a b = .lt) ∧
        (∀ p, p ∈ dropRepeats (sortBy order ps) ↔ p ∈ ps) ∧
        ∀ qs, ps.Perm qs → dropRepeats (sortBy order qs) = dropRepeats (sortBy order ps) := by
  refine ⟨fun a b => LawfulEqCmp.compare_eq_iff_eq, order_swap, fun a b c => TransCmp.isLE_trans,
    fun a b => order_of_compareBuilds, fun a => Std.ReflCmp.compare_self,
    fun a b => OrientedCmp.eq_swap, fun a b c => TransCmp.isLE_trans, fun ps => ⟨?_, ?_, ?_⟩⟩
  · exact pairwise_dropRepeats (pairwise_sortBy ps)
  · intro p
    rw [mem_dropRepeats, (sortBy_perm ps).mem_iff]
  · intro qs perm
    rw [sortBy_congr perm]

end FleetRoster.Package
