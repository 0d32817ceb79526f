import Mathlib.Data.List.Basic
import FleetRoster.Json.Value

/-!
# Members in the order of their names

Members that are put into an object one after another stand in the order of their names, each name
once. Such an object is told by what can be found in it, and what is found under a name is what was
put there last. So it does not matter in which order members of different names come.
-/

namespace FleetRoster.Json

namespace Members

/-- Members in the order of their names, each name once. -/
def Sorted (members : Members) : Prop :=
  members.Pairwise fun m n => m.1 < n.1

/-- The members of a name, in their order. -/
def named (members : Members) (name : String) : Members :=
  members.filter (·.1 = name)

variable {members others : Members} {name n : String} {v : Value}

/-! ## Members of one name -/

theorem mem_named {m : String × Value} : m ∈ members.named m.1 ↔ m ∈ members := by
  simp [named]

theorem named_map {f : String × Value → Value} (name : String) :
    named (members.map fun m => (m.1, f m)) name =
      (members.named name).map fun m => (m.1, f m) := by
  rw [named, List.filter_map]
  rfl

/-! ## What is found -/

theorem get?_cons (m : String × Value) (members : Members) (name : String) :
    get? (m :: members) name = if m.1 = name then some m.2 else get? members name := by
  rw [get?, List.find?_cons]
  by_cases same : m.1 = name
  · simp [same]
  · rw [if_neg same, (beq_eq_false_iff_ne.mpr same)]
    rfl

theorem get?_eq_none : get? members name = none ↔ ∀ m ∈ members, m.1 ≠ name := by
  simp [get?]

theorem mem_of_get? (found : get? members name = some v) : (name, v) ∈ members := by
  obtain ⟨m, there, rfl⟩ := Option.map_eq_some_iff.mp found
  have isNamed : m.1 = name := by simpa using List.find?_some there
  rw [← isNamed]
  exact List.mem_of_find?_eq_some there

/-- A member that is put into an object is found there, and nothing else is changed. -/
theorem get?_insert (members : Members) (n : String) (v : Value) (name : String) :
    get? (members.insert n v) name = if n = name then some v else get? members name := by
  induction members with
  | nil => rw [insert, get?_cons]
  | cons m rest ih =>
      obtain ⟨k, w⟩ := m
      rw [insert]
      split
      next => rw [get?_cons]
      split
      next same =>
        subst same
        rw [get?_cons, get?_cons]
        dsimp only
        split <;> rfl
      next _ other =>
        rw [get?_cons, ih, get?_cons]
        dsimp only
        split
        next found => rw [if_neg fun same => other (same.trans found.symm)]
        next => rfl

/-- Under each name stands what was put there last. -/
theorem get?_ofList (pairs : List (String × Value)) (name : String) :
    get? (ofList pairs) name = (named pairs name).getLast?.map (·.2) := by
  have general (start : Members) :
      get? (pairs.foldl (fun members pair => members.insert pair.1 pair.2) start) name =
        ((named pairs name).getLast?.map (·.2)).or (get? start name) := by
    -- what is put there hides what was there at the start
    induction pairs generalizing start with
    | nil => rfl
    | cons pair pairs ih =>
        rw [List.foldl_cons, ih, get?_insert, named, named, List.filter_cons]
        by_cases same : pair.1 = name
        · simp only [same, decide_true, if_true, List.getLast?_cons]
          cases (pairs.filter (·.1 = name)).getLast? <;> rfl
        · simp only [same, decide_false, Bool.false_eq_true, if_false]
  rw [ofList, general []]
  exact Option.or_none

/-- If each name was put there once, it is found as it was put there. -/
theorem get?_ofList_of_nodup {pairs : List (String × Value)} (distinct : (pairs.map (·.1)).Nodup)
    (name : String) : get? (ofList pairs) name = get? pairs name := by
  rw [get?_ofList]
  induction pairs with
  | nil => rfl
  | cons pair rest ih =>
      rw [List.map_cons, List.nodup_cons] at distinct
      rw [get?_cons, ← ih distinct.2, named, List.filter_cons]
      by_cases same : pair.1 = name
      · have alone : named rest name = [] := by
          rw [named, List.filter_eq_nil_iff]
          intro m there isNamed
          exact distinct.1 (List.mem_map.mpr ⟨m, there, (of_decide_eq_true isNamed).trans same.symm⟩)
        rw [named] at alone
        simp [same, alone]
      · simp only [same, decide_false, Bool.false_eq_true, if_false, named]

/-! ## Sorted members -/

theorem mem_insert {m : String × Value} (there : m ∈ members.insert n v) :
    m = (n, v) ∨ m ∈ members := by
  induction members with
  | nil => simpa [insert] using there
  | cons k rest ih =>
      rw [insert] at there
      split at there
      next => simpa using there
      split at there
      next => exact (List.mem_cons.mp there).imp_right (List.mem_cons_of_mem k)
      next =>
        rcases List.mem_cons.mp there with rfl | later
        · exact .inr List.mem_cons_self
        · exact (ih later).imp_right (List.mem_cons_of_mem k)

theorem mem_foldl_insert {pairs : List (String × Value)} {start : Members} {m : String × Value}
    (there : m ∈ pairs.foldl (fun members pair => members.insert pair.1 pair.2) start) :
    m ∈ pairs ∨ m ∈ start := by
  induction pairs generalizing start with
  | nil => exact .inr there
  | cons pair pairs ih =>
      rcases ih there with later | earlier
      · exact .inl (List.mem_cons_of_mem pair later)
      · exact (mem_insert earlier).imp_left fun same => List.mem_cons.mpr (.inl same)

/-- Every member of an object was put there. -/
theorem mem_of_mem_ofList {pairs : List (String × Value)} {m : String × Value}
    (there : m ∈ ofList pairs) : m ∈ pairs :=
  (mem_foldl_insert there).resolve_right List.not_mem_nil

theorem Sorted.insert (sorted : members.Sorted) (n : String) (v : Value) :
    (members.insert n v).Sorted := by
  induction members with
  | nil => exact List.pairwise_singleton _ _
  | cons m rest ih =>
      obtain ⟨k, w⟩ := m
      obtain ⟨first, later⟩ := List.pairwise_cons.mp sorted
      rw [Members.insert]
      split
      next before =>
        refine List.pairwise_cons.mpr ⟨fun m there => ?_, sorted⟩
        rcases List.mem_cons.mp there with rfl | there
        · exact before
        · exact String.lt_trans before (first m there)
      split
      next same =>
        subst same
        exact List.pairwise_cons.mpr ⟨first, later⟩
      next notBefore other =>
        refine List.pairwise_cons.mpr ⟨fun m there => ?_, ih later⟩
        rcases mem_insert there with rfl | there
        · rcases String.le_total k n with le | le
          · exact String.not_le.mp fun back => other (String.le_antisymm back le)
          · exact absurd (String.not_le.mp fun back => other (String.le_antisymm le back)) notBefore
        · exact first m there

theorem sorted_ofList (pairs : List (String × Value)) : (ofList pairs).Sorted := by
  have general {start : Members} (sorted : start.Sorted) :
      (pairs.foldl (fun members pair => members.insert pair.1 pair.2) start).Sorted := by
    induction pairs generalizing start with
    | nil => exact sorted
    | cons pair pairs ih => exact ih (sorted.insert pair.1 pair.2)
  exact general List.Pairwise.nil

/-- Each name stands once in sorted members. -/
theorem Sorted.nodup (sorted : members.Sorted) : (members.map (·.1)).Nodup :=
  List.pairwise_map.mpr (sorted.imp String.ne_of_lt)

/-- What is first in sorted members is found, and what is found elsewhere has a later name. -/
theorem first_or_later {m : String × Value} (sorted : Sorted (m :: members)) {k : String × Value}
    (there : k ∈ m :: members) : k = m ∨ m.1 < k.1 :=
  (List.mem_cons.mp there).imp_right ((List.pairwise_cons.mp sorted).1 k)

/-- Sorted members in which the same is found are the same. -/
theorem Sorted.ext (sorted : members.Sorted) (alsoSorted : others.Sorted)
    (same : ∀ name, get? members name = get? others name) : members = others := by
  induction members generalizing others with
  | nil =>
      cases others with
      | nil => rfl
      | cons n rest =>
          have there := same n.1
          rw [get?_cons, if_pos rfl] at there
          contradiction
  | cons m rest ih =>
      cases others with
      | nil =>
          have there := same m.1
          rw [get?_cons, if_pos rfl] at there
          contradiction
      | cons n others =>
          have mThere : m ∈ n :: others :=
            mem_of_get? ((same m.1).symm.trans (by rw [get?_cons, if_pos rfl]))
          have nThere : n ∈ m :: rest :=
            mem_of_get? ((same n.1).trans (by rw [get?_cons, if_pos rfl]))
          have heads : m = n := by
            rcases first_or_later alsoSorted mThere with heads | before
            · exact heads
            · rcases first_or_later sorted nThere with heads | back
              · exact heads.symm
              · exact absurd back (String.lt_asymm before)
          subst heads
          obtain ⟨first, later⟩ := List.pairwise_cons.mp sorted
          obtain ⟨alsoFirst, alsoLater⟩ := List.pairwise_cons.mp alsoSorted
          rw [ih later alsoLater fun name => ?_]
          by_cases isFirst : m.1 = name
          · subst isFirst
            rw [get?_eq_none.mpr fun k there => (String.ne_of_lt (first k there)).symm,
              get?_eq_none.mpr fun k there => (String.ne_of_lt (alsoFirst k there)).symm]
          · have found := same name
            rwa [get?_cons, get?_cons, if_neg isFirst, if_neg isFirst] at found

/-- Members of different names may come in any order. -/
theorem ofList_congr {pairs pairs' : List (String × Value)}
    (same : ∀ name, named pairs name = named pairs' name) : ofList pairs = ofList pairs' :=
  (sorted_ofList pairs).ext (sorted_ofList pairs') fun name => by
    rw [get?_ofList, get?_ofList, same]

/-- A member whose name is behind all others is put at the end. -/
theorem insert_last (last : ∀ m ∈ members, m.1 < n) : members.insert n v = members ++ [(n, v)] := by
  induction members with
  | nil => rfl
  | cons m rest ih =>
      rw [List.forall_mem_cons] at last
      rw [insert, if_neg (String.lt_asymm last.1), if_neg (String.ne_of_lt last.1).symm, ih last.2,
        List.cons_append]

/-- Members that are put behind others in their order stay in it. -/
theorem foldl_insert_of_sorted (sorted : Sorted (members ++ others)) :
    others.foldl (fun members pair => members.insert pair.1 pair.2) members =
      members ++ others := by
  induction others generalizing members with
  | nil => simp
  | cons m rest ih =>
      have last : ∀ k ∈ members, k.1 < m.1 := fun k there =>
        (List.pairwise_append.mp sorted).2.2 k there m List.mem_cons_self
      rw [List.foldl_cons, insert_last last, ih (by simpa using sorted)]
      simp

theorem ofList_of_sorted (sorted : members.Sorted) : ofList members = members :=
  foldl_insert_of_sorted sorted

end Members

end FleetRoster.Json
