import FleetRoster.Outbound.Evaluation

/-!
# What evaluation messages hold

The messages for a list of uploads hold each upload once, and those of one account hold the uploads
of that account in their order. A message names the first organization that is named in its account,
whatever other uploads of the account name.
-/

namespace FleetRoster

open Calendar (Instant)

/-! ## Ascending numbers -/

theorem mem_insertAscending {m n : Int} {ns : List Int} :
    m ∈ insertAscending n ns ↔ m = n ∨ m ∈ ns := by
  induction ns with
  | nil => simp [insertAscending]
  | cons first rest ih =>
      simp only [insertAscending]
      split
      · simp
      · split
        next same => simp [same]
        · simp [ih, or_left_comm]

theorem pairwise_insertAscending {n : Int} {ns : List Int} (sorted : ns.Pairwise (· < ·)) :
    (insertAscending n ns).Pairwise (· < ·) := by
  induction ns with
  | nil => simp [insertAscending]
  | cons first rest ih =>
      have above : ∀ m ∈ rest, first < m := (List.pairwise_cons.mp sorted).1
      simp only [insertAscending]
      split
      next lt =>
        apply List.pairwise_cons.mpr
        constructor
        · intro m mem
          rcases List.mem_cons.mp mem with rfl | mem
          · exact lt
          · have := above m mem
            omega
        · exact sorted
      · split
        · exact sorted
        next notLt notSame =>
          apply List.pairwise_cons.mpr
          constructor
          · intro m mem
            rcases mem_insertAscending.mp mem with rfl | mem
            · omega
            · exact above m mem
          · exact ih sorted.of_cons

private theorem foldl_insertAscending (ns sorted : List Int) (isSorted : sorted.Pairwise (· < ·)) :
    (ns.foldl (fun sorted n => insertAscending n sorted) sorted).Pairwise (· < ·) ∧
      ∀ m, m ∈ ns.foldl (fun sorted n => insertAscending n sorted) sorted ↔
        m ∈ sorted ∨ m ∈ ns := by
  induction ns generalizing sorted with
  | nil => exact ⟨isSorted, by simp⟩
  | cons n rest ih =>
      obtain ⟨restSorted, mem⟩ := ih _ (pairwise_insertAscending (n := n) isSorted)
      constructor
      · exact restSorted
      · intro m
        rw [List.foldl_cons, mem, mem_insertAscending, List.mem_cons, or_assoc, or_left_comm]

@[simp]
theorem mem_ascending {m : Int} {ns : List Int} : m ∈ ascending ns ↔ m ∈ ns := by
  rw [ascending, (foldl_insertAscending ns [] .nil).2]
  simp

theorem pairwise_ascending (ns : List Int) : (ascending ns).Pairwise (· < ·) :=
  (foldl_insertAscending ns [] .nil).1

/-- No number comes twice. -/
theorem nodup_ascending (ns : List Int) : (ascending ns).Nodup := by
  apply (pairwise_ascending ns).imp
  intro m n lt
  omega

/-! ## Pieces -/

theorem flatten_pieces {α : Type} (size : Nat) (as : List α) :
    (pieces size as).flatten = as := by
  fun_induction pieces size as with
  | case1 => rfl
  | case2 a rest ih => rw [List.flatten_cons, ih, List.cons_append, List.take_append_drop]

/-- What is in some piece is in the list. -/
theorem mem_of_mem_pieces {α : Type} {size : Nat} {as piece : List α} {a : α}
    (mem : piece ∈ pieces size as) (inPiece : a ∈ piece) : a ∈ as := by
  rw [← flatten_pieces size as]
  exact List.mem_flatten_of_mem mem inPiece

theorem pieces_eq_nil_iff {α : Type} {size : Nat} {as : List α} :
    pieces size as = [] ↔ as = [] := by
  cases as with
  | nil => simp [pieces]
  | cons a rest => simp [pieces]

/-! ## Groups -/

/-- Collected by a key, a list has the same members as before. -/
theorem flatMap_filter_perm {α : Type} (f : α → Int) {keys : List Int} (nodup : keys.Nodup)
    (as : List α) :
    (keys.flatMap fun k => as.filter fun a => f a == k).Perm
      (as.filter fun a => decide (f a ∈ keys)) := by
  induction keys with
  | nil => simp
  | cons k rest ih =>
      obtain ⟨absent, nodupRest⟩ := List.nodup_cons.mp nodup
      have own : ((as.filter fun a => decide (f a ∈ k :: rest)).filter fun a => f a == k) =
          as.filter fun a => f a == k := by
        rw [List.filter_filter]
        apply List.filter_congr
        intro a _
        by_cases same : f a = k <;> simp [same]
      have others : ((as.filter fun a => decide (f a ∈ k :: rest)).filter fun a => !(f a == k)) =
          as.filter fun a => decide (f a ∈ rest) := by
        rw [List.filter_filter]
        apply List.filter_congr
        intro a _
        by_cases same : f a = k
        · simp [same, absent]
        · simp [same]
      rw [List.flatMap_cons, ← own]
      apply ((ih nodupRest).append_left _).trans
      rw [← others]
      exact List.filter_append_perm _ _

namespace Evaluation

variable {items : List Item} {batchSize : Nat} {now : Instant} {m : Evaluation}

/-- The messages of one account. -/
def ofAccount (items : List Item) (batchSize : Nat) (now : Instant) (account : Int) :
    List Evaluation :=
  let group := items.filter (·.account == account)
  (pieces batchSize group).map fun piece =>
    ⟨now, account, (group.find? fun item => !item.org.isEmpty).map (·.org),
      piece.map (·.inventoryId), piece.map (·.requestId)⟩

theorem ofItems_eq (items : List Item) (batchSize : Nat) (now : Instant) :
    ofItems items batchSize now =
      (ascending (items.map (·.account))).flatMap (ofAccount items batchSize now) :=
  rfl

theorem mem_ofItems (mem : m ∈ ofItems items batchSize now) :
    ∃ piece ∈ pieces batchSize (items.filter (·.account == m.account)),
      m.systems = piece.map (·.inventoryId) ∧ m.requests = piece.map (·.requestId) ∧
        m.org = ((items.filter (·.account == m.account)).find? fun item =>
          !item.org.isEmpty).map (·.org) := by
  rw [ofItems_eq, List.mem_flatMap] at mem
  rcases mem with ⟨account, _, mem⟩
  obtain ⟨piece, inPieces, rfl⟩ := List.mem_map.mp mem
  exact ⟨piece, inPieces, rfl, rfl, rfl⟩

/-- There are messages exactly where there are uploads. -/
theorem ofItems_eq_nil_iff : ofItems items batchSize now = [] ↔ items = [] := by
  constructor
  · intro none
    cases items with
    | nil => rfl
    | cons item rest =>
        rw [ofItems_eq, List.flatMap_eq_nil_iff] at none
        have noPieces := none item.account (by simp)
        rw [ofAccount, List.map_eq_nil_iff, pieces_eq_nil_iff] at noPieces
        simp at noPieces
  · rintro rfl
    rfl

/-- The uploads that a message is about: account, inventory id and request of each. -/
def uploads (m : Evaluation) : List (Int × String × String) :=
  (m.systems.zip m.requests).map fun pair => (m.account, pair)

theorem uploads_ofAccount (items : List Item) (batchSize : Nat) (now : Instant) (account : Int) :
    (ofAccount items batchSize now account).flatMap (·.uploads) =
      (items.filter (·.account == account)).map fun item =>
        (item.account, item.inventoryId, item.requestId) := by
  have own : ∀ item ∈ items.filter (·.account == account),
      (account, item.inventoryId, item.requestId) =
        (item.account, item.inventoryId, item.requestId) := by
    intro item mem
    have same : item.account = account := by simpa using (List.mem_filter.mp mem).2
    rw [same]
  rw [← List.map_congr_left own]
  simp only [ofAccount, List.flatMap_map, uploads, List.zip_map', List.map_map]
  rw [List.flatMap_def, ← List.map_flatten, flatten_pieces]
  rfl

theorem systems_ofAccount (items : List Item) (batchSize : Nat) (now : Instant) (account : Int) :
    (ofAccount items batchSize now account).flatMap (·.systems) =
      (items.filter (·.account == account)).map (·.inventoryId) := by
  simp only [ofAccount, List.flatMap_map]
  rw [List.flatMap_def, ← List.map_flatten, flatten_pieces]

theorem filter_ofAccount (items : List Item) (batchSize : Nat) (now : Instant)
    (account other : Int) :
    (ofAccount items batchSize now other).filter (·.account == account) =
      if other = account then ofAccount items batchSize now account else [] := by
  by_cases same : other = account
  · rw [if_pos same, same, List.filter_eq_self]
    simp [ofAccount]
  · rw [if_neg same, List.filter_eq_nil_iff]
    simp [ofAccount, same]

/-- The messages of an account stand together. -/
theorem filter_ofItems (items : List Item) (batchSize : Nat) (now : Instant) (account : Int) :
    (ofItems items batchSize now).filter (·.account == account) =
      ofAccount items batchSize now account := by
  rw [ofItems_eq, List.filter_flatMap]
  simp only [filter_ofAccount]
  have once : ∀ {keys : List Int}, keys.Nodup →
      (keys.flatMap fun other => if other = account then ofAccount items batchSize now account
        else []) = if account ∈ keys then ofAccount items batchSize now account else [] := by
    intro keys nodup
    induction keys with
    | nil => rfl
    | cons k rest ih =>
        obtain ⟨absent, nodupRest⟩ := List.nodup_cons.mp nodup
        rw [List.flatMap_cons, ih nodupRest]
        by_cases same : k = account
        · simp [same, same ▸ absent]
        · simp [same, Ne.symm same]
  rw [once (nodup_ascending _)]
  by_cases mem : account ∈ ascending (items.map (·.account))
  · rw [if_pos mem]
  · rw [if_neg mem]
    have none : items.filter (·.account == account) = [] := by
      simpa using mem
    simp [ofAccount, none, pieces]

/-- The systems of an account are those of its uploads, in their order. -/
theorem systems_ofItems (items : List Item) (batchSize : Nat) (now : Instant) (account : Int) :
    ((ofItems items batchSize now).filter (·.account == account)).flatMap (·.systems) =
      (items.filter (·.account == account)).map (·.inventoryId) := by
  rw [filter_ofItems, systems_ofAccount]

/-- The messages hold every upload exactly once. -/
theorem uploads_ofItems (items : List Item) (batchSize : Nat) (now : Instant) :
    ((ofItems items batchSize now).flatMap (·.uploads)).Perm
      (items.map fun item => (item.account, item.inventoryId, item.requestId)) := by
  have all : (items.filter fun item => decide (item.account ∈ ascending (items.map (·.account)))) =
      items := by
    rw [List.filter_eq_self]
    intro item mem
    simpa using ⟨item, mem, rfl⟩
  have grouped := flatMap_filter_perm (·.account) (nodup_ascending (items.map (·.account))) items
  rw [all] at grouped
  rw [ofItems_eq, List.flatMap_assoc]
  simp only [uploads_ofAccount]
  rw [← List.map_flatMap]
  exact grouped.map _

end Evaluation

end FleetRoster
