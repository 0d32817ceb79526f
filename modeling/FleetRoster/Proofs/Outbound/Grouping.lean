import Mathlib.Algebra.BigOperators.Group.List.Basic
import Mathlib.Algebra.Order.Floor.Div
import Mathlib.Data.List.Dedup
import FleetRoster.Proofs.Outbound.Evaluations

/-!
# Grouping and cutting

Uploads can be collected one by one into groups of accounts, and a group cut by positions: its
systems into pieces, and from its requests the stretch beside each piece. No position lies past the
end of the requests, and what comes of it are the messages. They stand by ascending accounts; those
of an account hold its uploads in their order, in pieces that are full but for the last one, and
systems that are sent on request are grouped and cut in the same way.
-/

namespace FleetRoster

open Calendar (Instant)

/-! ## The sizes of pieces -/

section

variable {α β : Type}

/-- A size of zero counts as one. -/
theorem pieces_max_one (size : Nat) (as : List α) : pieces (max size 1) as = pieces size as := by
  have same : max size 1 - 1 = size - 1 := by omega
  fun_induction pieces size as with
  | case1 => rw [pieces]
  | case2 a rest ih => rw [pieces, same, ih]

theorem map_pieces (f : α → β) (size : Nat) (as : List α) :
    pieces size (as.map f) = (pieces size as).map (List.map f) := by
  fun_induction pieces size as with
  | case1 => simp only [List.map_nil, pieces]
  | case2 a rest ih => simp only [List.map_cons, pieces, List.map_take, ← List.map_drop, ih]

theorem length_of_mem_pieces {size : Nat} {as piece : List α} (mem : piece ∈ pieces size as) :
    1 ≤ piece.length ∧ piece.length ≤ max size 1 := by
  fun_induction pieces size as with
  | case1 => contradiction
  | case2 a rest ih =>
      rcases List.mem_cons.mp mem with rfl | mem
      · simp only [List.length_cons, List.length_take]
        omega
      · exact ih mem

/-- A piece is full, unless nothing follows it. -/
theorem length_piece_of_rest {size : Nat} {a : α} {rest : List α}
    (more : rest.drop (size - 1) ≠ []) :
    (a :: rest.take (size - 1)).length = max size 1 := by
  have longer : ¬ rest.length ≤ size - 1 := fun short => more (List.drop_eq_nil_of_le short)
  simp only [List.length_cons, List.length_take]
  omega

/-- All pieces but the last are full. -/
theorem length_of_mem_dropLast_pieces {size : Nat} {as piece : List α}
    (mem : piece ∈ (pieces size as).dropLast) : piece.length = max size 1 := by
  fun_induction pieces size as with
  | case1 => contradiction
  | case2 a rest ih =>
      by_cases last : pieces size (rest.drop (size - 1)) = []
      · rw [last] at mem
        contradiction
      · rw [List.dropLast_cons_of_ne_nil last] at mem
        rcases List.mem_cons.mp mem with rfl | mem
        · exact length_piece_of_rest fun none => last (pieces_eq_nil_iff.mpr none)
        · exact ih mem

/-- There are as many pieces as are needed. -/
theorem length_pieces (size : Nat) (as : List α) :
    (pieces size as).length = as.length ⌈/⌉ max size 1 := by
  have pos : 0 < max size 1 := by omega
  rw [Nat.ceilDiv_eq_add_pred_div]
  fun_induction pieces size as with
  | case1 =>
      symm
      apply Nat.div_eq_of_lt
      simp only [List.length_nil]
      omega
  | case2 a rest ih =>
      rw [List.length_cons, ih, List.length_drop, List.length_cons]
      by_cases full : max size 1 ≤ rest.length + 1
      · have left : rest.length - (size - 1) + max size 1 - 1 = rest.length := by omega
        have whole : rest.length + 1 + max size 1 - 1 = rest.length + max size 1 := by omega
        rw [left, whole, Nat.add_div_right _ pos]
      · have left : rest.length - (size - 1) + max size 1 - 1 < max size 1 := by omega
        have whole : rest.length + 1 + max size 1 - 1 = rest.length + max size 1 := by omega
        rw [Nat.div_eq_of_lt left, whole, Nat.add_div_right _ pos, Nat.div_eq_of_lt (by omega)]

end

/-! ## Collecting -/

/-- What was collected for an account. -/
structure Group where
  org : Option String := none
  systems : List String := []
  requests : List String := []

namespace Group

/-- A group with one more upload. It names the first organization that is named. -/
def addItem (g : Group) (item : Item) : Group where
  org := if g.org.isNone && !item.org.isEmpty then some item.org else g.org
  systems := g.systems ++ [item.inventoryId]
  requests := g.requests ++ [item.requestId]

/-- A group with one more system that is sent on request. -/
def addTarget (g : Group) (target : Target) : Group :=
  { g with systems := g.systems ++ [target.inventoryId] }

/-- Changes the group of an account, which is begun at its place in the order if there is none. -/
def change (account : Int) (f : Group → Group) : List (Int × Group) → List (Int × Group)
  | [] => [(account, f {})]
  | (other, g) :: rest =>
    if account < other then (account, f {}) :: (other, g) :: rest
    else if account = other then (other, f g) :: rest
    else (other, g) :: change account f rest

/-- Collects the elements of a list by account, one after the other. -/
def collect {α : Type} (account : α → Int) (add : Group → α → Group) (as : List α) :
    List (Int × Group) :=
  as.foldl (fun groups a => change (account a) (add · a) groups) []

variable {α : Type}

/-- Changing one of the groups in their order: those of the other accounts stay as they are. -/
theorem change_map {keys : List Int} (sorted : keys.Pairwise (· < ·)) {account : Int}
    {f : Int → Group} (blank : account ∉ keys → f account = {}) (g : Group → Group) :
    change account g (keys.map fun key => (key, f key)) =
      (insertAscending account keys).map fun key =>
        (key, if key = account then g (f key) else f key) := by
  induction keys with
  | nil => simp [change, insertAscending, blank]
  | cons first rest ih =>
      obtain ⟨above, sortedRest⟩ := List.pairwise_cons.mp sorted
      have others : account ≤ first →
          rest.map (fun key => (key, if key = account then g (f key) else f key)) =
            rest.map fun key => (key, f key) := by
        intro le
        apply List.map_congr_left
        intro key mem
        have := above key mem
        rw [if_neg (by omega)]
      rw [List.map_cons, change, insertAscending]
      rcases lt_trichotomy account first with lt | rfl | gt
      · have absent : account ∉ first :: rest := by
          intro mem
          rcases List.mem_cons.mp mem with same | mem
          · omega
          · have := above account mem
            omega
        rw [if_pos lt, if_pos lt, List.map_cons, List.map_cons, if_pos rfl, blank absent,
          if_neg (by omega), others (le_of_lt lt)]
      · rw [if_neg (lt_irrefl _), if_pos rfl, if_neg (lt_irrefl _), if_pos rfl, List.map_cons,
          if_pos rfl, others le_rfl]
      · rw [if_neg (by omega), if_neg (by omega), if_neg (by omega), if_neg (by omega),
          List.map_cons, if_neg (by omega), ih sortedRest]
        intro absent
        exact blank (by simpa [absent] using ne_of_gt gt)

/-- Collected by account, the elements of each account make up its group, in their order. -/
theorem collect_eq (account : α → Int) (add : Group → α → Group) (as : List α) :
    collect account add as = (ascending (as.map account)).map fun key =>
      (key, (as.filter (account · == key)).foldl add {}) := by
  -- The last element comes last into the groups, which are told from those before it.
  induction as using List.reverseRecOn with
  | nil => rfl
  | append_singleton as a ih =>
      have keys : ascending ((as ++ [a]).map account) =
          insertAscending (account a) (ascending (as.map account)) := by
        simp [ascending, List.foldl_append]
      have blank : account a ∉ ascending (as.map account) →
          (as.filter (account · == account a)).foldl add {} = {} := by
        intro absent
        have none : as.filter (account · == account a) = [] := by
          simpa using absent
        rw [none, List.foldl_nil]
      rw [collect, List.foldl_append, List.foldl_cons, List.foldl_nil, ← collect, ih,
        change_map (pairwise_ascending _) blank, keys]
      apply List.map_congr_left
      intro key _
      rw [List.filter_append]
      by_cases same : account a = key
      · simp [same]
      · simp [same, Ne.symm same]

/-- A group with some more uploads. -/
theorem foldl_addItem (g : Group) (items : List Item) :
    items.foldl addItem g =
      { org := g.org.or ((items.map (·.org)).find? (!·.isEmpty))
        systems := g.systems ++ items.map (·.inventoryId)
        requests := g.requests ++ items.map (·.requestId) } := by
  induction items generalizing g with
  | nil => simp
  | cons item rest ih =>
      rw [List.foldl_cons, ih]
      cases named : g.org with
      | some org => simp [addItem, named]
      | none => cases blank : item.org.isEmpty <;> simp [addItem, named, blank]

/-- The group of some uploads. -/
theorem foldl_addItem_blank (items : List Item) :
    items.foldl addItem {} =
      ⟨(items.map (·.org)).find? (!·.isEmpty), items.map (·.inventoryId),
        items.map (·.requestId)⟩ := by
  rw [foldl_addItem]
  rfl

/-- A group with some more systems that are sent on request. -/
theorem foldl_addTarget (g : Group) (targets : List Target) :
    targets.foldl addTarget g = { g with systems := g.systems ++ targets.map (·.inventoryId) } := by
  induction targets generalizing g with
  | nil => simp
  | cons target rest ih => simp [ih, addTarget]

end Group

/-! ## Cutting -/

/-- The elements from one position up to another one, if there are so many. -/
def stretch? {α : Type} (as : List α) (start stop : Nat) : Option (List α) :=
  if start ≤ stop ∧ stop ≤ as.length then some ((as.take stop).drop start) else none

theorem stretch?_append {α : Type} (before as after : List α) :
    stretch? (before ++ (as ++ after)) before.length (before.length + as.length) = some as := by
  rw [stretch?, if_pos (by simp), ← List.append_assoc, ← List.length_append,
    List.take_left, List.drop_left]

namespace Group

/-- The messages for the pieces of a group's systems from the one with number `n` on. The requests of
a piece are those at the positions of its systems. -/
def messages? (g : Group) (account : Int) (size : Nat) (now : Instant) :
    (n : Nat) → List (List String) → Option (List Evaluation)
  | _, [] => some []
  | n, systems :: rest => do
    let requests ← if g.requests.isEmpty then some []
      else stretch? g.requests (n * size) (n * size + systems.length)
    let later ← g.messages? account size now (n + 1) rest
    some (⟨now, account, g.org, systems, requests⟩ :: later)

/-- Cuts groups into messages, if every position is within the requests. -/
def cut? (batchSize : Nat) (now : Instant) : List (Int × Group) → Option (List Evaluation)
  | [] => some []
  | (account, g) :: rest => do
    let size := max batchSize 1
    let first ← g.messages? account size now 0 (pieces size g.systems)
    let later ← cut? batchSize now rest
    some (first ++ later)

variable {g : Group} {size : Nat}

/-- Beside each piece of the uploads stand its requests. -/
theorem messages?_of_aligned (account : Int) (now : Instant) {items before left : List Item}
    (requests : g.requests = items.map (·.requestId)) (split : items = before ++ left) {n : Nat}
    (start : left ≠ [] → before.length = n * size) (pos : 0 < size) :
    g.messages? account size now n (pieces size (left.map (·.inventoryId))) =
      some ((pieces size left).map fun piece =>
        ⟨now, account, g.org, piece.map (·.inventoryId), piece.map (·.requestId)⟩) := by
  rw [map_pieces]
  -- The pieces before the next one are full, as long as anything is left.
  fun_induction pieces size left generalizing before n with
  | case1 => rfl
  | case2 item rest ih =>
      have position := start (List.cons_ne_nil item rest)
      have whole : item :: rest = (item :: rest.take (size - 1)) ++ rest.drop (size - 1) := by
        rw [List.cons_append, List.take_append_drop]
      have next : rest.drop (size - 1) ≠ [] →
          (before ++ item :: rest.take (size - 1)).length = (n + 1) * size := by
        intro more
        rw [List.length_append, position, length_piece_of_rest more, Nat.succ_mul]
        omega
      have later := ih (by rw [split, whole, List.append_assoc]) next
      have some : ¬ g.requests.isEmpty := by simp [requests, split]
      generalize item :: rest.take (size - 1) = piece at *
      have beside := stretch?_append (before.map (·.requestId)) (piece.map (·.requestId))
        ((rest.drop (size - 1)).map (·.requestId))
      rw [← List.map_append, ← List.map_append, ← whole, ← split, ← requests, List.length_map,
        List.length_map, position] at beside
      rw [List.map_cons, messages?, if_neg some, List.length_map, beside, later]
      rfl

/-- Without requests none stand beside a piece. -/
theorem messages?_of_bare (account : Int) (now : Instant) (requests : g.requests = []) (n : Nat)
    (rest : List (List String)) :
    g.messages? account size now n rest =
      some (rest.map fun piece => ⟨now, account, g.org, piece, []⟩) := by
  induction rest generalizing n with
  | nil => rfl
  | cons piece rest ih =>
      rw [messages?, ih, requests]
      rfl

/-- Groups are cut one after the other. -/
theorem cut?_map {batchSize : Nat} {now : Instant} {f : Int → Group} {m : Int → List Evaluation}
    (keys : List Int)
    (each : ∀ key ∈ keys, (f key).messages? key (max batchSize 1) now 0
      (pieces (max batchSize 1) (f key).systems) = some (m key)) :
    cut? batchSize now (keys.map fun key => (key, f key)) = some (keys.flatMap m) := by
  induction keys with
  | nil => rfl
  | cons key rest ih =>
      obtain ⟨own, others⟩ := List.forall_mem_cons.mp each
      rw [List.map_cons, cut?, own, ih others]
      rfl

end Group

namespace Evaluation

/-- Collected and cut by positions, uploads make up their messages. -/
theorem cut?_collect_items (items : List Item) (batchSize : Nat) (now : Instant) :
    Group.cut? batchSize now (Group.collect (·.account) Group.addItem items) =
      some (ofItems items batchSize now) := by
  rw [Group.collect_eq, ofItems_eq]
  apply Group.cut?_map
  intro account _
  rw [Group.foldl_addItem_blank, Group.messages?_of_aligned account now rfl
    (List.nil_append (items.filter (·.account == account))).symm (by simp) (by omega),
    pieces_max_one, ofAccount, List.find?_map]
  rfl

/-- The messages for systems of one account that are sent on request. -/
def ofAccountTargets (targets : List Target) (batchSize : Nat) (now : Instant) (account : Int) :
    List Evaluation :=
  (pieces batchSize (targets.filter (·.account == account))).map fun piece =>
    ⟨now, account, none, piece.map (·.inventoryId), []⟩

theorem ofTargets_eq (targets : List Target) (batchSize : Nat) (now : Instant) :
    ofTargets targets batchSize now =
      (ascending (targets.map (·.account))).flatMap (ofAccountTargets targets batchSize now) :=
  rfl

/-- So do systems that are sent on request. -/
theorem cut?_collect_targets (targets : List Target) (batchSize : Nat) (now : Instant) :
    Group.cut? batchSize now (Group.collect (·.account) Group.addTarget targets) =
      some (ofTargets targets batchSize now) := by
  rw [Group.collect_eq, ofTargets_eq]
  apply Group.cut?_map
  intro account _
  rw [Group.foldl_addTarget, Group.messages?_of_bare account now rfl, ofAccountTargets,
    List.nil_append, map_pieces, pieces_max_one, List.map_map]
  rfl

/-! ## Messages of uploads -/

/-- What the messages for some uploads hold. -/
structure Groups (items : List Item) (batchSize : Nat) (now : Instant)
    (messages : List Evaluation) : Prop where
  /-- The uploads collected and cut by positions, none of which is out of range. -/
  inRange : Group.cut? batchSize now (Group.collect (·.account) Group.addItem items) = some messages
  /-- The messages of an account stand together, in the order of the accounts. -/
  sorted : (messages.map (·.account)).Pairwise (· ≤ ·)
  /-- They hold the uploads of the account in their order, each system beside its request. -/
  complete : ∀ account, (messages.filter (·.account == account)).flatMap
      (fun m => m.systems.zip m.requests) =
    (items.filter (·.account == account)).map fun item => (item.inventoryId, item.requestId)
  aligned : ∀ m ∈ messages, m.requests.length = m.systems.length
  sizes : ∀ m ∈ messages, 1 ≤ m.systems.length ∧ m.systems.length ≤ max batchSize 1
  /-- All but the last one of an account are full. -/
  full : ∀ account, ∀ m ∈ (messages.filter (·.account == account)).dropLast,
    m.systems.length = max batchSize 1
  /-- The organization is the first one that is named in the account. -/
  organization : ∀ m ∈ messages,
    m.org = ((items.filter (·.account == m.account)).map (·.org)).find? (!·.isEmpty)
  time : ∀ m ∈ messages, m.timestamp = now
  count : messages.length = ((items.map (·.account)).dedup.map fun account =>
    (items.filter (·.account == account)).length ⌈/⌉ max batchSize 1).sum

section

variable (items : List Item) (batchSize : Nat) (now : Instant)

/-- The accounts of the messages ascend. -/
theorem pairwise_ofItems : ((ofItems items batchSize now).map (·.account)).Pairwise (· ≤ ·) := by
  rw [List.pairwise_map, ofItems_eq, List.pairwise_flatMap]
  constructor
  · intro account _
    rw [ofAccount, List.pairwise_map]
    exact List.pairwise_of_forall fun _ _ => le_rfl
  · apply (pairwise_ascending _).imp
    intro first second lt m mem m' mem'
    obtain ⟨_, _, rfl⟩ := List.mem_map.mp mem
    obtain ⟨_, _, rfl⟩ := List.mem_map.mp mem'
    exact le_of_lt lt

/-- The messages of an account hold its uploads, each system beside its request. -/
theorem pairs_ofAccount (account : Int) :
    (ofAccount items batchSize now account).flatMap (fun m => m.systems.zip m.requests) =
      (items.filter (·.account == account)).map fun item => (item.inventoryId, item.requestId) := by
  have uploads := congrArg (List.map Prod.snd) (uploads_ofAccount items batchSize now account)
  rw [List.map_flatMap, List.map_map] at uploads
  simpa [Evaluation.uploads, Function.comp_def] using uploads

/-- Every account has as many messages as its uploads need. -/
theorem length_ofItems :
    (ofItems items batchSize now).length = ((items.map (·.account)).dedup.map fun account =>
      (items.filter (·.account == account)).length ⌈/⌉ max batchSize 1).sum := by
  have same : (ascending (items.map (·.account))).Perm (items.map (·.account)).dedup :=
    (List.perm_ext_iff_of_nodup (nodup_ascending _) (List.nodup_dedup _)).mpr fun account => by
      rw [mem_ascending, List.mem_dedup]
  rw [ofItems_eq, List.length_flatMap, ← (same.map _).sum_eq]
  simp only [ofAccount, List.length_map, length_pieces]

theorem timestamp_ofItems {m : Evaluation} (mem : m ∈ ofItems items batchSize now) :
    m.timestamp = now := by
  rw [ofItems_eq, List.mem_flatMap] at mem
  obtain ⟨account, _, mem⟩ := mem
  obtain ⟨_, _, rfl⟩ := List.mem_map.mp mem
  rfl

theorem groups_ofItems : Groups items batchSize now (ofItems items batchSize now) where
  inRange := cut?_collect_items items batchSize now
  sorted := pairwise_ofItems items batchSize now
  complete := by
    intro account
    rw [filter_ofItems, pairs_ofAccount]
  aligned := by
    intro m mem
    obtain ⟨piece, _, systems, requests, _⟩ := mem_ofItems mem
    rw [systems, requests, List.length_map, List.length_map]
  sizes := by
    intro m mem
    obtain ⟨piece, inPieces, systems, _⟩ := mem_ofItems mem
    rw [systems, List.length_map]
    exact length_of_mem_pieces inPieces
  full := by
    intro account m mem
    rw [filter_ofItems, ofAccount, ← List.map_dropLast] at mem
    obtain ⟨piece, inPieces, rfl⟩ := List.mem_map.mp mem
    rw [List.length_map]
    exact length_of_mem_dropLast_pieces inPieces
  organization := by
    intro m mem
    obtain ⟨_, _, _, _, org⟩ := mem_ofItems mem
    rw [org, List.find?_map]
    rfl
  time := fun _ mem => timestamp_ofItems items batchSize now mem
  count := length_ofItems items batchSize now

end

/-! ## Messages on request -/

/-- A message without its requests. -/
def withoutRequests (m : Evaluation) : Evaluation :=
  { m with requests := [] }

end Evaluation

/-- A system that is sent on request, as an upload that names no organization. -/
def Target.asItem (target : Target) (requestId : String) : Item :=
  ⟨target.inventoryId, target.account, "", requestId⟩

namespace Evaluation

variable (targets : List Target) (request : Target → String) (batchSize : Nat) (now : Instant)

theorem ofAccountTargets_eq (account : Int) :
    ofAccountTargets targets batchSize now account =
      (ofAccount (targets.map fun target => target.asItem (request target)) batchSize now
        account).map withoutRequests := by
  have group : (targets.map fun target => target.asItem (request target)).filter
      (·.account == account) = (targets.filter (·.account == account)).map fun target =>
        target.asItem (request target) := by
    rw [List.filter_map]
    rfl
  have unnamed : ∀ rest : List Target,
      (rest.map fun target => target.asItem (request target)).find?
        (fun item => !item.org.isEmpty) = none := by
    intro rest
    simp [Target.asItem]
  simp only [ofAccountTargets, ofAccount, group, unnamed, map_pieces, List.map_map]
  apply List.map_congr_left
  intro piece _
  simp [withoutRequests, Target.asItem, Function.comp_def]

/-- Systems that are sent on request make up the messages of uploads without organizations, less the
requests. -/
theorem ofTargets_eq_map_ofItems :
    ofTargets targets batchSize now =
      (ofItems (targets.map fun target => target.asItem (request target)) batchSize now).map
        withoutRequests := by
  have accounts : (targets.map fun target => target.asItem (request target)).map (·.account) =
      targets.map (·.account) := by
    rw [List.map_map]
    rfl
  rw [ofTargets_eq, ofItems_eq, List.map_flatMap, accounts]
  simp only [← ofAccountTargets_eq]

/-- The systems of an account that are sent on request are in their order. -/
theorem systems_ofTargets (account : Int) :
    ((ofTargets targets batchSize now).filter (·.account == account)).flatMap (·.systems) =
      (targets.filter (·.account == account)).map (·.inventoryId) := by
  have uploads := systems_ofItems (targets.map fun target => target.asItem "") batchSize now account
  rw [List.filter_map, List.map_map] at uploads
  rw [ofTargets_eq_map_ofItems targets (fun _ => "") batchSize now, List.filter_map,
    List.flatMap_map]
  exact uploads

/-- A message on request is for the account of some of the systems. -/
theorem account_of_mem_ofTargets {m : Evaluation} (mem : m ∈ ofTargets targets batchSize now) :
    ∃ target ∈ targets, target.account = m.account := by
  rw [ofTargets_eq, List.mem_flatMap] at mem
  obtain ⟨account, known, mem⟩ := mem
  obtain ⟨_, _, rfl⟩ := List.mem_map.mp mem
  exact List.mem_map.mp (mem_ascending.mp known)

end Evaluation

/-- Uploads are grouped by accounts and cut into messages without a loss, and so are the systems
that are sent on request. -/
theorem uploads_grouped (batchSize : Nat) (now : Instant) :
    (∀ items, Evaluation.Groups items batchSize now (Evaluation.ofItems items batchSize now)) ∧
    ∀ (targets : List Target) (request : Target → String),
      Group.cut? batchSize now (Group.collect (·.account) Group.addTarget targets) =
        some (Evaluation.ofTargets targets batchSize now) ∧
      Evaluation.ofTargets targets batchSize now =
        (Evaluation.ofItems (targets.map fun target => target.asItem (request target)) batchSize
          now).map Evaluation.withoutRequests := by
  constructor
  · intro items
    exact Evaluation.groups_ofItems items batchSize now
  · intro targets request
    exact ⟨Evaluation.cut?_collect_targets targets batchSize now,
      Evaluation.ofTargets_eq_map_ofItems targets request batchSize now⟩

/-- The uploads of account 2 stand together behind that of account 1, in two messages. -/
example :
    (Evaluation.ofItems [⟨"a", 2, "", "p"⟩, ⟨"b", 1, "o", "q"⟩, ⟨"c", 2, "n", "r"⟩, ⟨"d", 2, "m", "s"⟩]
        2 ⟨0, 0⟩).map (fun m => (m.account, m.org, m.systems.zip m.requests)) =
      [(1, some "o", [("b", "q")]), (2, some "n", [("a", "p"), ("c", "r")]),
        (2, some "n", [("d", "s")])] := by
  decide +kernel

end FleetRoster
