import FleetRoster.Outbound.Buffer

/-!
# The two lists of the buffer

The event buffer keeps uploads and audit events apart, and each of its operations writes to both
lists. As long as they are in step the buffer stands for one list of entries, each of which is an
upload with its audit event: adding an upload adds one entry at the end, and clearing both lists
takes all entries away.
-/

namespace FleetRoster.Buffer

/-- As many audit events wait as uploads. -/
def IsEven (b : Buffer) : Prop :=
  b.items.length = b.audits.length

/-- Nothing waits, neither an upload nor an audit event. -/
structure IsClear (b : Buffer) : Prop where
  items : b.items = []
  audits : b.audits = []

/-- The uploads and the audit events with the same places in their lists. -/
def entries (b : Buffer) : List (Item × Audit) :=
  b.items.zip b.audits

/-- The same waits in two buffers. -/
structure SameEntries (b b' : Buffer) : Prop where
  items : b.items = b'.items
  audits : b.audits = b'.audits

variable {b b' : Buffer}

theorem SameEntries.refl (b : Buffer) : b.SameEntries b :=
  ⟨rfl, rfl⟩

theorem SameEntries.of_eq (same : b = b') : b.SameEntries b' :=
  same ▸ .refl b

theorem SameEntries.entries (same : b.SameEntries b') : b.entries = b'.entries := by
  rw [Buffer.entries, same.items, same.audits]
  rfl

theorem SameEntries.isEven (same : b.SameEntries b') (even : b'.IsEven) : b.IsEven := by
  rw [IsEven, same.items, same.audits]
  exact even

theorem isClear_ofCapacity (capacity batchSize idleInterval : Nat) :
    (ofCapacity capacity batchSize idleInterval).IsClear :=
  ⟨rfl, rfl⟩

theorem IsClear.isEven (clear : b.IsClear) : b.IsEven := by
  rw [IsEven, clear.items, clear.audits]
  rfl

theorem IsClear.entries (clear : b.IsClear) : b.entries = [] := by
  rw [Buffer.entries, clear.items]
  rfl

namespace IsEven

/-! ## Nothing is left out -/

theorem map_entries_fst (even : b.IsEven) : b.entries.map (·.1) = b.items :=
  List.map_fst_zip (Nat.le_of_eq even)

theorem map_entries_snd (even : b.IsEven) : b.entries.map (·.2) = b.audits :=
  List.map_snd_zip (Nat.le_of_eq even.symm)

theorem length_entries (even : b.IsEven) : b.entries.length = b.items.length := by
  rw [← even.map_entries_fst, List.length_map]

theorem entries_eq_nil_iff (even : b.IsEven) : b.entries = [] ↔ b.items = [] := by
  rw [← List.length_eq_zero_iff, even.length_entries, List.length_eq_zero_iff]

/-! ## Operations -/

theorem push (even : b.IsEven) (time : Nat) (item : Item) (audit : Audit) :
    (b.push time item audit).IsEven := by
  rw [IsEven] at even
  simp [IsEven, Buffer.push, even]

/-- What is added together has the same place in both lists. -/
theorem entries_push (even : b.IsEven) (time : Nat) (item : Item) (audit : Audit) :
    (b.push time item audit).entries = b.entries ++ [(item, audit)] :=
  List.zip_append even

end IsEven

theorem isClear_emptied (b : Buffer) : b.emptied.IsClear :=
  ⟨rfl, rfl⟩

theorem isEven_emptied (b : Buffer) : b.emptied.IsEven :=
  b.isClear_emptied.isEven

theorem entries_emptied (b : Buffer) : b.emptied.entries = [] :=
  b.isClear_emptied.entries

end FleetRoster.Buffer
