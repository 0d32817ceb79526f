import FleetRoster.Json.Decode
import FleetRoster.Proofs.Json.Members
import FleetRoster.Proofs.Json.Reading

/-!
# Values that were read

A value that was read from a text has its members in the order of their names, and if it is taken as
a text again, the same value is read. What is read does not depend on the order in which members of
different names stand in a text, at any depth.
-/

namespace FleetRoster.Json

open Sketch

/-! ## Reading again -/

/-- A value is read as itself, with fewer than `depth` containers inside one another. -/
def Value.IsRead (depth : Nat) (v : Value) : Prop :=
  (ofValue v).value? depth = some v

theorem values?_ofValues {depth : Nat} {vs : List Value} (read : ∀ v ∈ vs, v.IsRead depth) :
    values? depth (ofValues vs) = some vs := by
  induction vs with
  | nil => rfl
  | cons v vs ih =>
      rw [List.forall_mem_cons] at read
      have first : (ofValue v).value? depth = some v := read.1
      rw [ofValues, values?, first, ih read.2]
      rfl

theorem memberValues?_ofMembers {depth : Nat} {members : Members}
    (read : ∀ m ∈ members, m.2.IsRead depth) :
    memberValues? depth (ofMembers members) = some members := by
  induction members with
  | nil => rfl
  | cons m rest ih =>
      rw [List.forall_mem_cons] at read
      have first : (ofValue m.2).value? depth = some m.2 := read.1
      rw [ofMembers, memberValues?, ih read.2]
      simp [first]

theorem isRead_array {depth : Nat} {items : List Value} (room : 1 < depth)
    (read : ∀ v ∈ items, v.IsRead (depth - 1)) : (Value.array items).IsRead depth := by
  rw [Value.IsRead, ofValue, value?, values?_ofValues read]
  simp [room]

theorem isRead_texts {depth : Nat} (room : 1 < depth) (items : List String) :
    (Value.texts items).IsRead depth :=
  isRead_array room fun v there => by
    obtain ⟨s, -, rfl⟩ := List.mem_map.mp there
    rfl

theorem isRead_object {depth : Nat} {members : Members} (room : 1 < depth)
    (sorted : members.Sorted) (read : ∀ m ∈ members, m.2.IsRead (depth - 1)) :
    (Value.object members).IsRead depth := by
  rw [Value.IsRead, ofValue, value?, memberValues?_ofMembers read]
  simp [room, Members.ofList_of_sorted sorted]

mutual

/-- What was read is read again as itself. -/
theorem isRead_of_value? : (s : Sketch) → ∀ {depth : Nat} {v : Value},
    s.value? depth = some v → v.IsRead depth
  | .broken, _, _, read => nomatch read
  | .null, _, _, read => by cases read; rfl
  | .bool b, _, _, read => by cases read; rfl
  | .number n, _, _, read => by
      obtain ⟨n, rfl, rfl⟩ := Option.map_eq_some_iff.mp read
      rfl
  | .string s, _, _, read => by
      obtain ⟨n, rfl, rfl⟩ := Option.map_eq_some_iff.mp read
      rfl
  | .array items closed, depth, _, read => by
      rw [value?] at read
      obtain ⟨within, read⟩ := Option.ite_none_right_eq_some.mp read
      obtain ⟨vs, items', rfl⟩ := Option.map_eq_some_iff.mp read
      exact isRead_array (by simp at within; exact within.2) (isRead_of_values? items items')
  | .object members closed, depth, _, read => by
      rw [value?] at read
      obtain ⟨within, read⟩ := Option.ite_none_right_eq_some.mp read
      obtain ⟨ms, members', rfl⟩ := Option.map_eq_some_iff.mp read
      exact isRead_object (by simp at within; exact within.2) (Members.sorted_ofList ms)
        fun m there => isRead_of_memberValues? members members' m (Members.mem_of_mem_ofList there)

theorem isRead_of_values? : (items : List Sketch) → ∀ {depth : Nat} {vs : List Value},
    values? depth items = some vs → ∀ v ∈ vs, v.IsRead depth
  | [], _, _, read => by cases read; nofun
  | s :: rest, depth, vs, read => by
      rw [values?] at read
      obtain ⟨v, first, read⟩ := Option.bind_eq_some_iff.mp read
      obtain ⟨others, later, read⟩ := Option.bind_eq_some_iff.mp read
      cases read
      exact List.forall_mem_cons.mpr ⟨isRead_of_value? s first, isRead_of_values? rest later⟩

theorem isRead_of_memberValues? : (members : List (Option String × Sketch)) →
    ∀ {depth : Nat} {ms : Members},
      memberValues? depth members = some ms → ∀ m ∈ ms, m.2.IsRead depth
  | [], _, _, read => by cases read; nofun
  | (name, s) :: rest, depth, ms, read => by
      rw [memberValues?] at read
      obtain ⟨n, isNamed, read⟩ := Option.bind_eq_some_iff.mp read
      obtain ⟨v, first, read⟩ := Option.bind_eq_some_iff.mp read
      obtain ⟨others, later, read⟩ := Option.bind_eq_some_iff.mp read
      cases read
      exact List.forall_mem_cons.mpr ⟨isRead_of_value? s first, isRead_of_memberValues? rest later⟩

end

theorem items_of_isRead {depth : Nat} {items : List Value}
    (read : (Value.array items).IsRead depth) :
    1 < depth ∧ ∀ v ∈ items, v.IsRead (depth - 1) := by
  rw [Value.IsRead, ofValue, value?] at read
  obtain ⟨within, read⟩ := Option.ite_none_right_eq_some.mp read
  obtain ⟨vs, items', same⟩ := Option.map_eq_some_iff.mp read
  cases same
  exact ⟨by simpa using within, isRead_of_values? _ items'⟩

/-- The members of an object that is read as itself are sorted, and each is read as itself. -/
theorem members_of_isRead {depth : Nat} {members : Members}
    (read : (Value.object members).IsRead depth) :
    1 < depth ∧ members.Sorted ∧ ∀ m ∈ members, m.2.IsRead (depth - 1) := by
  rw [Value.IsRead, ofValue, value?] at read
  obtain ⟨within, read⟩ := Option.ite_none_right_eq_some.mp read
  obtain ⟨ms, members', same⟩ := Option.map_eq_some_iff.mp read
  cases same
  exact ⟨by simpa using within, Members.sorted_ofList ms, fun m there =>
    isRead_of_memberValues? _ members' m (Members.mem_of_mem_ofList there)⟩

mutual

/-- What is read within a limit is read within a greater one. -/
theorem isRead_mono : (v : Value) → ∀ {depth more : Nat}, v.IsRead depth → depth ≤ more →
    v.IsRead more
  | .null, _, _, _, _ => rfl
  | .bool _, _, _, _, _ => rfl
  | .number _, _, _, _, _ => rfl
  | .string _, _, _, _, _ => rfl
  | .array items, _, _, read, le => by
      obtain ⟨room, each⟩ := items_of_isRead read
      exact isRead_array (by omega) fun v there => isRead_mono_items items v there (each v there)
        (by omega)
  | .object members, _, _, read, le => by
      obtain ⟨room, sorted, each⟩ := members_of_isRead read
      exact isRead_object (by omega) sorted fun m there =>
        isRead_mono_members members m there (each m there) (by omega)

theorem isRead_mono_items : (items : List Value) → ∀ v ∈ items, ∀ {depth more : Nat},
    v.IsRead depth → depth ≤ more → v.IsRead more
  | [] => nofun
  | v :: rest => List.forall_mem_cons.mpr ⟨isRead_mono v, isRead_mono_items rest⟩

theorem isRead_mono_members : (members : List (String × Value)) → ∀ m ∈ members,
    ∀ {depth more : Nat}, m.2.IsRead depth → depth ≤ more → m.2.IsRead more
  | [] => nofun
  | (_, v) :: rest => List.forall_mem_cons.mpr ⟨isRead_mono v, isRead_mono_members rest⟩

end

/-- What was read from a text is read as itself. -/
theorem isRead_of_readValue {text : Text.Payload} {v : Value}
    (read : Json.readValue text = .ok v) : v.IsRead depthLimit := by
  rw [Json.readValue] at read
  split at read
  next w found =>
    cases read
    rw [read?] at found
    split at found
    next => exact isRead_of_value? _ found
    next => contradiction
  next => contradiction

/-! ## Members in another order -/

/-- The members of an object may stand in another order at any depth, but members of one name in
theirs. -/
inductive Value.Rearranged : Value → Value → Prop
  | refl (v : Value) : Rearranged v v
  | trans {u v w : Value} (first : Rearranged u v) (second : Rearranged v w) : Rearranged u w
  | members {members others : Members} (same : ∀ name, members.named name = others.named name) :
      Rearranged (.object members) (.object others)
  | item {v w : Value} (before after : List Value) (inside : Rearranged v w) :
      Rearranged (.array (before ++ v :: after)) (.array (before ++ w :: after))
  | member {v w : Value} (before after : Members) (name : String) (inside : Rearranged v w) :
      Rearranged (.object (before ++ (name, v) :: after)) (.object (before ++ (name, w) :: after))

/-- What is read of members is told from what is read of each. -/
theorem memberValues?_eq (depth : Nat) (members : Members) :
    memberValues? depth (ofMembers members) =
      if ∀ m ∈ members, ((ofValue m.2).value? depth).isSome then
        some (members.map fun m => (m.1, ((ofValue m.2).value? depth).getD .null))
      else none := by
  induction members with
  | nil => rfl
  | cons m rest ih =>
      rw [ofMembers, memberValues?, ih]
      cases first : (ofValue m.2).value? depth with
      | none => simp [first]
      | some v =>
          simp only [List.forall_mem_cons, first, Option.isSome_some, true_and, List.map_cons,
            Option.getD_some]
          split <;> rfl

/-- What is read of an object's members does not depend on the order of members of different
names. -/
theorem map_ofList_congr {members others : Members}
    (same : ∀ name, members.named name = others.named name) (depth : Nat) :
    (memberValues? depth (ofMembers members)).map Members.ofList =
      (memberValues? depth (ofMembers others)).map Members.ofList := by
  have there (m : String × Value) : m ∈ members ↔ m ∈ others := by
    rw [← Members.mem_named, same, Members.mem_named]
  rw [memberValues?_eq, memberValues?_eq]
  simp only [there]
  split
  next =>
    simp only [Option.map_some, Option.some.injEq]
    apply Members.ofList_congr
    intro name
    rw [Members.named_map, Members.named_map, same]
  next => rfl

theorem values?_congr {depth : Nat} {v w : Value}
    (same : (ofValue v).value? depth = (ofValue w).value? depth) (before after : List Value) :
    values? depth (ofValues (before ++ v :: after)) =
      values? depth (ofValues (before ++ w :: after)) := by
  induction before with
  | nil => simp only [List.nil_append, ofValues, values?, same]
  | cons u before ih => simp only [List.cons_append, ofValues, values?, ih]

theorem memberValues?_congr {depth : Nat} {v w : Value}
    (same : (ofValue v).value? depth = (ofValue w).value? depth) (before after : Members)
    (name : String) :
    memberValues? depth (ofMembers (before ++ (name, v) :: after)) =
      memberValues? depth (ofMembers (before ++ (name, w) :: after)) := by
  induction before with
  | nil => simp only [List.nil_append, ofMembers, memberValues?, same]
  | cons m before ih => simp only [List.cons_append, ofMembers, memberValues?, ih]

/-- The same value is read from values whose members stand in another order. -/
theorem value?_of_rearranged {v w : Value} (rearranged : v.Rearranged w) (depth : Nat) :
    (ofValue v).value? depth = (ofValue w).value? depth := by
  induction rearranged generalizing depth with
  | refl => rfl
  | trans _ _ first second => exact (first depth).trans (second depth)
  | members same =>
      have read := congrArg (Option.map Value.object) (map_ofList_congr same (depth - 1))
      simp only [Option.map_map] at read
      rw [ofValue, ofValue, value?, value?]
      exact if_congr Iff.rfl read rfl
  | item before after _ ih =>
      rw [ofValue, ofValue, value?, value?, values?_congr (ih _)]
  | member before after name _ ih =>
      rw [ofValue, ofValue, value?, value?, memberValues?_congr (ih _)]

/-- The same value is read from texts that differ in blanks, in the way in which their strings are
spelled, and in the order of members of different names. -/
theorem readValue_of_rearranged {v w : Value} (rearranged : v.Rearranged w) {s t : String}
    (spelled : v.IsText s) (alsoSpelled : w.IsText t) :
    Json.readValue (Text.payload s) = Json.readValue (Text.payload t) := by
  rw [Json.readValue, Json.readValue, read?, read?, ofPayload_of_isText spelled,
    ofPayload_of_isText alsoSpelled]
  dsimp only
  rw [value?_of_rearranged rearranged]

end FleetRoster.Json
