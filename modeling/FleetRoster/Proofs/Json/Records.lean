import FleetRoster.Json.Decode

/-!
# What decoded records hold

A record that was decoded from a value holds under each of its fields what the member of that name
decodes to, or what it held before anything was read, if there is no such member. A record that was
given as a sequence holds under its first field what the first item decodes to. Other members and
items have no part in it.
-/

namespace FleetRoster.Json

variable {σ β : Type}

/-! ## Fields -/

namespace Field

/-- A field leaves a part of the record alone. -/
def Spares (f : Field σ) (part : σ → β) : Prop :=
  ∀ {source s put}, f.read source s = .ok put → ∀ built, part (put built) = part built

/-- A field puts what a decoder reads into a part of the record. -/
def Fills (f : Field σ) (d : Decoder β) (part : σ → β) : Prop :=
  ∀ {source s put}, f.read source s = .ok put →
    ∃ b, d source s = .ok b ∧ ∀ built, part (put built) = b

variable {α : Type} {name : String} {absence : Absence} {d : Decoder α} {put : α → σ → σ}

@[simp]
theorem name_of : (Field.of name absence d put).name = name :=
  rfl

theorem read_of_eq_ok {source : Source} {s : Sketch} {change : σ → σ} :
    (Field.of name absence d put).read source s = .ok change ↔
      ∃ a, d source s = .ok a ∧ change = put a := by
  cases read : d source s with
  | error why => simp [Field.of, read, Except.map]
  | ok a => simp [Field.of, read, Except.map, eq_comm]

@[simp]
theorem spares_of {part : σ → β} (apart : ∀ a built, part (put a built) = part built) :
    (Field.of name absence d put).Spares part := by
  intro source s change read built
  obtain ⟨a, _, rfl⟩ := read_of_eq_ok.mp read
  exact apart a built

@[simp]
theorem fills_of {part : σ → α} (own : ∀ a built, part (put a built) = a) :
    (Field.of name absence d put).Fills d part := by
  intro source s change read
  obtain ⟨a, decoded, rfl⟩ := read_of_eq_ok.mp read
  exact ⟨a, decoded, own a⟩

end Field

/-- One field of a record fills a part of it, and the others leave that part alone. -/
structure Record.Keeps (r : Record σ) (name : String) (d : Decoder β) (part : σ → β) : Prop where
  isField : name ∈ r.fields.map (·.name)
  own : ∀ f ∈ r.fields, f.name = name → f.Fills d part
  others : ∀ f ∈ r.fields, f.name ≠ name → f.Spares part

namespace Record

variable {r : Record σ} {name : String} {d : Decoder β} {part : σ → β} {source : Source}
  {members : List (String × Value)} {items : List Sketch} {seen seen' : List String}
  {built built' x : σ}

/-! ## Objects -/

/-- A member that was read: its name is that of no field, or of a field that was not read before. -/
theorem readMembers_cons {n : String} {v : Value}
    (read : r.readMembers source (Sketch.ofMembers ((n, v) :: members)) seen built =
      .ok (seen', built')) :
    (r.fields.find? (fun f => f.name == n) = none ∧
      r.readMembers source (Sketch.ofMembers members) seen built = .ok (seen', built')) ∨
    ∃ f put, r.fields.find? (fun f => f.name == n) = some f ∧ n ∉ seen ∧
      f.read source (.ofValue v) = .ok put ∧
      r.readMembers source (Sketch.ofMembers members) (n :: seen) (put built) =
        .ok (seen', built') := by
  rw [Sketch.ofMembers, readMembers] at read
  split at read
  next unknown =>
    split at read
    next => exact .inl ⟨unknown, read⟩
    next => contradiction
  next f found =>
    split at read
    next => contradiction
    next new =>
      cases reads : f.read source (.ofValue v) with
      | error why => rw [reads] at read; contradiction
      | ok put =>
          rw [reads] at read
          exact .inr ⟨f, put, found, by simpa using new, reads, read⟩

/-- A field that was read is not read again. -/
theorem Keeps.of_seen (keeps : r.Keeps name d part) (mem : name ∈ seen)
    (read : r.readMembers source (Sketch.ofMembers members) seen built = .ok (seen', built')) :
    part built' = part built := by
  induction members generalizing seen built with
  | nil =>
      cases read
      rfl
  | cons member rest ih =>
      rcases readMembers_cons read with ⟨_, read⟩ | ⟨f, put, found, new, reads, read⟩
      · exact ih mem read
      · have named : f.name = member.1 := by simpa using List.find?_some found
        have other : f.name ≠ name := by
          rintro rfl
          exact new (named ▸ mem)
        rw [ih (List.mem_cons_of_mem _ mem) read]
        exact keeps.others f (List.mem_of_find?_eq_some found) other reads built

/-- A field that was not read holds what its member decodes to, if there is one. -/
theorem Keeps.of_unseen (keeps : r.Keeps name d part) (new : name ∉ seen)
    (read : r.readMembers source (Sketch.ofMembers members) seen built = .ok (seen', built')) :
    (Members.get? members name = none ∧ part built' = part built) ∨
      ∃ v, Members.get? members name = some v ∧ d source (.ofValue v) = .ok (part built') := by
  induction members generalizing seen built with
  | nil =>
      cases read
      exact .inl ⟨rfl, rfl⟩
  | cons member rest ih =>
      rcases member with ⟨n, v⟩
      by_cases same : n = name
      · subst same
        refine .inr ⟨v, by simp [Members.get?], ?_⟩
        rcases readMembers_cons read with ⟨unknown, _⟩ | ⟨f, put, found, _, reads, read⟩
        · obtain ⟨f, mem, named⟩ := List.mem_map.mp keeps.isField
          exact absurd (beq_iff_eq.mpr named) (List.find?_eq_none.mp unknown f mem)
        · have named : f.name = n := by simpa using List.find?_some found
          obtain ⟨b, decoded, put_part⟩ :=
            keeps.own f (List.mem_of_find?_eq_some found) named reads
          rw [keeps.of_seen (List.mem_cons_self ..) read, put_part]
          exact decoded
      · have skip : Members.get? ((n, v) :: rest) name = Members.get? rest name := by
          simp [Members.get?, same]
        rw [skip]
        rcases readMembers_cons read with ⟨_, read⟩ | ⟨f, put, found, _, reads, read⟩
        · exact ih new read
        · have named : f.name = n := by simpa using List.find?_some found
          have kept : part (put built) = part built :=
            keeps.others f (List.mem_of_find?_eq_some found) (named ▸ same) reads built
          rw [← kept]
          exact ih (by simpa [Ne.symm same] using new) read

/-- A record that was decoded from an object holds what its members decode to. -/
theorem Keeps.of_object (keeps : r.Keeps name d part)
    (decoded : r.decode .value (.ofValue (.object members)) = .ok x) :
    (Members.get? members name = none ∧ part x = part r.blank) ∨
      ∃ v, Members.get? members name = some v ∧ d .value (.ofValue v) = .ok (part x) := by
  rw [Sketch.ofValue, decode] at decoded
  change (r.readMembers .value (Sketch.ofMembers members) [] r.blank >>= _) = _ at decoded
  cases read : r.readMembers .value (Sketch.ofMembers members) [] r.blank with
  | error why => rw [read] at decoded; contradiction
  | ok result =>
      rcases result with ⟨seen, built⟩
      cases lacks : r.lacking? seen with
      | some missing => simp [read, lacks, bind, Except.bind] at decoded
      | none =>
          have ends : built = x := by
            simpa [read, lacks, bind, Except.bind] using decoded
          rw [← ends]
          exact keeps.of_unseen (List.not_mem_nil) read

/-! ## Sequences -/

/-- Fields that leave a part alone leave it alone in a sequence. -/
theorem readItems_spares {closed : Bool} {total position : Nat} {fields : List (Field σ)}
    (spares : ∀ f ∈ fields, f.Spares part)
    (read : r.readItems source closed total fields items position built = .ok built') :
    part built' = part built := by
  induction fields generalizing items position built with
  | nil =>
      unfold readItems at read
      split at read
      all_goals
        split at read
        next => cases read; rfl
        next => contradiction
  | cons f fields ih =>
      have rest := List.forall_mem_cons.mp spares
      cases items with
      | nil =>
          rw [readItems] at read
          split at read
          next => contradiction
          next =>
            split at read
            next => exact ih rest.2 read
            next => contradiction
      | cons s items =>
          rw [readItems] at read
          cases reads : f.read source s with
          | error why => rw [reads] at read; contradiction
          | ok put =>
              rw [reads] at read
              rw [ih rest.2 read]
              exact rest.1 reads built

/-- A record that was decoded from a sequence holds under its first field what the first item decodes
to. -/
theorem Keeps.of_array {f : Field σ} {fields : List (Field σ)} {values : List Value}
    (keeps : r.Keeps name d part) (first : r.fields = f :: fields) (named : f.name = name)
    (once : ∀ g ∈ fields, g.name ≠ name)
    (decoded : r.decode .value (.ofValue (.array values)) = .ok x) :
    (values = [] ∧ part x = part r.blank) ∨
      ∃ v rest, values = v :: rest ∧ d .value (.ofValue v) = .ok (part x) := by
  have spares : ∀ g ∈ fields, g.Spares part := fun g mem =>
    keeps.others g (first ▸ List.mem_cons_of_mem f mem) (once g mem)
  rw [Sketch.ofValue, decode] at decoded
  change r.readItems .value true _ r.fields (Sketch.ofValues values) 0 r.blank = _ at decoded
  rw [first] at decoded
  cases values with
  | nil =>
      rw [Sketch.ofValues, readItems] at decoded
      split at decoded
      next => contradiction
      next =>
        split at decoded
        next => exact .inl ⟨rfl, readItems_spares spares decoded⟩
        next => contradiction
  | cons v rest =>
      rw [Sketch.ofValues, readItems] at decoded
      cases reads : f.read .value (.ofValue v) with
      | error why => rw [reads] at decoded; contradiction
      | ok put =>
          rw [reads] at decoded
          obtain ⟨b, found, put_part⟩ := keeps.own f (first ▸ List.mem_cons_self ..) named reads
          refine .inr ⟨v, rest, rfl, ?_⟩
          rw [readItems_spares spares decoded, put_part]
          exact found

/-- A record is decoded from an object or from a sequence. -/
theorem shape_of_decode {v : Value} (decoded : r.decode source (.ofValue v) = .ok x) :
    (∃ members, v = .object members) ∨ ∃ items, v = .array items := by
  cases v with
  | object members => exact .inl ⟨members, rfl⟩
  | array items => exact .inr ⟨items, rfl⟩
  | null => contradiction
  | bool b => contradiction
  | number n => contradiction
  | string s => contradiction

end Record

/-! ## Texts and what may be absent -/

namespace Decoder

variable {source : Source} {v : Value} {d : Decoder β}

/-- A text comes from a string. -/
theorem text_eq_ok {t : String} : text source (.ofValue v) = .ok t ↔ v = .string t := by
  cases v <;> simp [Sketch.ofValue, text, Sketch.unlike, Sketch.found?]

theorem optional_of_ne_null (there : v ≠ .null) :
    d.optional source (.ofValue v) = (d source (.ofValue v)).map .some := by
  cases v with
  | null => contradiction
  | _ => rfl

/-- What may be absent comes from null, or it is there and comes from another value. -/
theorem optional_eq_ok {b : Option β} (decoded : d.optional source (.ofValue v) = .ok b) :
    (v = .null ∧ b = none) ∨ v ≠ .null ∧ ∃ x, d source (.ofValue v) = .ok x ∧ b = some x := by
  by_cases null : v = .null
  · subst null
    cases decoded
    exact .inl ⟨rfl, rfl⟩
  · rw [optional_of_ne_null null] at decoded
    cases found : d source (.ofValue v) with
    | error why => rw [found] at decoded; contradiction
    | ok x =>
        rw [found] at decoded
        cases decoded
        exact .inr ⟨null, x, rfl, rfl⟩

/-- A text that may be absent is that of the string. -/
theorem eq_asString_of_optional {t : Option String}
    (decoded : text.optional source (.ofValue v) = .ok t) : t = v.asString? := by
  rcases optional_eq_ok decoded with ⟨rfl, rfl⟩ | ⟨_, s, found, rfl⟩
  · rfl
  · rw [text_eq_ok.mp found]
    rfl

end Decoder

end FleetRoster.Json
