import FleetRoster.Json.Timestamp
import FleetRoster.Proofs.Calendar.Texts
import FleetRoster.Proofs.Json.Reading
import FleetRoster.Proofs.Json.Records
import FleetRoster.Proofs.Text.Bytes

/-!
# Decoding what was written

A text of a value is decoded as the value is, and the bytes that are written for a value are such a
text. What stands in a record as it was written comes back: texts and numbers as they are, an instant
as far as its text is read back, null as absence, and an object of the record's fields member by member.
-/

namespace FleetRoster.Json

variable {α : Type}

/-! ## Texts -/

/-- A text of a value is decoded as the value is. -/
theorem decode_of_isText (d : Decoder α) {v : Value} {text : String} (spelled : v.IsText text) :
    decode d (Text.payload text) = d (.text depthLimit) (Sketch.ofValue v) := by
  rw [decode, ofPayload_of_isText spelled]
  cases read : d (.text depthLimit) (Sketch.ofValue v) <;> simp [read]

/-- The bytes that are written for a value are decoded as the value is. -/
theorem decode_text (d : Decoder α) {v : Value} (integral : v.IsIntegral) :
    decode d (Text.decodeBytes (Text.encodeBytes v.text)) =
      d (.text depthLimit) (Sketch.ofValue v) := by
  rw [Text.decodeBytes_encodeBytes]
  exact decode_of_isText d (Value.isText_text integral)

/-! ## Parts of records -/

namespace Decoder

variable {source : Source}

@[simp]
theorem text_string (s : String) : text source (Sketch.ofValue (.string s)) = .ok s :=
  rfl

theorem int32_int {n : Int} (inRange : -2 ^ 31 ≤ n ∧ n < 2 ^ 31) :
    int32 source (Sketch.ofValue (.int n)) = .ok n :=
  if_pos inRange

theorem timestamp_timestamp {a : Calendar.Instant} (readsBack : a.ReadsBack) :
    timestamp source (Sketch.ofValue (.timestamp a)) = .ok a := by
  rw [Calendar.Instant.ReadsBack] at readsBack
  rw [Value.timestamp, Sketch.ofValue, timestamp, readsBack]

/-- What is absent is null, and what is there is decoded if it is not. -/
theorem optional_orNull {d : Decoder α} {write : α → Value} {x : Option α}
    (visible : ∀ a ∈ x, write a ≠ .null)
    (decoded : ∀ a ∈ x, d source (Sketch.ofValue (write a)) = .ok a) :
    d.optional source (Sketch.ofValue (.orNull write x)) = .ok x := by
  cases x with
  | none => rfl
  | some a =>
      rw [Value.orNull, optional_of_ne_null (visible a rfl), decoded a rfl]
      rfl

theorem items_texts {inside : Source} (texts : List String) :
    items text inside true (Sketch.ofValues (texts.map .string)) = .ok texts := by
  induction texts with
  | nil => rfl
  | cons s texts ih =>
      rw [List.map_cons, Sketch.ofValues, items, text_string, ih]
      rfl

theorem list_texts {inside : Source} (enters : source.enter = .ok inside) (texts : List String) :
    list text source (Sketch.ofValue (.texts texts)) = .ok texts := by
  rw [Value.texts, Sketch.ofValue, list, enters]
  exact items_texts texts

/-- Texts come from strings, one from each. -/
theorem eq_of_items_text {inside : Source} {closed : Bool} {values : List Value}
    {texts : List String}
    (decoded : items text inside closed (Sketch.ofValues values) = .ok texts) :
    values = texts.map .string := by
  induction values generalizing texts with
  | nil =>
      rw [Sketch.ofValues, items] at decoded
      split at decoded
      next => cases decoded; rfl
      next => contradiction
  | cons v values ih =>
      rw [Sketch.ofValues, items] at decoded
      cases first : text inside (Sketch.ofValue v) with
      | error why => rw [first] at decoded; contradiction
      | ok s =>
          cases others : items text inside closed (Sketch.ofValues values) with
          | error why => rw [first, others] at decoded; contradiction
          | ok rest =>
              rw [first, others] at decoded
              cases decoded
              rw [text_eq_ok.mp first, ih others, List.map_cons]

/-- A list of texts comes from the array of its texts. -/
theorem eq_of_list_text {v : Value} {texts : List String}
    (decoded : list text source (Sketch.ofValue v) = .ok texts) : v = .texts texts := by
  cases v with
  | array values =>
      rw [Sketch.ofValue, list] at decoded
      cases enters : source.enter with
      | error why => rw [enters] at decoded; contradiction
      | ok inside =>
          rw [enters] at decoded
          rw [Value.texts, eq_of_items_text decoded]
  | null => contradiction
  | bool b => contradiction
  | number n => contradiction
  | string s => contradiction
  | object members => contradiction

end Decoder

namespace Record

variable {σ : Type} {r : Record σ} {source : Source}

/-- Members that make a record of what was built of it so far: each one is decoded into a field that
was not read before, and then no field is lacking. -/
inductive Builds (r : Record σ) (source : Source) : List String → σ → Members → σ → Prop
  | done {seen : List String} {x : σ} (complete : r.lacking? seen = none) :
      Builds r source seen x [] x
  | field {β : Type} {name : String} {absence : Absence} {d : Decoder β} {put : β → σ → σ}
      {v : Value} {b : β} {members : Members} {seen : List String} {built x : σ}
      (known : r.fields.find? (·.name == name) = some (.of name absence d put))
      (new : seen.contains name = false) (decoded : d source (Sketch.ofValue v) = .ok b)
      (rest : Builds r source (name :: seen) (put b built) members x) :
      Builds r source seen built ((name, v) :: members) x

theorem Builds.readMembers {seen : List String} {built x : σ} {members : Members}
    (builds : r.Builds source seen built members x) :
    ∃ seen', r.readMembers source (Sketch.ofMembers members) seen built = .ok (seen', x) ∧
      r.lacking? seen' = none := by
  induction builds with
  | done complete => exact ⟨_, rfl, complete⟩
  | field known new decoded _ ih =>
      obtain ⟨seen', read, complete⟩ := ih
      refine ⟨seen', ?_, complete⟩
      rw [Sketch.ofMembers, Record.readMembers, known, ← read]
      simp only [new, Bool.false_eq_true, if_false, Field.of, decoded]
      rfl

/-- A record is decoded from an object of members that make it. -/
theorem decode_of_builds {depth : Nat} (room : 1 < depth) {members : Members} {x : σ}
    (builds : r.Builds (.text (depth - 1)) [] r.blank members x) :
    r.decode (.text depth) (Sketch.ofValue (.object members)) = .ok x := by
  obtain ⟨seen, read, complete⟩ := builds.readMembers
  rw [Sketch.ofValue, decode, Source.enter, if_pos room]
  change (r.readMembers _ _ _ _ >>= _) = _
  rw [read]
  simp only [bind, Except.bind, complete, Bool.not_true, Bool.false_eq_true, if_false]

end Record

end FleetRoster.Json
