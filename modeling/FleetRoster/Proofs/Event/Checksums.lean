import FleetRoster.Event.Profile
import FleetRoster.Proofs.Json.Canonical
import FleetRoster.Proofs.Json.Decoding

/-!
# Checksums of profiles

The bytes of which a checksum is taken tell everything about a profile: decoded, they give the
profile again. A profile holds what the members of its object are, each under its name and only
once, but for packages that are null, which are as good as none.
-/

namespace FleetRoster.Profile

open Json (DecodeError Decoder Members Sketch Source Value depthLimit)

variable {source : Source} {members : Members} {p q : Profile}

/-! ## Reading members -/

/-- Members that are no packages. -/
def othersOf (members : Members) : Members :=
  members.filter (·.1 ≠ packagesName)

/-- The packages under their name, if there are any. -/
def readPackages (source : Source) (members : Members) (p : Profile) :
    Except DecodeError (Option (List String)) :=
  match members.get? packagesName with
  | some w => (Decoder.list Decoder.text).optional source (Sketch.ofValue w)
  | none => .ok p.packages

/-- Members of distinct names: the packages are decoded, and all others are put in as they are. -/
theorem readMembers_eq (listed : Bool)
    (unlisted : listed = true → packagesName ∉ members.map (·.1))
    (distinct : (members.map (·.1)).Nodup)
    (values : ∀ m ∈ members, Decoder.value source (Sketch.ofValue m.2) = .ok m.2) (p : Profile) :
    readMembers source (Sketch.ofMembers members) listed p =
      (readPackages source members p).map fun packages =>
        ⟨packages, (othersOf members).foldl (fun kept m => kept.insert m.1 m.2) p.others⟩ := by
  induction members generalizing listed p with
  | nil => rfl
  | cons m rest ih =>
      obtain ⟨name, v⟩ := m
      rw [List.map_cons, List.nodup_cons] at distinct
      rw [List.forall_mem_cons] at values
      rw [Sketch.ofMembers, readMembers]
      by_cases isPackages : name = packagesName
      · -- from here on the packages count as listed, and as names are distinct they do not come again
        subst isPackages
        have absent : Members.get? rest packagesName = none :=
          Members.get?_eq_none.mpr fun m there same =>
            distinct.1 (List.mem_map.mpr ⟨m, there, same⟩)
        have new : ¬ listed = true := fun isListed => unlisted isListed List.mem_cons_self
        have kept : othersOf ((packagesName, v) :: rest) = othersOf rest :=
          List.filter_cons_of_neg (by simp)
        rw [if_pos rfl, if_neg new, kept, readPackages, Members.get?_cons, if_pos rfl]
        dsimp only
        cases read : (Decoder.list Decoder.text).optional source (Sketch.ofValue v) with
        | error why => rfl
        | ok packages =>
            have others := ih true (fun _ => distinct.1) distinct.2 values.2 { p with packages }
            rw [readPackages, absent] at others
            exact others
      · have kept : othersOf ((name, v) :: rest) = (name, v) :: othersOf rest :=
          List.filter_cons_of_pos (by simpa using isPackages)
        have same : readPackages source ((name, v) :: rest) p = readPackages source rest p := by
          rw [readPackages, Members.get?_cons, if_neg isPackages, readPackages]
        rw [if_neg isPackages, values.1, kept, same]
        exact ih listed (fun isListed there => unlisted isListed (List.mem_cons_of_mem name there))
          distinct.2 values.2 { p with others := p.others.insert name v }

/-- A profile is decoded from an object with distinct names whose values are read as themselves. -/
theorem decode_object {inside : Source} (enters : source.enter = .ok inside)
    (distinct : (members.map (·.1)).Nodup)
    (values : ∀ m ∈ members, Decoder.value inside (Sketch.ofValue m.2) = .ok m.2) :
    decode source (Sketch.ofValue (.object members)) =
      (readPackages inside members {}).map fun packages =>
        ⟨packages, Members.ofList (othersOf members)⟩ := by
  rw [Sketch.ofValue, decode, enters]
  change (readMembers inside _ false {} >>= _) = _
  rw [readMembers_eq false (fun listed => absurd listed Bool.false_ne_true) distinct values]
  cases readPackages inside members {} <;> rfl

theorem value_of_isRead {v : Value} (read : v.IsRead source.room) :
    Decoder.value source (Sketch.ofValue v) = .ok v := by
  rw [Json.Value.IsRead] at read
  rw [Decoder.value, read]

/-! ## Profiles that were read -/

/-- A profile that was decoded from a text through the value of the text, in which all numbers are
integers of sixty-four bits. -/
structure ComesFrom (p : Profile) (text : Text.Payload) (v : Value) : Prop where
  read : Json.readValue text = .ok v
  integral : v.IsIntegral
  decoded : Json.decodeValue decode v = .ok p

/-- What can be said of the other members of a profile: they are sorted, without the packages, and
were read from a text. -/
structure IsSound (p : Profile) : Prop where
  sorted : p.others.Sorted
  apart : packagesName ∉ p.others.map (·.1)
  read : ∀ m ∈ p.others, m.2.IsRead (depthLimit - 1)
  integral : ∀ m ∈ p.others, m.2.IsIntegral

theorem get?_othersOf (members : Members) (name : String) :
    (othersOf members).get? name = if name = packagesName then none else members.get? name := by
  induction members with
  | nil => simp [othersOf, Members.get?]
  | cons m rest ih =>
      rw [othersOf] at ih ⊢
      rw [List.filter_cons, Members.get?_cons]
      split
      next other =>
        rw [Members.get?_cons, ih]
        split
        next same => rw [if_neg (by simpa [same] using other)]
        next => rfl
      next isPackages =>
        have named : m.1 = packagesName := by simpa using isPackages
        rw [ih]
        split
        next => rfl
        next other => rw [if_neg (by simpa [named, eq_comm] using other)]

variable {text : Text.Payload} {v : Value}

/-- The object of which a profile comes: its members are sorted, the profile has its packages, and
all others are the others of the profile. -/
theorem ComesFrom.exists_members (comes : p.ComesFrom text v) : ∃ members, v = .object members ∧
    Members.Sorted members ∧ (∀ m ∈ members, m.2.IsRead (depthLimit - 1) ∧ m.2.IsIntegral) ∧
      readPackages .value members {} = .ok p.packages ∧ p.others = othersOf members := by
  obtain ⟨read, integral, decoded⟩ := comes
  cases v with
  | object members =>
      obtain ⟨room, sorted, each⟩ := Json.members_of_isRead (Json.isRead_of_readValue read)
      rw [Json.Value.IsIntegral, Json.Value.membersIntegral_iff] at integral
      have values : ∀ m ∈ members, Decoder.value .value (Sketch.ofValue m.2) = .ok m.2 :=
        fun m there => value_of_isRead (Json.isRead_mono m.2 (each m there) (by decide))
      rw [Json.decodeValue, decode_object rfl sorted.nodup values] at decoded
      refine ⟨members, rfl, sorted, fun m there => ⟨each m there, integral m there⟩, ?_⟩
      cases packages : readPackages .value members {} with
      | error why =>
          rw [packages] at decoded
          contradiction
      | ok packages' =>
          rw [packages] at decoded
          cases decoded
          exact ⟨rfl, Members.ofList_of_sorted (sorted.filter _)⟩
  | null => contradiction
  | bool b => contradiction
  | number n => contradiction
  | string s => contradiction
  | array items => contradiction

theorem ComesFrom.isSound (comes : p.ComesFrom text v) : p.IsSound := by
  obtain ⟨members, rfl, sorted, each, -, others⟩ := comes.exists_members
  have there {m : String × Value} (mem : m ∈ p.others) : m ∈ members ∧ m.1 ≠ packagesName := by
    rw [others] at mem
    simpa [othersOf] using mem
  refine ⟨?_, ?_, fun m mem => (each m (there mem).1).1, fun m mem => (each m (there mem).1).2⟩
  · rw [others]
    exact sorted.filter _
  · intro mem
    obtain ⟨m, isThere, same⟩ := List.mem_map.mp mem
    exact (there isThere).2 same

/-! ## The bytes of a profile -/

/-- The members of a profile's object. -/
def allMembers (p : Profile) : Members :=
  (p.packages.toList.map fun packages => (packagesName, .texts packages)) ++ p.others

theorem toValue_eq (p : Profile) : p.toValue = .object p.allMembers := by
  rw [toValue, allMembers]
  cases p.packages <;> rfl

theorem readPackages_allMembers {inside : Source} (enters : source.enter = .ok inside)
    (apart : packagesName ∉ p.others.map (·.1)) :
    readPackages source p.allMembers {} = .ok p.packages := by
  rw [readPackages, allMembers]
  cases p.packages with
  | none =>
      have absent : p.others.get? packagesName = none :=
        Members.get?_eq_none.mpr fun m there same => apart (List.mem_map.mpr ⟨m, there, same⟩)
      simp only [Option.toList_none, List.map_nil, List.nil_append, absent]
  | some packages =>
      simp only [Option.toList_some, List.map_cons, List.cons_append, Members.get?_cons, if_true]
      have visible : Value.texts packages ≠ .null := nofun
      rw [Decoder.optional_of_ne_null visible, Decoder.list_texts enters]
      rfl

namespace IsSound

theorem others_eq (sound : p.IsSound) : othersOf p.allMembers = p.others := by
  have kept : othersOf p.others = p.others :=
    List.filter_eq_self.mpr fun m there => by
      simpa using fun same => sound.apart (List.mem_map.mpr ⟨m, there, same⟩)
  rw [allMembers]
  cases p.packages with
  | none => exact kept
  | some packages => rw [← kept]; simp [othersOf]

theorem nodup (sound : p.IsSound) : (p.allMembers.map (·.1)).Nodup := by
  rw [allMembers]
  cases p.packages with
  | none => exact sound.sorted.nodup
  | some packages => exact List.nodup_cons.mpr ⟨sound.apart, sound.sorted.nodup⟩

theorem isRead_allMembers (sound : p.IsSound) :
    ∀ m ∈ p.allMembers, m.2.IsRead (depthLimit - 1) := by
  rw [allMembers]
  cases p.packages with
  | none => exact sound.read
  | some packages => exact List.forall_mem_cons.mpr ⟨Json.isRead_texts (by decide) packages, sound.read⟩

theorem isIntegral_toValue (sound : p.IsSound) : p.toValue.IsIntegral := by
  rw [toValue_eq, Value.IsIntegral, Value.membersIntegral_iff, allMembers]
  cases p.packages with
  | none => exact sound.integral
  | some packages =>
      exact List.forall_mem_cons.mpr ⟨Value.isIntegral_texts packages, sound.integral⟩

/-- A profile is decoded from its object. -/
theorem decode_toValue (sound : p.IsSound) :
    decode (.text depthLimit) (Sketch.ofValue p.toValue) = .ok p := by
  have values : ∀ m ∈ p.allMembers,
      Decoder.value (.text (depthLimit - 1)) (Sketch.ofValue m.2) = .ok m.2 := fun m there =>
    value_of_isRead (sound.isRead_allMembers m there)
  rw [toValue_eq, decode_object rfl sound.nodup values,
    readPackages_allMembers rfl sound.apart, sound.others_eq,
    Members.ofList_of_sorted sound.sorted]
  rfl

/-- A profile is decoded from its bytes. -/
theorem decode_bytes (sound : p.IsSound) :
    Json.decode decode (Text.decodeBytes p.bytes) = .ok p := by
  rw [bytes, Json.decode_text decode sound.isIntegral_toValue, sound.decode_toValue]

/-- The value of a profile's bytes. -/
theorem readValue_bytes (sound : p.IsSound) :
    Json.readValue (Text.decodeBytes p.bytes) = .ok (.object (Members.ofList p.allMembers)) := by
  have spelled := Value.isText_text sound.isIntegral_toValue
  have read : (Sketch.ofValue p.toValue).value? depthLimit =
      some (.object (Members.ofList p.allMembers)) := by
    rw [toValue_eq, Sketch.ofValue, Sketch.value?,
      Json.memberValues?_ofMembers sound.isRead_allMembers]
    rfl
  rw [bytes, Text.decodeBytes_encodeBytes, Json.readValue, Json.read?,
    Json.ofPayload_of_isText spelled]
  dsimp only
  rw [read]

/-- A profile comes from its own bytes. -/
theorem comesFrom_bytes (sound : p.IsSound) :
    p.ComesFrom (Text.decodeBytes p.bytes) (.object (Members.ofList p.allMembers)) where
  read := sound.readValue_bytes
  integral := by
    have integral := sound.isIntegral_toValue
    rw [toValue_eq, Value.IsIntegral, Value.membersIntegral_iff] at integral
    rw [Value.IsIntegral, Value.membersIntegral_iff]
    exact fun m there => integral m (Members.mem_of_mem_ofList there)
  decoded := by
    have sorted := Members.sorted_ofList p.allMembers
    have values : ∀ m ∈ Members.ofList p.allMembers,
        Decoder.value .value (Sketch.ofValue m.2) = .ok m.2 := fun m there =>
      value_of_isRead (Json.isRead_mono m.2
        (sound.isRead_allMembers m (Members.mem_of_mem_ofList there)) (by decide))
    have found := Members.get?_ofList_of_nodup sound.nodup
    have packages : readPackages .value (Members.ofList p.allMembers) {} = .ok p.packages := by
      rw [readPackages, found]
      exact readPackages_allMembers rfl sound.apart
    have others : othersOf (Members.ofList p.allMembers) = p.others :=
      Members.Sorted.ext (sorted.filter _) sound.sorted fun name => by
        rw [get?_othersOf, found, ← get?_othersOf, sound.others_eq]
    rw [Json.decodeValue, decode_object rfl sorted.nodup values, packages, others,
      Members.ofList_of_sorted sound.sorted]
    rfl

end IsSound

/-! ## What a profile keeps -/

/-- The packages of a profile are null, or the texts of an array, or absent. -/
theorem ComesFrom.packages_cases (comes : p.ComesFrom text v) :
    (p.packages = none ∧ (v.get? packagesName = none ∨ v.get? packagesName = some .null)) ∨
      ∃ packages, p.packages = some packages ∧ v.get? packagesName = some (.texts packages) := by
  obtain ⟨members, rfl, -, -, packages, -⟩ := comes.exists_members
  rw [readPackages] at packages
  rw [Value.get?]
  cases found : Members.get? members packagesName with
  | none =>
      rw [found] at packages
      exact .inl ⟨(Except.ok.inj packages).symm, .inl rfl⟩
  | some w =>
      rw [found] at packages
      rcases Decoder.optional_eq_ok packages with ⟨rfl, absent⟩ | ⟨-, items, decoded, there⟩
      · exact .inl ⟨absent, .inr rfl⟩
      · exact .inr ⟨items, there, by rw [Decoder.eq_of_list_text decoded]⟩

/-- A profile has no packages exactly if its object has none or they are null. -/
theorem ComesFrom.packages_eq_none_iff (comes : p.ComesFrom text v) : p.packages = none ↔
    v.get? packagesName = none ∨ v.get? packagesName = some .null := by
  rcases comes.packages_cases with ⟨absent, found⟩ | ⟨packages, present, found⟩
  · exact iff_of_true absent found
  · simp [present, found, Value.texts]

/-- Under each name a profile holds what the object holds of which it comes, but for packages that
are null. -/
theorem ComesFrom.get?_allMembers (comes : p.ComesFrom text v) (name : String) :
    p.allMembers.get? name = v.get? name ∨
      name = packagesName ∧ v.get? name = some .null ∧ p.allMembers.get? name = none := by
  have packages := comes.packages_cases
  obtain ⟨members, rfl, -, -, -, others⟩ := comes.exists_members
  have found := get?_othersOf members name
  rw [← others] at found
  by_cases isPackages : name = packagesName
  · subst isPackages
    rw [if_pos rfl] at found
    rcases packages with ⟨unset, absent | null⟩ | ⟨packages, set, there⟩
    · exact .inl (by rw [allMembers, unset, absent]; exact found)
    · exact .inr ⟨rfl, null, by rw [allMembers, unset]; exact found⟩
    · exact .inl (by rw [allMembers, set, there]; rfl)
  · rw [if_neg isPackages] at found
    refine .inl (Eq.trans ?_ found)
    rw [allMembers]
    cases p.packages with
    | none => rfl
    | some packages => exact (Members.get?_cons _ _ _).trans (if_neg (Ne.symm isPackages))

/-- Profiles from objects with the same packages and the same other members are the same. -/
theorem ComesFrom.congr {s t : Text.Payload} {v w : Value} (first : p.ComesFrom s v)
    (second : q.ComesFrom t w) (packages : p.packages = q.packages)
    (others : ∀ name, name ≠ packagesName → v.get? name = w.get? name) : p = q := by
  obtain ⟨members, rfl, -, -, -, firstOthers⟩ := first.exists_members
  obtain ⟨members', rfl, -, -, -, secondOthers⟩ := second.exists_members
  have same : p.others = q.others :=
    first.isSound.sorted.ext second.isSound.sorted fun name => by
      rw [firstOthers, secondOthers, get?_othersOf, get?_othersOf]
      split
      next => rfl
      next other => exact others name other
  cases p
  cases q
  simp_all

/-! ## Checksums -/

/-- The bytes of which checksums are taken tell profiles apart that were decoded from texts through
the values of the texts, and nothing but profiles. -/
structure ChecksumsFaithful : Prop where
  /-- A checksum is the SHA-256 of these bytes in hexadecimal digits. -/
  digest : ∀ p : Profile, p.checksum = Text.hexBytes (Digest.sha256 p.bytes)
  /-- Two profiles have the same bytes exactly if they are the same. -/
  injective : ∀ {p q : Profile} {s t : Text.Payload} {v w : Value}, p.ComesFrom s v →
    q.ComesFrom t w → (p.bytes = q.bytes ↔ p = q)
  /-- Only the value of its text counts for a profile. -/
  determined : ∀ {p q : Profile} {s t : Text.Payload} {v : Value}, p.ComesFrom s v →
    q.ComesFrom t v → p = q
  /-- The blanks of a text, the spelling of its strings and the order of members of different names,
  at any depth, count neither for the value nor for the checksum. -/
  layout : ∀ {s t : String} {v w : Value}, v.IsText s → w.IsText t → v.Rearranged w →
    Json.readValue (Text.payload s) = Json.readValue (Text.payload t) ∧
      ∀ {p q : Profile} {x y : Value}, p.ComesFrom (Text.payload s) x →
        q.ComesFrom (Text.payload t) y → p.checksum = q.checksum
  /-- Packages that are null are as good as none. -/
  null : ∀ {p q : Profile} {s t : Text.Payload} {v w : Value}, p.ComesFrom s v →
    q.ComesFrom t w → v.get? packagesName = some .null → w.get? packagesName = none →
    (∀ name, name ≠ packagesName → v.get? name = w.get? name) → p.checksum = q.checksum
  /-- An empty list of packages is not as good as none. -/
  empty : ∀ {p q : Profile} {s t : Text.Payload} {v w : Value}, p.ComesFrom s v →
    q.ComesFrom t w → v.get? packagesName = some (.array []) →
    (w.get? packagesName = none ∨ w.get? packagesName = some .null) → p.bytes ≠ q.bytes
  /-- A profile is decoded from its bytes, at once and through their value. -/
  restored : ∀ {p : Profile} {s : Text.Payload} {v : Value}, p.ComesFrom s v →
    Json.decode decode (Text.decodeBytes p.bytes) = .ok p ∧
      ∃ w, p.ComesFrom (Text.decodeBytes p.bytes) w
  /-- Each member of the object of which a profile comes is written under its name, once, but for
  packages that are null; and no other is written. -/
  members : ∀ {p : Profile} {s : Text.Payload} {v : Value}, p.ComesFrom s v →
    ∃ members : Members, p.toValue = .object members ∧ (members.map (·.1)).Nodup ∧
      ∀ name, members.get? name = v.get? name ∨
        name = packagesName ∧ v.get? name = some .null ∧ members.get? name = none

/-- Profiles that are decoded from the same bytes are the same. -/
theorem IsSound.eq_of_bytes (sound : p.IsSound) (alsoSound : q.IsSound)
    (same : p.bytes = q.bytes) : p = q := by
  have decoded := sound.decode_bytes
  rw [same, alsoSound.decode_bytes] at decoded
  exact (Except.ok.inj decoded).symm

theorem ComesFrom.eq_of_value {s t : Text.Payload} (first : p.ComesFrom s v)
    (second : q.ComesFrom t v) : p = q := by
  have decoded := first.decoded
  rw [second.decoded] at decoded
  exact (Except.ok.inj decoded).symm

/-- The bytes of which a checksum is taken are those of no other profile, and they are the same in
whatever way the text of the profile was written. -/
theorem checksums_faithful : ChecksumsFaithful := by
  constructor
  case digest =>
    intro p
    rfl
  case injective =>
    intro p q s t v w first second
    exact ⟨first.isSound.eq_of_bytes second.isSound, congrArg bytes⟩
  case determined => exact ComesFrom.eq_of_value
  case layout =>
    intro s t v w spelled alsoSpelled rearranged
    have same := Json.readValue_of_rearranged rearranged spelled alsoSpelled
    refine ⟨same, fun {p q x y} first second => ?_⟩
    have values := first.read
    rw [same, second.read] at values
    cases values
    rw [first.eq_of_value second]
  case null =>
    intro p q s t v w first second isNull absent others
    have unset : p.packages = none := first.packages_eq_none_iff.mpr (.inr isNull)
    have alsoUnset : q.packages = none := second.packages_eq_none_iff.mpr (.inl absent)
    rw [first.congr second (unset.trans alsoUnset.symm) others]
  case empty =>
    intro p q s t v w first second isEmpty absent same
    have unset : q.packages = none := second.packages_eq_none_iff.mpr absent
    rw [← first.isSound.eq_of_bytes second.isSound same, first.packages_eq_none_iff, isEmpty]
      at unset
    simp at unset
  case restored =>
    intro p s v comes
    exact ⟨comes.isSound.decode_bytes, _, comes.isSound.comesFrom_bytes⟩
  case members =>
    intro p s v comes
    exact ⟨p.allMembers, toValue_eq p, comes.isSound.nodup, comes.get?_allMembers⟩

/-- Neither blanks nor escapes nor the order of members nor null packages change the bytes. -/
example : ∀ text ∈ ["\x7b \"n\":7, \"arch\" : \"\\u0078\"\x7d",
      "\x7b\"arch\":\"x\",\"installed_packages\":null,\"n\":7\x7d"],
    ((Json.readValue (Text.payload text)).bind (Json.decodeValue decode)).map bytes =
      .ok (Text.encodeBytes "\x7b\"arch\":\"x\",\"n\":7\x7d") := by
  decide +kernel

end FleetRoster.Profile
