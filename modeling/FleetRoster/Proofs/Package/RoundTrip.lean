import FleetRoster.Proofs.Package.Grammar

/-!
# Identifiers read back

The identifier of a package is one of the ways to write it: without an epoch of zero, and with any
other epoch before the version. So a package whose parts are of their kinds is read back from its
identifier, and as no other package is ever read, identifiers tell packages apart. Writing the
package that a text names is therefore a normal form of the text.
-/

namespace FleetRoster.Package

/-- Every part is of its kind. The epoch may be any number of thirty-two bits. -/
structure IsProper (p : Package) : Prop where
  name : IsName p.name
  version : IsVersion p.version
  release : IsRelease p.release
  arch : IsArch p.arch

/-- The identifier of the package that a text names. -/
def normalText (text : String) : Except ReadError String :=
  (read text).map Package.text

/-- Identifiers stand for packages. -/
structure IdentifiersFaithful : Prop where
  /-- A proper package is read back from its identifier. -/
  readsBack {p : Package} (proper : p.IsProper) : read p.text = .ok p
  /-- Nothing else is ever read. -/
  readsProper {text : String} {p : Package} (found : read text = .ok p) : p.IsProper
  /-- Packages that were read are the same if their identifiers are. -/
  tellsApart {text other : String} {p q : Package} (found : read text = .ok p)
    (alsoFound : read other = .ok q) : p = q ↔ p.text = q.text
  /-- A text and its normal form name the same package, and a normal form is its own. -/
  normal {text normal : String} (found : normalText text = .ok normal) :
    read normal = read text ∧ normalText normal = .ok normal
  /-- Texts that can be read name the same package if they have the same normal form. -/
  canonical {text other : String} {p q : Package} (found : read text = .ok p)
    (alsoFound : read other = .ok q) : p = q ↔ normalText text = normalText other

/-! ## The writing of an identifier -/

theorem digitsValue_eq_ofDigitChars (ds : List Char) :
    digitsValue ds = Nat.ofDigitChars 10 ds 0 := by
  simp only [digitsValue, Nat.ofDigitChars, Nat.mul_comm 10]
  rfl

/-- A number is read from its digits. -/
theorem numeral_toString (n : Nat) : numeral (toString n) = n := by
  rw [← digitsValue_toList, digitsValue_eq_ofDigitChars, Nat.toString_eq_ofList_toDigits,
    String.toList_ofList]
  exact Nat.ofDigitChars_toDigits (by decide) (by decide)

theorem isNumeral_toString (n : Nat) : IsNumeral (toString n) := by
  rw [isNumeral_iff, Nat.toString_eq_ofList_toDigits, String.toList_ofList]
  exact ⟨Nat.toDigits_ne_nil, fun c mem => Nat.isDigit_of_mem_toDigits (by decide) (by decide) mem⟩

/-- The parts that the identifier of a package is written in. -/
def writing (p : Package) : Writing where
  outer := none
  name := p.name
  inner := if p.epoch ≠ 0 then some (toString p.epoch.toNat) else none
  version := p.version
  release := p.release
  arch := p.arch

theorem text_writing (p : Package) : p.writing.text = p.text := by
  rw [Writing.text, writing, text, evra, evr]
  split <;> simp [Writing.marked, String.append_assoc]

/-- The parts of an identifier say which package it names. -/
theorem package_writing (p : Package) : p.writing.package = .ok p := by
  by_cases zero : p.epoch = 0
  · have epoch : p.writing.epoch? = none := by simp [writing, Writing.epoch?, zero]
    rw [Writing.package, epoch, ← zero]
    rfl
  · have epoch : p.writing.epoch? = some (toString p.epoch.toNat) := by
      simp [writing, Writing.epoch?, zero]
    have below : p.epoch.toNat ≤ 2 ^ 32 - 1 := Nat.le_sub_one_of_lt p.epoch.toNat_lt
    simp only [Writing.package, epoch, numeral_toString, below, if_true, UInt32.ofNat_toNat]
    rfl

theorem IsProper.writing {p : Package} (proper : p.IsProper) : p.writing.IsProper where
  outer := nofun
  name := proper.name
  inner digits found := by
    obtain ⟨-, same⟩ := Option.ite_none_right_eq_some.mp found
    cases same
    exact isNumeral_toString _
  version := proper.version
  release := proper.release
  arch := proper.arch

/-! ## Reading back -/

/-- A package is read back from its identifier. -/
theorem IsProper.read_text {p : Package} (proper : p.IsProper) : read p.text = .ok p := by
  rw [← p.text_writing, proper.writing.read_text, p.package_writing]

/-- Proper parts say a proper package. -/
theorem Writing.IsProper.package {w : Writing} (proper : w.IsProper) {p : Package}
    (said : w.package = .ok p) : p.IsProper := by
  rw [Writing.package] at said
  split at said
  · cases said
    exact ⟨proper.name, proper.version, proper.release, proper.arch⟩
  · split at said
    · cases said
      exact ⟨proper.name, proper.version, proper.release, proper.arch⟩
    · cases said

theorem isProper_of_read {text : String} {p : Package} (found : read text = .ok p) :
    p.IsProper := by
  cases cut : split? text.toList with
  | none => simp [read, cut] at found
  | some parts =>
      obtain ⟨w, proper, rfl⟩ := Writing.exists_of_split? cut
      rw [proper.read_text] at found
      exact proper.package found

theorem read_text_of_read {text : String} {p : Package} (found : read text = .ok p) :
    read p.text = .ok p :=
  (isProper_of_read found).read_text

theorem text_injective_of_read {text other : String} {p q : Package} (found : read text = .ok p)
    (alsoFound : read other = .ok q) (same : p.text = q.text) : p = q := by
  have back := read_text_of_read found
  rw [same, read_text_of_read alsoFound] at back
  exact (Except.ok.inj back).symm

/-- Identifiers and packages stand for each other. -/
theorem identifiers_faithful : IdentifiersFaithful := by
  constructor
  case readsBack => exact IsProper.read_text
  case readsProper => exact isProper_of_read
  case tellsApart =>
    intro text other p q found alsoFound
    exact ⟨congrArg Package.text, text_injective_of_read found alsoFound⟩
  case normal =>
    intro text normal found
    cases named : read text with
    | error why => simp [normalText, named, Except.map] at found
    | ok p =>
        simp only [normalText, named, Except.map, Except.ok.injEq] at found
        subst found
        simp [normalText, read_text_of_read named, Except.map]
  case canonical =>
    intro text other p q found alsoFound
    simp only [normalText, found, alsoFound, Except.map, Except.ok.injEq]
    exact ⟨congrArg Package.text, text_injective_of_read found alsoFound⟩

end FleetRoster.Package
