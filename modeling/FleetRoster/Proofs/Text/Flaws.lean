import FleetRoster.Proofs.Text.Base64

/-!
# What makes a text no base64

A text that is no canonical form, in either alphabet, has one of five flaws, and no canonical form
has any of them.
-/

namespace FleetRoster.Text.Base64

variable {alphabet other : Alphabet} {values : List Nat} {v pads : Nat} {bytes : List UInt8}

/-- What makes a text no canonical form of any bytes. -/
inductive IsFlawed (text : String) : Prop
  /-- A symbol of the one alphabet stands beside one of the other. -/
  | mixed {c d : Char} (first : c ∈ text.toList) (isStandard : c ∈ Alphabet.standard.ownSymbols)
      (second : d ∈ text.toList) (isUrlSafe : d ∈ Alphabet.urlSafe.ownSymbols)
  /-- A character is neither a symbol nor padding. -/
  | foreign {c : Char} (there : c ∈ text.toList) (noPad : c ≠ '=')
      (noSymbol : ∀ alphabet : Alphabet, c ∉ alphabet.symbols)
  /-- Padding is missing. -/
  | unpadded (short : text.length % 4 ≠ 0)
  /-- Padding is followed by something else, or there is too much of it. -/
  | misplaced {before after : List Char} (spelled : text.toList = before ++ '=' :: after)
      (notLast : after ≠ []) (notSecond : after ≠ ['='])
  /-- The last symbol has bits that belong to no byte. -/
  | spare {alphabet : Alphabet} {values : List Nat} {pads : Nat}
      (spelled : text.toList = alphabet.spell values pads) (small : ∀ v ∈ values, v < 64)
      (left : spareBits values ≠ 0)

theorem padding_le (whole : IsWhole values) : padding values.length ≤ 2 := by
  have := whole.length
  unfold padding
  omega

theorem symbol_ne_pad (small : v < 64) : alphabet.symbol v ≠ '=' := by
  intro same
  have found : value? (alphabet.symbol v) = some v := value?_symbol small
  rw [same] at found
  contradiction

/-- After padding there is only more of it, and less. -/
theorem exists_replicate_of_spell {before after : List Char} (small : ∀ v ∈ values, v < 64)
    (spelled : alphabet.spell values pads = before ++ '=' :: after) :
    ∃ k < pads, after = List.replicate k '=' := by
  have ofPads {mid : List Char} (rest : List.replicate pads '=' = mid ++ '=' :: after) :
      ∃ k < pads, after = List.replicate k '=' := by
    obtain ⟨length, -, same⟩ := List.append_eq_replicate_iff.mp rest.symm
    rw [List.length_cons] at length same
    exact ⟨after.length, by omega, (List.cons.inj same).2⟩
  rcases List.append_eq_append_iff.mp spelled with ⟨mid, -, rest⟩ | ⟨mid, front, rest⟩
  · exact ofPads rest
  · cases mid with
    | nil => exact ofPads (show _ = [] ++ '=' :: after from rest.symm)
    | cons c mid =>
        have isPad : c = '=' := (List.cons.inj rest).1.symm
        have isSymbol : c ∈ values.map alphabet.symbol := by simp [front]
        obtain ⟨v, mem, same⟩ := List.mem_map.mp isSymbol
        exact (symbol_ne_pad (small v mem) (same.trans isPad)).elim

/-- The own symbols of one alphabet are none of the other, nor padding. -/
theorem notMem_symbols (apart : alphabet ≠ other) :
    ∀ c ∈ alphabet.ownSymbols, ¬ (c ∈ other.symbols ∨ c = '=') := by
  have all : alphabet.ownSymbols.all (fun c => ¬ (c ∈ other.symbols ∨ c = '=')) = true := by
    cases alphabet <;> cases other <;> first | exact absurd rfl apart | decide
  simpa using all

/-- A canonical form has none of the flaws. -/
theorem not_isFlawed_encode (alphabet : Alphabet) (bytes : List UInt8) :
    ¬ IsFlawed (encode alphabet bytes) := by
  intro flawed
  have whole := isWhole_valuesOfBytes bytes
  cases flawed with
  | @mixed c d first isStandard second isUrlSafe =>
      cases alphabet with
      | standard => exact absurd (mem_encode second) (notMem_symbols (by decide) d isUrlSafe)
      | urlSafe => exact absurd (mem_encode first) (notMem_symbols (by decide) c isStandard)
  | @foreign c there noPad noSymbol => exact (mem_encode there).elim (noSymbol alphabet) noPad
  | unpadded short => exact short (length_encode alphabet bytes)
  | @misplaced before after spelled notLast notSecond =>
      rw [encode, String.toList_ofList] at spelled
      obtain ⟨k, less, rfl⟩ := exists_replicate_of_spell whole.small spelled
      have atMost := padding_le whole
      obtain rfl | rfl : k = 0 ∨ k = 1 := by omega
      · exact notLast rfl
      · exact notSecond rfl
  | @spare other values pads spelled small left =>
      rw [encode, String.toList_ofList] at spelled
      have same : valuesOfBytes bytes = values := by
        rw [← filterMap_spell whole.small, spelled, filterMap_spell small]
      exact left (same ▸ whole.spare)

theorem exists_symbol {c : Char} (isSymbol : c ∈ alphabet.symbols) :
    ∃ v < 64, alphabet.symbol v = c := by
  obtain ⟨v, inside, same⟩ := List.mem_iff_getElem.mp isSymbol
  have length : alphabet.symbols.length = 64 := by
    cases alphabet <;> rfl
  exact ⟨v, length ▸ inside, by simp [Alphabet.symbol, inside, same]⟩

theorem exists_values {cs : List Char} (symbols : ∀ c ∈ cs, c ∈ alphabet.symbols) :
    ∃ values : List Nat, (∀ v ∈ values, v < 64) ∧ values.map alphabet.symbol = cs := by
  induction cs with
  | nil => exact ⟨[], nofun, rfl⟩
  | cons c cs ih =>
      rw [List.forall_mem_cons] at symbols
      obtain ⟨v, small, first⟩ := exists_symbol symbols.1
      obtain ⟨values, allSmall, rest⟩ := ih symbols.2
      refine ⟨v :: values, List.forall_mem_cons.mpr ⟨small, allSmall⟩, ?_⟩
      rw [List.map_cons, first, rest]

/-- Where neither mixes with the other, all symbols are of one alphabet. -/
theorem exists_alphabet {cs : List Char}
    (symbols : ∀ c ∈ cs, ∃ alphabet : Alphabet, c ∈ alphabet.symbols)
    (unmixed : ∀ c ∈ cs, c ∈ Alphabet.standard.ownSymbols →
      ∀ d ∈ cs, d ∉ Alphabet.urlSafe.ownSymbols) :
    ∃ alphabet : Alphabet, ∀ c ∈ cs, c ∈ alphabet.symbols := by
  have shared {c : Char} {alphabet other : Alphabet} (isSymbol : c ∈ other.symbols)
      (notOwn : c ∉ other.ownSymbols) : c ∈ alphabet.symbols :=
    List.mem_append_left _ ((List.mem_append.mp isSymbol).resolve_right notOwn)
  by_cases standard : ∃ c ∈ cs, c ∈ Alphabet.standard.ownSymbols
  · obtain ⟨c, there, own⟩ := standard
    refine ⟨.standard, fun d mem => ?_⟩
    obtain ⟨alphabet, isSymbol⟩ := symbols d mem
    cases alphabet with
    | standard => exact isSymbol
    | urlSafe => exact shared isSymbol (unmixed c there own d mem)
  · refine ⟨.urlSafe, fun d mem => ?_⟩
    obtain ⟨alphabet, isSymbol⟩ := symbols d mem
    cases alphabet with
    | standard => exact shared isSymbol fun own => standard ⟨d, mem, own⟩
    | urlSafe => exact isSymbol

/-- A text in which nothing but padding follows padding consists of other characters and then at
most two of padding. -/
theorem exists_padded {cs : List Char}
    (last : ∀ before after, cs = before ++ '=' :: after → after = [] ∨ after = ['=']) :
    ∃ front, ∃ pads ≤ 2, cs = front ++ List.replicate pads '=' ∧ '=' ∉ front := by
  have cut : cs.takeWhile (· ≠ '=') ++ cs.dropWhile (· ≠ '=') = cs :=
    List.takeWhile_append_dropWhile
  have clean : '=' ∉ cs.takeWhile (· ≠ '=') := fun there => by
    simpa using List.all_eq_true.mp List.all_takeWhile _ there
  cases back : cs.dropWhile (· ≠ '=') with
  | nil => exact ⟨_, 0, by omega, by rw [back] at cut; exact cut.symm, clean⟩
  | cons c after =>
      have stops := List.head?_dropWhile_not (· ≠ '=') cs
      rw [back] at stops
      obtain rfl : c = '=' := by simpa using stops
      rw [back] at cut
      rcases last _ _ cut.symm with rfl | rfl
      · exact ⟨_, 1, by omega, cut.symm, clean⟩
      · exact ⟨_, 2, by omega, cut.symm, clean⟩

/-- A text without a flaw is a canonical form. -/
theorem exists_encode_of_not_isFlawed {text : String} (flawless : ¬ IsFlawed text) :
    ∃ alphabet bytes, text = encode alphabet bytes := by
  have last : ∀ before after, text.toList = before ++ '=' :: after → after = [] ∨ after = ['='] :=
    fun before after spelled => Decidable.byContradiction fun other =>
      flawless (.misplaced spelled (fun none => other (.inl none)) fun one => other (.inr one))
  obtain ⟨front, pads, few, spelled, clean⟩ := exists_padded last
  have there {c : Char} (mem : c ∈ front) : c ∈ text.toList := by
    rw [spelled]
    exact List.mem_append_left _ mem
  have symbols : ∀ c ∈ front, ∃ alphabet : Alphabet, c ∈ alphabet.symbols := by
    intro c mem
    apply Classical.byContradiction
    intro foreign
    exact flawless (.foreign (there mem) (fun isPad => clean (isPad ▸ mem)) fun alphabet isSymbol =>
      foreign ⟨alphabet, isSymbol⟩)
  obtain ⟨alphabet, ofAlphabet⟩ := exists_alphabet symbols fun c mem own d mem' own' =>
    flawless (.mixed (there mem) own (there mem') own')
  obtain ⟨values, small, rfl⟩ := exists_values ofAlphabet
  have length : (values.length + pads) % 4 = 0 := by
    apply Decidable.byContradiction
    intro short
    apply flawless
    apply IsFlawed.unpadded
    rwa [← String.length_toList, spelled, List.length_append, List.length_map,
      List.length_replicate]
  have whole : IsWhole values := by
    refine ⟨small, by omega, Decidable.byContradiction fun left => ?_⟩
    exact flawless (.spare spelled small left)
  have enough : pads = padding values.length := by
    unfold padding
    omega
  refine ⟨alphabet, bytesOfValues values, String.toList_inj.mp ?_⟩
  rw [spelled, encode, String.toList_ofList, valuesOfBytes_bytesOfValues whole, ← enough]
  rfl

/-- A text has a flaw exactly if it is no canonical form in either alphabet. -/
theorem isFlawed_iff {text : String} :
    IsFlawed text ↔ ∀ alphabet bytes, text ≠ encode alphabet bytes := by
  constructor
  · rintro flawed alphabet bytes rfl
    exact not_isFlawed_encode alphabet bytes flawed
  · intro noForm
    apply Classical.byContradiction
    intro flawless
    obtain ⟨alphabet, bytes, same⟩ := exists_encode_of_not_isFlawed flawless
    exact noForm alphabet bytes same

end FleetRoster.Text.Base64
