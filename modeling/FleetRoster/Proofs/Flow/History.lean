import FleetRoster.Proofs.Flow.Leads

/-!
# Histories

Events are handled one at a time, in any order and any number, while others go on with what they do.
A history has an entry for each event that was handled, the first one first. It can be cut at every
entry: what comes before it is the history of a run up to that event, and what comes after it that of
a run from there on.
-/

namespace FleetRoster

/-- An event that was handled, with the worlds before and after it, the deeds of its handler and the
ending. -/
structure Entry (ε α : Type) where
  event : ε
  before : World
  deeds : List Deed
  after : World
  ending : Ending α

/-- Events were handled, while others did what `aside` allows them: the history, and the world to
which it has led. -/
inductive Handled {ε α : Type} (handler : ε → Flow α) (aside : World → World → Prop)
    (start : World) : List (Entry ε α) → World → Prop
  | start : Handled handler aside start [] start
  | aside {history : List (Entry ε α)} {w w' : World}
      (before : Handled handler aside start history w) (others : aside w w') :
      Handled handler aside start history w'
  | event {history : List (Entry ε α)} {entry : Entry ε α}
      (before : Handled handler aside start history entry.before)
      (takes : (handler entry.event).Takes aside entry.before entry.deeds entry.after
        entry.ending) :
      Handled handler aside start (history ++ [entry]) entry.after

/-- The entry of an event that is handled on its own. -/
def Entry.ofRun {ε α : Type} (handler : ε → Flow α) (event : ε) (w : World) : Entry ε α where
  event := event
  before := w
  deeds := (handler event).deedsIn w
  after := ((handler event).runIn w).1
  ending := ((handler event).runIn w).2

/-- An event that is handled on its own is handled while others may let time pass. -/
theorem Entry.takes_ofRun {ε α : Type} {aside : World → World → Prop}
    (timely : ∀ w ms, aside w (w.after ms)) (handler : ε → Flow α) (event : ε) (w : World) :
    (handler event).Takes aside w (Entry.ofRun handler event w).deeds
      (Entry.ofRun handler event w).after (Entry.ofRun handler event w).ending :=
  Flow.takes_runIn timely (handler event) w

/-- Events that are handled on their own, one after another: their entries, and the world in the
end. -/
def Entry.inTurn {ε α : Type} (handler : ε → Flow α) (w : World) :
    List ε → List (Entry ε α) × World
  | [] => ([], w)
  | event :: events =>
    let entry := Entry.ofRun handler event w
    let rest := inTurn handler entry.after events
    (entry :: rest.1, rest.2)

theorem Entry.map_event_inTurn {ε α : Type} (handler : ε → Flow α) (w : World) (events : List ε) :
    (Entry.inTurn handler w events).1.map (·.event) = events := by
  induction events generalizing w with
  | nil => rfl
  | cons event events ih => exact congrArg (event :: ·) (ih _)

namespace Handled

variable {ε α : Type} {handler : ε → Flow α} {aside : World → World → Prop} {start w : World}

/-- An event may be handled on its own, where others may let time pass. -/
theorem run {history : List (Entry ε α)} (timely : ∀ w ms, aside w (w.after ms))
    (before : Handled handler aside start history w) (event : ε) :
    Handled handler aside start (history ++ [.ofRun handler event w])
      (Entry.ofRun handler event w).after :=
  .event before (Entry.takes_ofRun timely handler event w)

/-- What was handled among some was handled among others that may do more. -/
theorem mono {wider : World → World → Prop} {history : List (Entry ε α)}
    (handled : Handled handler aside start history w) (imp : ∀ {w w'}, aside w w' → wider w w') :
    Handled handler wider start history w := by
  induction handled with
  | start => exact .start
  | aside _ others ih => exact .aside ih (imp others)
  | event _ takes ih => exact .event ih (takes.mono imp)

/-- A history cut at one of its entries. -/
theorem cut {earlier later : List (Entry ε α)} {entry : Entry ε α}
    (handled : Handled handler aside start (earlier ++ entry :: later) w) :
    Handled handler aside start earlier entry.before ∧
      (handler entry.event).Takes aside entry.before entry.deeds entry.after entry.ending ∧
      Handled handler aside entry.after later w := by
  generalize whole : earlier ++ entry :: later = entries at handled
  induction handled generalizing later with
  | start => simp at whole
  | aside before others ih =>
      obtain ⟨before, takes, rest⟩ := ih whole
      exact ⟨before, takes, .aside rest others⟩
  | event before takes ih =>
      rcases List.eq_nil_or_concat later with rfl | ⟨between, last, rfl⟩
      · obtain ⟨rfl, same⟩ := List.append_inj' whole rfl
        cases same
        exact ⟨before, takes, .start⟩
      · rw [List.concat_eq_append, ← List.cons_append, ← List.append_assoc] at whole
        obtain ⟨same, lastSame⟩ := List.append_inj' whole rfl
        cases lastSame
        obtain ⟨before, taken, rest⟩ := ih same
        rw [List.concat_eq_append]
        exact ⟨before, taken, .event rest takes⟩

/-- What holds at the start, and is kept by others and by every event, holds in the end. -/
theorem invariant (holds : World → Prop) {history : List (Entry ε α)}
    (handled : Handled handler aside start history w)
    (initially : holds start)
    (others : ∀ {w w'}, aside w w' → holds w → holds w')
    (events : ∀ {entry : Entry ε α},
      (handler entry.event).Takes aside entry.before entry.deeds entry.after entry.ending →
        entry ∈ history → holds entry.before → holds entry.after) : holds w := by
  induction handled with
  | start => exact initially
  | aside before aside ih => exact others aside (ih events)
  | event before takes ih =>
      apply events takes (by simp)
      exact ih fun takes mem => events takes (List.mem_append_left _ mem)

end Handled

/-! ## First and last entries -/

/-- The first entry with a property, and what comes before it. -/
structure FirstOf {ε : Type} (p : ε → Prop) (entries earlier : List ε) (entry : ε) : Prop where
  cut : ∃ later, entries = earlier ++ entry :: later
  holds : p entry
  absent : ∀ x ∈ earlier, ¬ p x

/-- The last entry with a property, and what comes after it. -/
structure LastOf {ε : Type} (p : ε → Prop) (entries : List ε) (entry : ε) (later : List ε) :
    Prop where
  cut : ∃ earlier, entries = earlier ++ entry :: later
  holds : p entry
  absent : ∀ x ∈ later, ¬ p x

section Extremes

variable {ε : Type} {p : ε → Prop} {entries : List ε}

theorem exists_lastOf (some : ∃ x ∈ entries, p x) :
    ∃ entry later, LastOf p entries entry later := by
  induction entries with
  | nil => simp at some
  | cons x rest ih =>
      by_cases someRest : ∃ y ∈ rest, p y
      · rcases ih someRest with ⟨entry, later, ⟨earlier, cut⟩, holds, absent⟩
        exact ⟨entry, later, ⟨x :: earlier, by rw [cut, List.cons_append]⟩, holds, absent⟩
      · have last : p x := by
          rcases some with ⟨y, mem, holds⟩
          rcases List.mem_cons.mp mem with rfl | mem
          · exact holds
          · exact absurd ⟨y, mem, holds⟩ someRest
        exact ⟨x, rest, ⟨[], rfl⟩, last, fun y mem holds => someRest ⟨y, mem, holds⟩⟩

/-- The last entry with a property is the very last one, or the last one of what comes before. -/
theorem LastOf.snoc {x entry : ε} {later : List ε} (last : LastOf p (entries ++ [x]) entry later) :
    (p x ∧ entry = x) ∨ (¬ p x ∧ ∃ between, LastOf p entries entry between) := by
  rcases last with ⟨⟨earlier, cut⟩, holds, absent⟩
  rcases List.eq_nil_or_concat later with rfl | ⟨between, y, rfl⟩
  · obtain ⟨_, same⟩ := List.append_inj' cut rfl
    cases same
    exact .inl ⟨holds, rfl⟩
  · rw [List.concat_eq_append, ← List.cons_append, ← List.append_assoc] at cut
    obtain ⟨same, ySame⟩ := List.append_inj' cut rfl
    cases ySame
    refine .inr ⟨absent x (by simp), between, ⟨earlier, same⟩, holds, ?_⟩
    intro z mem
    exact absent z (by simp [mem])

theorem FirstOf.congr {q : ε → Prop} {earlier : List ε} {entry : ε}
    (first : FirstOf p entries earlier entry) (same : ∀ x ∈ entries, p x ↔ q x) :
    FirstOf q entries earlier entry := by
  rcases first with ⟨⟨later, rfl⟩, holds, absent⟩
  constructor
  · exact ⟨later, rfl⟩
  · exact (same entry (by simp)).mp holds
  · intro x mem
    rw [← same x (by simp [mem])]
    exact absent x mem

theorem LastOf.congr {q : ε → Prop} {later : List ε} {entry : ε}
    (last : LastOf p entries entry later) (same : ∀ x ∈ entries, p x ↔ q x) :
    LastOf q entries entry later := by
  rcases last with ⟨⟨earlier, rfl⟩, holds, absent⟩
  constructor
  · exact ⟨earlier, rfl⟩
  · exact (same entry (by simp)).mp holds
  · intro x mem
    rw [← same x (by simp [mem])]
    exact absent x mem

theorem LastOf.of_later {earlier later rest : List ε} {x entry : ε}
    (last : LastOf p later entry rest) : LastOf p (earlier ++ x :: later) entry rest := by
  rcases last with ⟨⟨between, rfl⟩, holds, absent⟩
  exact ⟨⟨earlier ++ x :: between, by simp⟩, holds, absent⟩

/-- There is only one last entry. -/
theorem LastOf.unique {first second : ε} {afterFirst afterSecond : List ε}
    (lastFirst : LastOf p entries first afterFirst)
    (lastSecond : LastOf p entries second afterSecond) :
    first = second ∧ afterFirst = afterSecond := by
  rcases lastFirst with ⟨⟨before, rfl⟩, holds, absent⟩
  rcases lastSecond with ⟨⟨before', cut⟩, holds', absent'⟩
  rcases List.append_eq_append_iff.mp cut with ⟨gap, rfl, tails⟩ | ⟨gap, rfl, tails⟩
  · cases gap with
    | nil => simpa using tails
    | cons x gap =>
        rw [List.cons_append, List.cons.injEq] at tails
        exact absurd holds' (absent second (by simp [tails.2]))
  · cases gap with
    | nil =>
        have same : second = first ∧ afterSecond = afterFirst := by simpa using tails
        exact ⟨same.1.symm, same.2.symm⟩
    | cons x gap =>
        rw [List.cons_append, List.cons.injEq] at tails
        exact absurd holds (absent' first (by simp [tails.2]))

end Extremes

end FleetRoster
