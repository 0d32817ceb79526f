import Mathlib.Logic.Relation
import FleetRoster.Proofs.Flow.Leads

/-!
# Flows among each other

Any number of flows are under way in one world, and any of them may do its next effect at any time.
What one of them can count on is what the others leave alone. `Among` is the judgement that a flow
ends as claimed while the others keep to what it relies on, and that each of its own moves is one
that it was granted; it follows the flow from effect to effect. Where every move that is granted to
one flow is what the others rely on, each flow is judged for itself, and the judgements hold for all
of them together.
-/

namespace FleetRoster

/-- A deed with the worlds before and after it. -/
structure Move where
  deed : Deed
  before : World
  after : World

/-- What is left of the flow of an event, and the moves it has made, the first one first. -/
structure Errand (ε α : Type) where
  event : ε
  rest : Flow α
  moves : List Move := []

/-- A world with all that was ever under way in it. -/
structure Errands (ε α : Type) where
  world : World
  errands : List (Errand ε α) := []

/-! ## Judgements -/

namespace Flow

variable {α : Type}

/-- While others keep to what the flow relies on, each of its moves is granted, and the moves, the
world and the ending are in the end as claimed. -/
def Among (acts : View World) (rely : World → World → Prop) (grant : Move → Prop) :
    Flow α → World → (List Move → World → Ending α → Prop) → Prop
  | .stop ending, w, claim => ∀ met, rely w met → claim [] met ending
  | .ask effect next, w, claim =>
      ∀ met, rely w met → ∀ w' answer, acts effect met w' answer →
        grant ⟨⟨effect, answer⟩, met, w'⟩ ∧
          (next answer).Among acts rely grant w' fun moves =>
            claim (⟨⟨effect, answer⟩, met, w'⟩ :: moves)

/-- A judgement stands while others keep to what the flow relies on. -/
theorem Among.of_rely {acts : View World} {rely : World → World → Prop} {grant : Move → Prop}
    {x : Flow α} {w met : World} {claim : List Move → World → Ending α → Prop}
    (trans : ∀ w₁ w₂ w₃, rely w₁ w₂ → rely w₂ w₃ → rely w₁ w₃)
    (among : x.Among acts rely grant w claim) (relied : rely w met) :
    x.Among acts rely grant met claim := by
  cases x with
  | stop ending => exact fun _ later => among _ (trans _ _ _ relied later)
  | ask effect next => exact fun _ later => among _ (trans _ _ _ relied later)

end Flow

/-- What the flow of an event relies on, which moves it is granted, and what is claimed of its
end. -/
structure Terms (ε α : Type) where
  rely : World → World → Prop
  grant : ε → Move → Prop
  claim : ε → List Move → World → Ending α → Prop

namespace Errands

variable {ε α : Type}

/-! ## Steps -/

/-- What can happen next: the flow of an event begins, one of those under way makes a move, or
something else happens. -/
inductive Step (handler : ε → Flow α) (acts : View World) (aside : World → World → Prop) :
    Errands ε α → Errands ε α → Prop
  | begin {c : Errands ε α} (event : ε) :
      Step handler acts aside c { c with errands := c.errands ++ [⟨event, handler event, []⟩] }
  | move {w w' : World} {earlier later : List (Errand ε α)} {event : ε} {effect : Effect}
      {next : effect.Answer → Flow α} {moves : List Move} {answer : effect.Answer}
      (acted : acts effect w w' answer) :
      Step handler acts aside ⟨w, earlier ++ ⟨event, .ask effect next, moves⟩ :: later⟩
        ⟨w', earlier ++
          ⟨event, next answer, moves ++ [⟨⟨effect, answer⟩, w, w'⟩]⟩ :: later⟩
  | others {c : Errands ε α} {w : World} (apart : aside c.world w) :
      Step handler acts aside c { c with world := w }

/-- What can happen in the end. -/
def Reaches (handler : ε → Flow α) (acts : View World) (aside : World → World → Prop) :
    Errands ε α → Errands ε α → Prop :=
  Relation.ReflTransGen (Step handler acts aside)

/-- The terms fit together: what is granted to one is what the others rely on, and from the start on
every flow is judged to keep them. -/
structure Fit (handler : ε → Flow α) (acts : View World) (aside : World → World → Prop)
    (terms : Terms ε α) (start : World) : Prop where
  refl : ∀ w, terms.rely w w
  trans : ∀ w₁ w₂ w₃, terms.rely w₁ w₂ → terms.rely w₂ w₃ → terms.rely w₁ w₃
  others : ∀ {w w'}, aside w w' → terms.rely w w'
  granted : ∀ {event move}, terms.grant event move → terms.rely move.before move.after
  judged : ∀ event,
    (handler event).Among acts terms.rely (terms.grant event) start (terms.claim event)

/-- From the start on all have kept the terms, and what is left of each flow will. -/
structure Keeps (acts : View World) (terms : Terms ε α) (start : World) (c : Errands ε α) :
    Prop where
  since : terms.rely start c.world
  moves : ∀ e ∈ c.errands, ∀ m ∈ e.moves, terms.grant e.event m
  judged : ∀ e ∈ c.errands, e.rest.Among acts terms.rely (terms.grant e.event) c.world fun more =>
    terms.claim e.event (e.moves ++ more)

variable {handler : ε → Flow α} {acts : View World} {aside : World → World → Prop}
  {terms : Terms ε α} {start : World} {c c' : Errands ε α}

/-- In whatever happens next the terms are kept. -/
theorem Keeps.step (fit : Fit handler acts aside terms start) (keeps : c.Keeps acts terms start)
    (step : Step handler acts aside c c') :
    terms.rely c.world c'.world ∧ c'.Keeps acts terms start := by
  cases step with
  | begin event =>
      have judged := (fit.judged event).of_rely fit.trans keeps.since
      refine ⟨fit.refl _, keeps.since, ?_, ?_⟩
      · rw [List.forall_mem_append, List.forall_mem_singleton]
        exact ⟨keeps.moves, fun m mem => absurd mem List.not_mem_nil⟩
      · rw [List.forall_mem_append, List.forall_mem_singleton]
        exact ⟨keeps.judged, judged⟩
  | @move w w' earlier later event effect next moves answer acted =>
      rcases keeps with ⟨since, granted, judged⟩
      rw [List.forall_mem_append, List.forall_mem_cons] at granted judged
      -- the flow that moves is judged further, the others stand by what it was granted
      obtain ⟨grant, goesOn⟩ := judged.2.1 w (fit.refl w) w' answer acted
      have relied : terms.rely w w' := fit.granted grant
      refine ⟨relied, fit.trans _ _ _ since relied, ?_, ?_⟩
      · rw [List.forall_mem_append, List.forall_mem_cons]
        refine ⟨granted.1, ?_, granted.2.2⟩
        rw [List.forall_mem_append, List.forall_mem_singleton]
        exact ⟨granted.2.1, grant⟩
      · rw [List.forall_mem_append, List.forall_mem_cons]
        refine ⟨fun e mem => (judged.1 e mem).of_rely fit.trans relied, ?_,
          fun e mem => (judged.2.2 e mem).of_rely fit.trans relied⟩
        simpa only [List.append_assoc, List.singleton_append] using goesOn
  | others apart =>
      have relied := fit.others apart
      exact ⟨relied, fit.trans _ _ _ keeps.since relied, keeps.moves,
        fun e mem => (keeps.judged e mem).of_rely fit.trans relied⟩

/-- However long it goes on, the terms are kept. -/
theorem Keeps.reaches (fit : Fit handler acts aside terms start)
    (keeps : c.Keeps acts terms start) (reaches : Reaches handler acts aside c c') :
    terms.rely c.world c'.world ∧ c'.Keeps acts terms start := by
  induction reaches with
  | refl => exact ⟨fit.refl _, keeps⟩
  | tail _ step ih =>
      obtain ⟨relied, kept⟩ := ih
      obtain ⟨next, kept⟩ := kept.step fit step
      exact ⟨fit.trans _ _ _ relied next, kept⟩

theorem keeps_of_reaches (fit : Fit handler acts aside terms start)
    (reaches : Reaches handler acts aside ⟨start, []⟩ c) : c.Keeps acts terms start :=
  (Keeps.reaches fit ⟨fit.refl start, fun _ mem => absurd mem List.not_mem_nil,
    fun _ mem => absurd mem List.not_mem_nil⟩ reaches).2

/-- A flow that is over ended as claimed, and the claim still holds. -/
theorem Keeps.claim (fit : Fit handler acts aside terms start) (keeps : c.Keeps acts terms start)
    {e : Errand ε α} (mem : e ∈ c.errands) {ending : Ending α} (ended : e.rest = .stop ending) :
    terms.claim e.event e.moves c.world ending := by
  have judged := keeps.judged e mem
  rw [ended] at judged
  simpa using judged c.world (fit.refl _)

/-! ## Moves in the world -/

/-- The flow with this index makes its next move, if it has one, as it happens in the world. -/
def play (index : Nat) (c : Errands ε α) : Errands ε α :=
  match c.errands[index]? with
  | some ⟨event, .ask effect next, moves⟩ =>
    let happened := World.happen effect c.world
    ⟨happened.1, c.errands.set index
      ⟨event, next happened.2, moves ++ [⟨⟨effect, happened.2⟩, c.world, happened.1⟩]⟩⟩
  | _ => c

theorem reaches_play (happens : ∀ effect w,
      acts effect w (World.happen effect w).1 (World.happen effect w).2)
    (index : Nat) (c : Errands ε α) : Reaches handler acts aside c (c.play index) := by
  unfold play
  split
  next event effect next moves found =>
    obtain ⟨lt, found⟩ := List.getElem?_eq_some_iff.mp found
    rcases c with ⟨w, errands⟩
    have cut : errands.take index ++ ⟨event, .ask effect next, moves⟩ ::
        errands.drop (index + 1) = errands := by
      rw [← found, ← List.drop_eq_getElem_cons lt, List.take_append_drop]
    change Reaches handler acts aside ⟨w, errands⟩ ⟨_, errands.set index _⟩
    rw [List.set_eq_take_append_cons_drop, if_pos lt]
    generalize errands.take index = earlier, errands.drop (index + 1) = later at cut ⊢
    subst cut
    exact .single (.move (happens effect w))
  next => exact .refl

/-! ## Who did what -/

/-- A flow that asks for nothing is over when it begins. -/
theorem idle_of_reaches (reaches : Reaches handler acts aside ⟨start, []⟩ c) {event : ε}
    {ending : Ending α} (idle : handler event = .stop ending) :
    ∀ e ∈ c.errands, e.event = event → e.rest = .stop ending ∧ e.moves = [] := by
  induction reaches with
  | refl => exact fun _ mem => absurd mem List.not_mem_nil
  | tail _ step ih =>
      cases step with
      | begin other =>
          rw [List.forall_mem_append, List.forall_mem_singleton]
          refine ⟨ih, ?_⟩
          rintro rfl
          exact ⟨idle, rfl⟩
      | move acted =>
          rw [List.forall_mem_append, List.forall_mem_cons] at ih ⊢
          refine ⟨ih.1, ?_, ih.2.2⟩
          intro same
          cases (ih.2.1 same).1
      | others apart => exact ih

/-- What has come to hold came to hold in a move. -/
theorem exists_move (holds : World → Prop) (others : ∀ {w w'}, aside w w' → holds w' → holds w)
    (initially : ¬ holds start) (reaches : Reaches handler acts aside ⟨start, []⟩ c)
    (holding : holds c.world) :
    ∃ e ∈ c.errands, ∃ m ∈ e.moves, ¬ holds m.before ∧ holds m.after := by
  induction reaches with
  | refl => exact absurd holding initially
  | tail _ step ih =>
      cases step with
      | begin event =>
          obtain ⟨e, mem, made⟩ := ih holding
          exact ⟨e, List.mem_append_left _ mem, made⟩
      | others apart => exact ih (others apart holding)
      | @move w w' earlier later event effect next moves answer acted =>
          by_cases before : holds w
          · -- it held already, so an earlier move made it hold, perhaps one of the same flow
            obtain ⟨e, mem, m, memMoves, made⟩ := ih before
            rw [List.mem_append, List.mem_cons] at mem
            rcases mem with old | rfl | old
            · exact ⟨e, by simp [old], m, memMoves, made⟩
            · exact ⟨_, List.mem_append_right _ (.head _), m, List.mem_append_left _ memMoves, made⟩
            · exact ⟨e, by simp [old], m, memMoves, made⟩
          · exact ⟨_, List.mem_append_right _ (.head _), _, List.mem_append_right _ (.head _),
              before, holding⟩

/-- What can happen in one view can happen in a view that allows more. -/
theorem Reaches.mono {wider : View World} {elsewhere : World → World → Prop}
    (views : ∀ {effect w w' answer}, acts effect w w' answer → wider effect w w' answer)
    (asides : ∀ {w w'}, aside w w' → elsewhere w w')
    (reaches : Reaches handler acts aside c c') : Reaches handler wider elsewhere c c' := by
  refine Relation.ReflTransGen.mono ?_ _ _ reaches
  intro d d' step
  cases step with
  | begin event => exact .begin event
  | move acted => exact .move (views acted)
  | others apart => exact .others (asides apart)

end Errands

end FleetRoster
