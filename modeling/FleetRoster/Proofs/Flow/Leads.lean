import FleetRoster.World.Perform

/-!
# What a flow leads to

A flow meets the world only in its effects, and most of the world does not matter to it. A view keeps
what does, and says what may become of it in each effect and with which answers. `Leads` is the
judgement that a flow ends as claimed, whatever the answers; it follows the flow from effect to
effect. `Takes` says that a flow has run, with others at work before and between its effects. Where
the view tells the truth about the world and does not see the others, a flow that has run ended as
claimed.
-/

namespace FleetRoster

/-- An effect that has happened, with its answer. -/
structure Deed where
  effect : Effect
  answer : effect.Answer

/-- What each effect may make of a state, with its answer. -/
abbrev View (σ : Type) :=
  (effect : Effect) → σ → σ → effect.Answer → Prop

namespace Flow

variable {α β σ : Type}

/-- Whatever the answers, what the flow has done, the state and the ending are in the end as
claimed. -/
def Leads (acts : View σ) : Flow α → σ → (List Deed → σ → Ending α → Prop) → Prop
  | .stop ending, s, claim => claim [] s ending
  | .ask effect next, s, claim =>
      ∀ s' answer, acts effect s s' answer →
        (next answer).Leads acts s' fun deeds => claim (⟨effect, answer⟩ :: deeds)

/-- What the first of two flows in a row has to end with, so that both together end as claimed. -/
def Onward (acts : View σ) (f : α → Flow β) (claim : List Deed → σ → Ending β → Prop) :
    List Deed → σ → Ending α → Prop
  | deeds, s, .done a => (f a).Leads acts s fun more => claim (deeds ++ more)
  | deeds, s, .failed why => claim deeds s (.failed why)
  | deeds, s, .crashed => claim deeds s .crashed

/-- What a flow has to end with, so that its attempt ends as claimed. -/
def Attempted (claim : List Deed → σ → Ending (Except Fault α) → Prop) :
    List Deed → σ → Ending α → Prop
  | deeds, s, .done a => claim deeds s (.done (.ok a))
  | deeds, s, .failed why => claim deeds s (.done (.error why))
  | deeds, s, .crashed => claim deeds s .crashed

variable {acts : View σ} {s : σ}

/-! ## Rules -/

/-- A weaker claim holds as well. -/
theorem Leads.mono {x : Flow α} {claim weaker : List Deed → σ → Ending α → Prop}
    (leads : x.Leads acts s claim)
    (imp : ∀ deeds s' ending, claim deeds s' ending → weaker deeds s' ending) :
    x.Leads acts s weaker := by
  induction x generalizing s claim weaker with
  | stop ending => exact imp [] s ending leads
  | ask effect next ih =>
      intro s' answer acted
      exact ih answer (leads s' answer acted) fun deeds => imp (_ :: deeds)

/-- Two flows in a row: the first leads to where the second can start. -/
theorem leads_bind (x : Flow α) (f : α → Flow β) (claim : List Deed → σ → Ending β → Prop) :
    (x >>= f).Leads acts s claim ↔ x.Leads acts s (Onward acts f claim) := by
  change (x.bind f).Leads acts s claim ↔ _
  induction x generalizing s claim with
  | stop ending => cases ending <;> rfl
  | ask effect next ih =>
      have onward_cons : ∀ deed : Deed,
          Onward acts f (fun more => claim (deed :: more)) =
            fun deeds => Onward acts f claim (deed :: deeds) := by
        intro deed
        funext deeds s' ending
        cases ending <;> rfl
      simp only [Flow.bind, Leads, ih, onward_cons]

/-- An attempt ends with the result or the fault of the flow. -/
theorem leads_attempt (x : Flow α) (claim : List Deed → σ → Ending (Except Fault α) → Prop) :
    x.attempt.Leads acts s claim ↔ x.Leads acts s (Attempted claim) := by
  induction x generalizing s claim with
  | stop ending => cases ending <;> rfl
  | ask effect next ih =>
      have attempted_cons : ∀ deed : Deed,
          Attempted (fun more => claim (deed :: more)) =
            fun deeds => Attempted claim (deed :: deeds) := by
        intro deed
        funext deeds s' ending
        cases ending <;> rfl
      simp only [attempt, Leads, ih, attempted_cons]

/-! ## Runs -/

/-- A flow has run from one world to another, with these deeds and this ending, while others did
what `aside` allows them. -/
inductive Takes (aside : World → World → Prop) :
    Flow α → World → List Deed → World → Ending α → Prop
  | stop (ending : Ending α) (w : World) : Takes aside (.stop ending) w [] w ending
  | aside {x : Flow α} {w met w' : World} {deeds : List Deed} {ending : Ending α}
      (others : aside w met) (rest : Takes aside x met deeds w' ending) :
      Takes aside x w deeds w' ending
  | ask {effect : Effect} {next : effect.Answer → Flow α} {w w' : World} {deeds : List Deed}
      {ending : Ending α}
      (rest : Takes aside (next (World.happen effect w).2) (World.happen effect w).1 deeds w'
        ending) :
      Takes aside (.ask effect next) w (⟨effect, (World.happen effect w).2⟩ :: deeds) w' ending

/-- What runs among some runs among others that may do more. -/
theorem Takes.mono {aside wider : World → World → Prop} {x : Flow α} {w w' : World}
    {deeds : List Deed} {ending : Ending α} (takes : x.Takes aside w deeds w' ending)
    (imp : ∀ {w w'}, aside w w' → wider w w') : x.Takes wider w deeds w' ending := by
  induction takes with
  | stop ending w => exact .stop ending w
  | aside others rest ih => exact .aside (imp others) ih
  | ask rest ih => exact .ask ih

/-- A flow that has run ended as claimed. -/
theorem Leads.of_takes {see : World → σ} {aside : World → World → Prop} {x : Flow α}
    {w w' : World} {deeds : List Deed} {ending : Ending α}
    {claim : List Deed → σ → Ending α → Prop}
    (truthful : ∀ effect w, acts effect (see w) (see (World.happen effect w).1)
      (World.happen effect w).2)
    (blind : ∀ {w met}, aside w met → see met = see w)
    (leads : x.Leads acts (see w) claim) (takes : x.Takes aside w deeds w' ending) :
    claim deeds (see w') ending := by
  induction takes generalizing claim with
  | stop ending w => exact leads
  | aside others rest ih =>
      apply ih
      rw [blind others]
      exact leads
  | ask rest ih => exact ih (leads _ _ (truthful _ _))

/-- What a flow that runs on its own asks for, with the answers. -/
def deedsIn : Flow α → World → List Deed
  | .stop _, _ => []
  | .ask effect next, w =>
      let (w, answer) := World.perform effect w
      ⟨effect, answer⟩ :: (next answer).deedsIn w

/-- A flow that runs on its own runs among others that do nothing but let time pass. -/
theorem takes_runIn {aside : World → World → Prop} (timely : ∀ w ms, aside w (w.after ms))
    (x : Flow α) (w : World) : x.Takes aside w (x.deedsIn w) (x.runIn w).1 (x.runIn w).2 := by
  induction x generalizing w with
  | stop ending => exact .stop ending w
  | ask effect next ih =>
      apply Takes.aside (timely w (effect.pause w.latency))
      apply Takes.ask
      exact ih _ _

end Flow

end FleetRoster
