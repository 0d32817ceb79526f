import FleetRoster.Flow.Basic

/-!
# Two runs side by side

Two flows are run, each in a world of its own. They are twins where they end alike and leave their
worlds as claimed. The judgement follows both flows at once. Where one of them does not have to do
as much as the other, it is evaluated on its own up to where both go on together.
-/

namespace FleetRoster.Flow

variable {α β σ τ : Type}

/-- What performs effects. -/
abbrev Performer (σ : Type) :=
  (effect : Effect) → σ → σ × effect.Answer

/-- Two flows in a row are run one after the other, unless the first one fails or crashes. -/
theorem run_bind (p : Performer σ) (x : Flow α) (f : α → Flow β) (s : σ) :
    (x >>= f).run p s =
      match x.run p s with
      | (s', .done a) => (f a).run p s'
      | (s', .failed why) => (s', .failed why)
      | (s', .crashed) => (s', .crashed) := by
  change (x.bind f).run p s = _
  induction x generalizing s with
  | stop ending => cases ending <;> rfl
  | ask effect next ih => exact ih _ _

/-- The first flow, run by `p`, and the second, run by `q`, end alike, and the states they end in
are as claimed. -/
def Twins (p : Performer σ) (q : Performer τ) (x y : Flow α) (s : σ) (t : τ)
    (claim : Ending α → σ → τ → Prop) : Prop :=
  (y.run q t).2 = (x.run p s).2 ∧ claim (x.run p s).2 (x.run p s).1 (y.run q t).1

/-- What the first of two flows in a row has to end with, so that both together are twins. -/
def Abreast (p : Performer σ) (q : Performer τ) (f g : α → Flow β)
    (claim : Ending β → σ → τ → Prop) : Ending α → σ → τ → Prop
  | .done a, s, t => Twins p q (f a) (g a) s t claim
  | .failed why, s, t => claim (.failed why) s t
  | .crashed, s, t => claim .crashed s t

variable {p : Performer σ} {q : Performer τ} {s : σ} {t : τ}

/-- A weaker claim holds as well. -/
theorem Twins.mono {x y : Flow α} {claim weaker : Ending α → σ → τ → Prop}
    (twins : Twins p q x y s t claim)
    (imp : ∀ ending s' t', claim ending s' t' → weaker ending s' t') :
    Twins p q x y s t weaker :=
  ⟨twins.1, imp _ _ _ twins.2⟩

/-- Flows in a row are twins where the first ones lead to where the second ones are. -/
theorem twins_bind {x y : Flow α} {f g : α → Flow β} {claim : Ending β → σ → τ → Prop}
    (twins : Twins p q x y s t (Abreast p q f g claim)) :
    Twins p q (x >>= f) (y >>= g) s t claim := by
  unfold Twins at twins ⊢
  rw [run_bind, run_bind]
  generalize x.run p s = one at twins ⊢
  generalize y.run q t = other at twins ⊢
  rcases one with ⟨s', ending⟩
  rcases other with ⟨t', ending'⟩
  obtain ⟨same, rest⟩ := twins
  change ending' = ending at same
  subst same
  cases ending' with
  | done a => exact rest
  | failed why => exact ⟨rfl, rest⟩
  | crashed => exact ⟨rfl, rest⟩

/-- An effect with the same answer on both sides. -/
theorem twins_ask {effect : Effect} {next next' : effect.Answer → Flow α}
    {claim : Ending α → σ → τ → Prop} (same : (q effect t).2 = (p effect s).2)
    (rest : Twins p q (next (p effect s).2) (next' (p effect s).2) (p effect s).1 (q effect t).1
      claim) :
    Twins p q (.ask effect next) (.ask effect next') s t claim := by
  change Twins p q (next (p effect s).2) (next' (q effect t).2) (p effect s).1 (q effect t).1 claim
  rwa [same]

/-! ## Flows of some effects -/

/-- A flow asks for such effects only. -/
def Only (allowed : Effect → Prop) : Flow α → Prop
  | .stop _ => True
  | .ask effect next => allowed effect ∧ ∀ answer, (next answer).Only allowed

section

variable {allowed : Effect → Prop}

/-- Where everything is allowed, every flow will do. -/
theorem only_of_forall (all : ∀ effect, allowed effect) (x : Flow α) : x.Only allowed := by
  induction x with
  | stop ending => trivial
  | ask effect next ih => exact ⟨all effect, ih⟩

theorem only_perform {effect : Effect} (may : allowed effect) :
    (perform effect).Only allowed :=
  ⟨may, fun _ => trivial⟩

theorem only_store {call : Store.Call} (may : allowed (.store call)) :
    (store call).Only allowed := by
  refine ⟨may, fun answer => ?_⟩
  cases answer <;> trivial

theorem Only.mono {wider : Effect → Prop} {x : Flow α} (only : x.Only allowed)
    (imp : ∀ effect, allowed effect → wider effect) : x.Only wider := by
  induction x with
  | stop ending => trivial
  | ask effect next ih => exact ⟨imp effect only.1, fun answer => ih answer (only.2 answer)⟩

theorem Only.bind {x : Flow α} {f : α → Flow β} (only : x.Only allowed)
    (rest : ∀ a, (f a).Only allowed) : (x >>= f).Only allowed := by
  change (x.bind f).Only allowed
  induction x with
  | stop ending =>
      cases ending with
      | done a => exact rest a
      | failed why => trivial
      | crashed => trivial
  | ask effect next ih => exact ⟨only.1, fun answer => ih answer (only.2 answer)⟩

theorem Only.attempt {x : Flow α} (only : x.Only allowed) : x.attempt.Only allowed := by
  induction x with
  | stop ending => cases ending <;> trivial
  | ask effect next ih => exact ⟨only.1, fun answer => ih answer (only.2 answer)⟩

end

/-- A flow is its own twin where each of its effects has the same answer on both sides and keeps the
states related. -/
theorem Only.twins {allowed : Effect → Prop} {related : σ → τ → Prop} {x : Flow α}
    (only : x.Only allowed)
    (step : ∀ {effect s t}, allowed effect → related s t →
      (q effect t).2 = (p effect s).2 ∧ related (p effect s).1 (q effect t).1)
    (start : related s t) : Twins p q x x s t fun _ => related := by
  induction x generalizing s t with
  | stop ending => exact ⟨rfl, start⟩
  | ask effect next ih =>
      obtain ⟨same, after⟩ := step only.1 start
      exact twins_ask same (ih _ (only.2 _) after)

end FleetRoster.Flow
