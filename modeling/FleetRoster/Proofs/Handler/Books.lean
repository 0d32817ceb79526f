import FleetRoster.Proofs.Buffer.Flush
import FleetRoster.Proofs.Flow.Leads
import FleetRoster.Proofs.Store.Sound

/-!
# The books

Of all that handlers share, the store and the remembered accounts decide what becomes of an event;
together they are the books. Only calls of the store that are not refused and the first lookup of an
organization change them: nothing that the buffer, the topics, the clock or the log do does.
-/

namespace FleetRoster

open Calendar (Instant)

/-- The store and the remembered accounts. -/
structure Books where
  store : Store
  accounts : List (String × Int)

/-- The books of a world. -/
def World.books (w : World) : Books :=
  ⟨w.store, w.accounts⟩

namespace Books

/-- The remembered account of an organization. -/
def known (b : Books) (org : String) : Option Int :=
  (b.accounts.find? fun entry => entry.1 == org).map (·.2)

/-- The books with one more remembered account. -/
def remembering (b : Books) (org : String) (account : Int) : Books :=
  { b with accounts := b.accounts ++ [(org, account)] }

/-- What an effect may make of the books, with its answer. -/
def Acts : View Books
  | .store call, b, b', answer =>
      (b' = b ∧ answer = .error call.refusal) ∨
        (b' = { b with store := (b.store.answer call).1 } ∧ answer = .ok (b.store.answer call).2)
  | .known org, b, b', answer => b' = b ∧ answer = b.known org
  | .remember org account, b, b', answer =>
      (b' = b ∧ b.known org = some answer) ∨
        (b.known org = none ∧ b' = b.remembering org account ∧ answer = account)
  | _, b, b', _ => b' = b

end Books

/-! ## What leaves the books alone -/

/-- The books are as before, and the clock is the same and was not turned back. -/
structure World.Aside (w w' : World) : Prop where
  books : w'.books = w.books
  clock : w'.clock = w.clock
  readings : w.readings ≤ w'.readings

namespace World

namespace Aside

theorem trans {w₁ w₂ w₃ : World} (first : w₁.Aside w₂) (second : w₂.Aside w₃) : w₁.Aside w₃ :=
  ⟨second.books.trans first.books, second.clock.trans first.clock,
    Nat.le_trans first.readings second.readings⟩

end Aside

variable (w : World)

theorem aside_after (ms : Nat) : w.Aside (w.after ms) :=
  ⟨rfl, rfl, Nat.le_refl _⟩

/-- Nothing that is sent touches the books. -/
theorem isApart_aside : IsApart World.Aside where
  trans := Aside.trans
  readClock _ := ⟨rfl, rfl, Nat.le_succ _⟩
  send _ channel _ := by cases channel <;> exact ⟨rfl, rfl, Nat.le_refl _⟩
  note _ _ := ⟨rfl, rfl, Nat.le_refl _⟩
  countFailedSend _ _ := ⟨rfl, rfl, Nat.le_refl _⟩
  setBuffer _ _ := ⟨rfl, rfl, Nat.le_refl _⟩

/-! ## The view tells the truth -/

theorem acts_call (call : Store.Call) :
    Books.Acts (.store call) w.books (w.call call).1.books (w.call call).2 := by
  unfold World.call
  by_cases out : w.outage w.calls
  · rw [if_pos out]
    exact .inl ⟨rfl, rfl⟩
  · rw [if_neg out]
    exact .inr ⟨rfl, rfl⟩

theorem acts_remember (org : String) (account : Int) :
    Books.Acts (.remember org account) w.books (w.remember org account).1.books
      (w.remember org account).2 := by
  unfold World.remember
  split
  next kept looked => exact .inl ⟨rfl, looked⟩
  next looked => exact .inr ⟨looked, rfl, rfl⟩

/-- Whatever happens in a world, happens to its books as the view says. -/
theorem acts_happen (effect : Effect) :
    Books.Acts effect w.books (World.happen effect w).1.books (World.happen effect w).2 := by
  cases effect with
  | now => rfl
  | next series => cases series <;> rfl
  | store call => exact w.acts_call call
  | known org => exact ⟨rfl, rfl⟩
  | remember org account => exact w.acts_remember org account
  | buffer item audit => exact (isApart_aside.add w item audit).books
  | sendAudit audit => exact (isApart_aside.sendAudits w [audit]).books
  | sendTargets targets batchSize => exact (isApart_aside.sendTargets w targets batchSize).books
  | count lane verdict => rfl
  | countFailedSend channel => rfl
  | log notice => rfl
  | sleep ms => rfl

end World

/-- A flow that has run ended as claimed of the books, where the others left them alone. -/
theorem Flow.Leads.inBooks {α : Type} {aside : World → World → Prop} {x : Flow α} {w w' : World}
    {deeds : List Deed} {ending : Ending α} {claim : List Deed → Books → Ending α → Prop}
    (leads : x.Leads Books.Acts w.books claim)
    (blind : ∀ {w met}, aside w met → met.books = w.books)
    (takes : x.Takes aside w deeds w' ending) : claim deeds w'.books ending :=
  leads.of_takes (fun effect w => w.acts_happen effect) blind takes

/-! ## Sound books -/

namespace Books

/-- Sound books have a sound store and remember the accounts that are in it. -/
structure IsSound (b : Books) : Prop where
  store : b.store.IsSound
  known : ∀ {org account}, b.known org = some account →
    b.store.account? org = some ⟨account, org⟩

/-- Books that nothing was written into are sound. -/
theorem isSound_empty : (⟨{}, []⟩ : Books).IsSound where
  store := Store.isSound_empty
  known := by
    intro org account found
    contradiction

theorem known_remembering {b : Books} {org other : String} {account : Int}
    (unknown : b.known org = none) :
    (b.remembering org account).known other =
      if other = org then some account else b.known other := by
  simp only [known, remembering, Option.map_eq_none_iff] at unknown ⊢
  rw [List.find?_append]
  by_cases same : other = org
  · simp [same, unknown]
  · simp [same, Ne.symm same]

end Books

end FleetRoster
