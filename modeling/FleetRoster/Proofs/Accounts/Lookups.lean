import FleetRoster.Proofs.Flow.Errands
import FleetRoster.Accounts
import FleetRoster.Proofs.Handler.Books

/-!
# Lookups of accounts

Any number of lookups go on at the same time, of one organization or of many. The store may give each
of them another answer, and may refuse any of them. All that a lookup can count on is that what is
remembered stays remembered, and that is enough: in the end it is answered with what is remembered of
its organization, or fails without having remembered anything.
-/

namespace FleetRoster

/-- A lookup of the account of an organization. -/
structure AccountLookup where
  about : Log.Context
  org : String

namespace AccountLookup

/-- What a lookup does. -/
def flow (l : AccountLookup) : Flow Int :=
  resolveAccount l.about l.org

/-- What a lookup logs in the end: the store has found one account, and this one is kept. -/
def notice (l : AccountLookup) (found kept : Int) : Notice :=
  if kept = found then .accountRemembered l.about l.org found
  else .accountMismatch l.about l.org kept found

theorem logs_notice (l : AccountLookup) (found kept : Int) :
    (if kept = found then do
        Flow.log (.accountRemembered l.about l.org found)
        return kept
      else do
        Flow.log (.accountMismatch l.about l.org kept found)
        return kept) =
      Flow.ask (.log (l.notice found kept)) fun _ => .stop (.done kept) := by
  unfold notice
  by_cases same : kept = found
  · rw [if_pos same, if_pos same]
    rfl
  · rw [if_neg same, if_neg same]
    rfl

/-- A lookup of no organization fails at once. -/
theorem flow_unnamed {l : AccountLookup} (unnamed : l.org = "") :
    l.flow = .stop (.failed .noAccount) := by
  rw [flow, unnamed]
  rfl

/-- A lookup of an organization, effect by effect. -/
theorem flow_named {l : AccountLookup} (named : l.org ≠ "") :
    l.flow = .ask (.known l.org) fun
      | some account => .stop (.done account)
      | none => .ask (.store (.upsertAccount l.org)) fun
        | .error why =>
          .ask (.log (.accountUnresolved l.about l.org why)) fun _ => .stop (.failed why)
        | .ok found => .ask (.remember l.org found) fun kept =>
          .ask (.log (l.notice found kept)) fun _ => .stop (.done kept) := by
  rw [flow, resolveAccount, if_neg (by simpa using named)]
  refine congrArg (Flow.ask _) (funext fun answer => ?_)
  rcases answer with _ | account
  · refine congrArg (Flow.ask _) (funext fun answer => ?_)
    rcases answer with why | found
    · rfl
    · exact congrArg (Flow.ask _) (funext fun kept => l.logs_notice found kept)
  · rfl

end AccountLookup

/-- All the lookups there are. -/
abbrev AccountLookups := Errands AccountLookup Int

namespace World

/-! ## What happens around a lookup -/

/-- Every effect happens as it does in the world. -/
def Happens : View World
  | effect, w, w', answer => w' = (happen effect w).1 ∧ answer = (happen effect w).2

/-- The store may be any store, and give any answers at all; what is remembered is remembered in the
world. -/
def HappensWhatever : View World
  | .store _, w, w', _ => w'.accounts = w.accounts
  | effect, w, w', answer => Happens effect w w' answer

/-- What happens in the world may happen in one with any store. -/
theorem Happens.whatever {effect : Effect} {w w' : World} {answer : effect.Answer}
    (happens : Happens effect w w' answer) : HappensWhatever effect w w' answer := by
  cases effect with
  | store call =>
      rcases happens with ⟨rfl, rfl⟩
      change (w.call call).1.accounts = w.accounts
      unfold World.call
      split <;> rfl
  | _ => exact happens

end World

namespace AccountLookups

/-- Lookups begin and go on, whatever the store answers, while others leave alone what is
remembered. -/
abbrev Reaches : AccountLookups → AccountLookups → Prop :=
  Errands.Reaches AccountLookup.flow World.HappensWhatever fun w w' => w'.accounts = w.accounts

/-- Lookups begin and go on, while others also leave the store alone. -/
abbrev ReachesAlone : AccountLookups → AccountLookups → Prop :=
  Errands.Reaches AccountLookup.flow World.Happens fun w w' => w'.books = w.books

theorem ReachesAlone.reaches {c c' : AccountLookups} (reaches : c.ReachesAlone c') :
    c.Reaches c' :=
  Errands.Reaches.mono World.Happens.whatever (congrArg Books.accounts) reaches

end AccountLookups

/-! ## Whatever the store answers -/

/-- What is remembered stays so when another account is. -/
theorem Books.known_remembering_of_some {b : Books} {org other : String} {account kept : Int}
    (unknown : b.known org = none) (found : b.known other = some kept) :
    (b.remembering org account).known other = some kept := by
  rw [Books.known_remembering unknown, if_neg]
  · exact found
  · rintro rfl
    rw [unknown] at found
    contradiction

/-- The accounts that are remembered stay remembered. -/
structure World.Remembers (w w' : World) : Prop where
  known : ∀ {org account}, w.known org = some account → w'.known org = some account

namespace World

variable {w w' : World}

theorem Remembers.of_accounts (same : w'.accounts = w.accounts) : w.Remembers w' where
  known found := by rwa [World.known, same]

theorem Remembers.trans {w'' : World} (first : w.Remembers w') (second : w'.Remembers w'') :
    w.Remembers w'' :=
  ⟨second.known ∘ first.known⟩

/-- What is remembered from then on is the answer. -/
theorem known_remember (w : World) (org : String) (account : Int) :
    (w.remember org account).1.known org = some (w.remember org account).2 := by
  unfold remember
  split
  next kept looked => exact looked
  next looked => exact (Books.known_remembering (b := w.books) looked).trans (if_pos rfl)

theorem remembers_remember (w : World) (org : String) (account : Int) :
    w.Remembers (w.remember org account).1 := by
  unfold remember
  split
  next kept looked => exact ⟨id⟩
  next looked => exact ⟨Books.known_remembering_of_some (b := w.books) looked⟩

end World

namespace AccountLookups

/-- Each lookup counts on what is remembered, and is answered with that or remembers nothing. -/
def remembering : Terms AccountLookup Int where
  rely := World.Remembers
  grant _ m := m.before.Remembers m.after
  claim l moves w
    | .done account => w.known l.org = some account
    | .failed _ => ∀ m ∈ moves, m.after.accounts = m.before.accounts
    | .crashed => False

theorem among_remembering (l : AccountLookup) (w : World) :
    l.flow.Among World.HappensWhatever remembering.rely (remembering.grant l) w
      (remembering.claim l) := by
  by_cases unnamed : l.org = ""
  · rw [AccountLookup.flow_unnamed unnamed]
    exact fun met _ m mem => absurd mem List.not_mem_nil
  · rw [AccountLookup.flow_named unnamed]
    rintro _ _ asking answer ⟨rfl, looked⟩
    refine ⟨⟨id⟩, ?_⟩
    cases answer with
    | some account => exact fun _ relied => relied.known looked.symm
    | none =>
        intro _ _ told answer same
        refine ⟨.of_accounts same, ?_⟩
        cases answer with
        | error why =>
            rintro _ _ _ _ ⟨rfl, rfl⟩
            refine ⟨.of_accounts rfl, fun _ _ => ?_⟩
            -- none of the three moves has remembered anything
            change ∀ m ∈ [_, _, _], _
            rw [List.forall_mem_cons, List.forall_mem_cons, List.forall_mem_singleton]
            exact ⟨rfl, same, rfl⟩
        | ok found =>
            -- another lookup may have remembered an account by now, which is the answer then
            rintro told _ _ _ ⟨rfl, rfl⟩
            refine ⟨told.remembers_remember l.org found, ?_⟩
            rintro _ relied _ _ ⟨rfl, rfl⟩
            have kept := relied.known (told.known_remember l.org found)
            exact ⟨.of_accounts rfl, fun _ later => later.known kept⟩

theorem fit_remembering (start : World) :
    Errands.Fit AccountLookup.flow World.HappensWhatever (fun w w' => w'.accounts = w.accounts)
      remembering start where
  refl _ := ⟨id⟩
  trans _ _ _ first second := first.trans second
  others := .of_accounts
  granted := id
  judged l := among_remembering l start

end AccountLookups

end FleetRoster
