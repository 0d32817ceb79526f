import FleetRoster.Proofs.Accounts.Lookups
import FleetRoster.Proofs.Handler.Message

/-!
# Lookups agree

What is remembered of an organization first is the answer to all lookups of it from then on, and also
to those that had asked the store before.

In a store of their own, in which nobody else writes, the lookups also keep the accounts in order:
what is remembered is what is in the store, and the store has one account for each organization.
-/

namespace FleetRoster

/-! ## In a store of their own -/

namespace Store

/-- The accounts are numbered from one on. -/
structure IsCounted (s : Store) : Prop where
  positive : ∀ a ∈ s.accounts, 1 ≤ a.id
  count : s.lastAccount = s.accounts.length

theorem isCounted_empty : ({} : Store).IsCounted where
  positive _ mem := absurd mem List.not_mem_nil
  count := rfl

theorem IsCounted.upsertAccount {s : Store} (counted : s.IsCounted) (org : String) :
    (s.upsertAccount org).1.IsCounted := by
  unfold Store.upsertAccount
  split
  · exact counted
  · constructor
    · rw [List.forall_mem_append, List.forall_mem_singleton]
      refine ⟨counted.positive, ?_⟩
      change (1 : Int) ≤ ((s.lastAccount + 1 : Nat) : Int)
      omega
    · rw [List.length_append, List.length_singleton, counted.count]

/-- The only account that is made is that of the organization. -/
theorem org_of_mem_upsertAccount {s : Store} {org : String} {a : Account}
    (mem : a ∈ (s.upsertAccount org).1.accounts) (new : a ∉ s.accounts) : a.org = org := by
  unfold upsertAccount at mem
  split at mem
  · exact absurd mem new
  · rw [List.mem_append, List.mem_singleton] at mem
    rcases mem with old | rfl
    · exact absurd old new
    · rfl

end Store

namespace Books

variable {b b' b'' : Books} {org : String} {account : Int}

/-- What is there stays there, what is remembered stays remembered, and what is counted stays
counted. -/
structure Keeps (b b' : Books) : Prop extends b.Grows b' where
  known : ∀ {org account}, b.known org = some account → b'.known org = some account
  counted : b.store.IsCounted → b'.store.IsCounted

theorem Keeps.of_eq (same : b' = b) : b.Keeps b' := by
  subst same
  exact ⟨.refl _, id, id⟩

theorem Keeps.trans (first : b.Keeps b') (second : b'.Keeps b'') : b.Keeps b'' :=
  ⟨first.toGrows.trans second.toGrows, second.known ∘ first.known, second.counted ∘ first.counted⟩

theorem keeps_upsertAccount (b : Books) (org : String) :
    b.Keeps { b with store := (b.store.upsertAccount org).1 } where
  sound sound := ⟨sound.store.upsertAccount org,
    fun found => Store.account?_upsertAccount_of_some (sound.known found)⟩
  account := Store.account?_upsertAccount_of_some
  system found := by rwa [Store.system?_congr (Store.upsertAccount_systems _ _)]
  known := id
  counted counted := counted.upsertAccount org

/-- An account that is in the store may be remembered. -/
theorem keeps_remembering (unknown : b.known org = none)
    (owner : b.store.account? org = some ⟨account, org⟩) :
    b.Keeps (b.remembering org account) where
  sound sound := by
    refine ⟨sound.store, fun {other kept} found => ?_⟩
    rw [known_remembering unknown] at found
    split at found
    next same =>
      cases found
      rw [same]
      exact owner
    next => exact sound.known found
  account := id
  system := id
  known := known_remembering_of_some unknown
  counted := id

end Books

namespace World

@[simp]
theorem remember_store (w : World) (org : String) (account : Int) :
    (w.remember org account).1.store = w.store := by
  unfold remember
  split <;> rfl

theorem keeps_remember (w : World) {org : String} {account : Int}
    (owner : w.store.account? org = some ⟨account, org⟩) :
    w.books.Keeps (w.remember org account).1.books := by
  rcases w.acts_remember org account with ⟨same, _⟩ | ⟨unknown, made, _⟩
  · exact .of_eq same
  · rw [made]
    exact Books.keeps_remembering unknown owner

end World

namespace AccountLookups

/-- Each lookup counts on what is in the books, makes no account but that of its organization, and
makes none if it fails. -/
def keeping : Terms AccountLookup Int where
  rely w w' := w.books.Keeps w'.books
  grant l m := m.before.books.Keeps m.after.books ∧
    ∀ a ∈ m.after.store.accounts, a ∉ m.before.store.accounts → a.org = l.org
  claim _ moves _ ending := ∀ why, ending = .failed why →
    ∀ m ∈ moves, m.after.store.accounts = m.before.store.accounts

variable {l : AccountLookup} {m : Move}

/-- A move that leaves the store alone makes no account. -/
theorem granted_of_store (keeps : m.before.books.Keeps m.after.books)
    (same : m.after.store = m.before.store) : keeping.grant l m := by
  refine ⟨keeps, fun a mem new => absurd ?_ new⟩
  rwa [same] at mem

theorem granted_upsertAccount (made : m.after.books =
    { m.before.books with store := (m.before.store.upsertAccount l.org).1 }) :
    keeping.grant l m := by
  refine ⟨made ▸ m.before.books.keeps_upsertAccount l.org, fun a mem new => ?_⟩
  have store : m.after.store = (m.before.store.upsertAccount l.org).1 := congrArg Books.store made
  rw [store] at mem
  exact Store.org_of_mem_upsertAccount mem new

theorem among_keeping (l : AccountLookup) (w : World) :
    l.flow.Among World.Happens keeping.rely (keeping.grant l) w (keeping.claim l) := by
  by_cases unnamed : l.org = ""
  · rw [AccountLookup.flow_unnamed unnamed]
    exact fun _ _ _ _ m mem => absurd mem List.not_mem_nil
  · rw [AccountLookup.flow_named unnamed]
    rintro _ _ asking answer ⟨rfl, looked⟩
    refine ⟨granted_of_store (.of_eq rfl) rfl, ?_⟩
    cases answer with
    | some account => exact fun _ _ _ failed => nomatch failed
    | none =>
        rintro asked _ told answer ⟨rfl, answered⟩
        rcases asked.acts_call (.upsertAccount l.org) with ⟨same, refused⟩ | ⟨made, found⟩
        · cases answered.trans refused
          have sameStore : (asked.call (.upsertAccount l.org)).1.store = asked.store :=
            congrArg Books.store same
          refine ⟨granted_of_store (.of_eq same) sameStore, ?_⟩
          rintro _ _ _ _ ⟨rfl, rfl⟩
          refine ⟨granted_of_store (.of_eq rfl) rfl, fun _ _ _ _ => ?_⟩
          rw [List.forall_mem_cons, List.forall_mem_cons, List.forall_mem_singleton]
          exact ⟨rfl, congrArg Store.accounts sameStore, rfl⟩
        · cases answered.trans found
          have owner : (asked.call (.upsertAccount l.org)).1.store.account? l.org =
              some ⟨(asked.store.upsertAccount l.org).2, l.org⟩ := by
            rw [show (asked.call (.upsertAccount l.org)).1.store = _ from
              congrArg Books.store made]
            exact asked.store.account?_upsertAccount l.org
          refine ⟨granted_upsertAccount made, ?_⟩
          rintro met relied _ kept ⟨rfl, rfl⟩
          -- the account is still there, whatever was made and remembered in the meantime
          have keeps := met.keeps_remember (relied.account owner)
          refine ⟨granted_of_store keeps (met.remember_store _ _), ?_⟩
          rintro _ _ _ _ ⟨rfl, rfl⟩
          exact ⟨granted_of_store (.of_eq rfl) rfl, fun _ _ _ failed => nomatch failed⟩

theorem fit_keeping (start : World) :
    Errands.Fit AccountLookup.flow World.Happens (fun w w' => w'.books = w.books) keeping
      start where
  refl _ := .of_eq rfl
  trans _ _ _ first second := first.trans second
  others := .of_eq
  granted grant := grant.1
  judged l := among_keeping l start

/-! ## Agreement -/

/-- What lookups agree on, whatever the store answers. -/
structure Agree (c : AccountLookups) : Prop where
  /-- A lookup that was answered was answered with the account that is remembered. -/
  answered : ∀ l ∈ c.errands, ∀ account, l.rest = .stop (.done account) →
    c.world.known l.event.org = some account
  /-- A lookup that failed has remembered nothing. -/
  failed : ∀ l ∈ c.errands, ∀ why, l.rest = .stop (.failed why) →
    ∀ m ∈ l.moves, m.after.accounts = m.before.accounts
  /-- A lookup of no organization has failed without asking for anything. -/
  unnamed : ∀ l ∈ c.errands, l.event.org = "" → l.rest = .stop (.failed .noAccount) ∧ l.moves = []
  uncrashed : ∀ l ∈ c.errands, l.rest ≠ .stop .crashed

/-- The account of an organization is settled: it is remembered, and every lookup that was answered
was answered with it. -/
structure Settles (c : AccountLookups) (org : String) (account : Int) : Prop where
  known : c.world.known org = some account
  answers : ∀ l ∈ c.errands, l.event.org = org → ∀ answer, l.rest = .stop (.done answer) →
    answer = account

/-- How lookups keep a store of their own. -/
structure KeepOrder (c : AccountLookups) : Prop where
  /-- An account that is remembered is that of the organization's row. -/
  remembered : ∀ org account, c.world.known org = some account →
    (⟨account, org⟩ : Account) ∈ c.world.store.accounts
  /-- An organization of which a lookup was answered has one row. -/
  once : ∀ l ∈ c.errands, ∀ account, l.rest = .stop (.done account) →
    (c.world.store.accounts.map (·.org)).count l.event.org = 1
  /-- No other organization has a row: each row is that of a lookup that was answered with it, or is
  under way. -/
  made : ∀ a ∈ c.world.store.accounts, ∃ l ∈ c.errands, l.event.org = a.org ∧
    ∀ ending, l.rest = .stop ending → ending = .done a.id
  /-- Different organizations have different accounts. -/
  apart : ∀ org other account, c.world.known org = some account →
    c.world.known other = some account → org = other
  /-- The numbers of accounts go from one to their count, so that what can hold the count can hold
  every account. -/
  range : ∀ a ∈ c.world.store.accounts, 1 ≤ a.id ∧ a.id ≤ c.world.store.accounts.length

theorem agree_of_reaches {start : World} {c : AccountLookups}
    (reaches : Reaches { world := start } c) : c.Agree := by
  have fit := fit_remembering start
  have keeps := Errands.keeps_of_reaches fit reaches
  constructor
  · intro l mem account done
    exact keeps.claim fit mem done
  · intro l mem why failed
    exact keeps.claim fit mem failed
  · intro l mem unnamed
    exact Errands.idle_of_reaches reaches (AccountLookup.flow_unnamed unnamed) l mem rfl
  · intro l mem crashed
    exact keeps.claim fit mem crashed

theorem keepOrder_of_reachesAlone {start : World} {c : AccountLookups} (store : start.store = {})
    (accounts : start.accounts = []) (reaches : ReachesAlone { world := start } c) :
    c.KeepOrder := by
  have fit := fit_keeping start
  have keeps := Errands.keeps_of_reaches fit reaches
  have agree := agree_of_reaches reaches.reaches
  have blank : start.books = ⟨{}, []⟩ := by rw [World.books, store, accounts]
  have sound : c.world.books.IsSound := keeps.since.sound (blank ▸ Books.isSound_empty)
  have counted : c.world.store.IsCounted :=
    keeps.since.counted (blank ▸ Store.isCounted_empty)
  have owner : ∀ {org account}, c.world.known org = some account →
      (⟨account, org⟩ : Account) ∈ c.world.store.accounts := fun known =>
    Store.mem_of_account? (sound.known known)
  constructor
  case remembered => exact fun org account => owner
  case once =>
    intro l mem account done
    have row := owner (agree.answered l mem account done)
    exact List.count_eq_one_of_mem sound.store.accountOrgs (List.mem_map_of_mem row)
  case made =>
    intro a mem
    have absent : a ∉ start.store.accounts := by
      rw [store]
      exact List.not_mem_nil
    obtain ⟨l, memErrands, m, memMoves, before, after⟩ :=
      Errands.exists_move (fun w => a ∈ w.store.accounts) (fun {w w'} same mem => by
        rwa [show w'.store = w.store from congrArg Books.store same] at mem) absent reaches mem
    have org := (keeps.moves l memErrands m memMoves).2 a after before
    refine ⟨l, memErrands, org.symm, fun ending ended => ?_⟩
    cases ending with
    | done account =>
        have row := owner (agree.answered l memErrands account ended)
        have same : a = ⟨account, l.event.org⟩ :=
          List.inj_on_of_nodup_map sound.store.accountOrgs mem row org
        rw [same]
    | failed why =>
        have same := keeps.claim fit memErrands ended why rfl m memMoves
        rw [same] at after
        exact absurd after before
    | crashed => exact absurd ended (agree.uncrashed l memErrands)
  case apart =>
    intro org other account known knownOther
    exact sound.store.org_unique (sound.known known) (sound.known knownOther)
  case range =>
    intro a mem
    have le := sound.store.accountId_le a mem
    exact ⟨counted.positive a mem, by rwa [← counted.count]⟩

theorem settles_of_reaches {start : World} {c c' : AccountLookups}
    (reaches : Reaches { world := start } c) {org : String} {account : Int}
    (known : c.world.known org = some account) (later : c.Reaches c') :
    c'.Settles org account := by
  have fit := fit_remembering start
  obtain ⟨remembers, keeps⟩ := (Errands.keeps_of_reaches fit reaches).reaches fit later
  have still : c'.world.known org = some account := remembers.known known
  refine ⟨still, ?_⟩
  rintro l mem rfl answer done
  have answered : c'.world.known l.event.org = some answer := keeps.claim fit mem done
  exact Option.some.inj (answered.symm.trans still)

/-- However lookups come in between each other, they agree, and an account that is remembered is
settled; in a store of their own they keep the accounts in order. -/
theorem lookups_agree (start : World) :
    (∀ c, Reaches { world := start } c →
      c.Agree ∧ ∀ org account, c.world.known org = some account →
        ∀ c', c.Reaches c' → c'.Settles org account) ∧
    (start.store = {} → start.accounts = [] →
      ∀ c, ReachesAlone { world := start } c → c.KeepOrder) := by
  constructor
  · intro c reaches
    refine ⟨agree_of_reaches reaches, fun org account known c' later => ?_⟩
    exact settles_of_reaches reaches known later
  · intro store accounts c reaches
    exact keepOrder_of_reachesAlone store accounts reaches

namespace Sample

open Errands (play reaches_play)

def world : World where
  clock n := ⟨n, 0⟩
  buffer := Buffer.ofCapacity 2 10 1000
  evaluations := { name := "evaluations" }
  audits := { name := "audits" }
  requests := { name := "requests" }

def lookup : AccountLookup where
  about := ⟨"created", none⟩
  org := "o"

/-- Two lookups find no account remembered, and the first one gets one from the store. -/
def asked : AccountLookups :=
  play 0 (play 1 (play 0 ⟨world, [⟨lookup, lookup.flow, []⟩, ⟨lookup, lookup.flow, []⟩]⟩))

/-- The second lookup gets an account and remembers it before the first one does. -/
def race (c : AccountLookups) : AccountLookups :=
  play 0 (play 0 (play 1 (play 1 (play 1 c))))

/-- In the meantime the store gives the organization another account. -/
def exchanged : AccountLookups :=
  { asked with world := { asked.world with store := { accounts := [⟨9, "o"⟩] } } }

theorem reaches_asked : ReachesAlone { world } asked := by
  have begun : ReachesAlone { world } ⟨world, [⟨lookup, lookup.flow, []⟩]⟩ :=
    .single (.begin lookup)
  have both := begun.tail (.begin lookup)
  have happens : ∀ effect w, World.Happens effect w _ _ := fun _ _ => ⟨rfl, rfl⟩
  exact ((both.trans (reaches_play happens 0 _)).trans (reaches_play happens 1 _)).trans
    (reaches_play happens 0 _)

theorem reaches_race (c : AccountLookups) : c.ReachesAlone (race c) := by
  have happens : ∀ effect w, World.Happens effect w _ _ := fun _ _ => ⟨rfl, rfl⟩
  exact ((((reaches_play happens 1 _).trans (reaches_play happens 1 _)).trans
    (reaches_play happens 1 _)).trans (reaches_play happens 0 _)).trans (reaches_play happens 0 _)

theorem reaches_exchanged : Reaches { world } exchanged :=
  reaches_asked.reaches.tail (.others rfl)

end Sample

theorem lookups_agree_sample :
    ((Sample.race Sample.exchanged).errands.map (·.rest) = [.stop (.done 9), .stop (.done 9)] ∧
      (Sample.race Sample.exchanged).Agree ∧ (Sample.race Sample.exchanged).Settles "o" 9) ∧
    (Sample.race Sample.asked).errands.map (·.rest) = [.stop (.done 1), .stop (.done 1)] ∧
      (Sample.race Sample.asked).KeepOrder := by
  obtain ⟨agree, keepOrder⟩ := lookups_agree Sample.world
  have exchanged := agree _ (Sample.reaches_exchanged.trans (Sample.reaches_race _).reaches)
  refine ⟨⟨rfl, exchanged.1, exchanged.2 "o" 9 rfl _ .refl⟩, rfl, ?_⟩
  exact keepOrder rfl rfl _ (Sample.reaches_asked.trans (Sample.reaches_race _))

end AccountLookups

end FleetRoster
