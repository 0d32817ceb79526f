import FleetRoster.Flow.Basic

/-!
# Accounts of organizations

An account is looked up in the store once and then remembered. Several lookups of one organization
may be under way at the same time; the one that is remembered first is the answer to all of them.
-/

namespace FleetRoster

/-- The account of an organization, made in the store on the first lookup. -/
def resolveAccount (about : Log.Context) (org : String) : Flow Int :=
  if org.isEmpty then .fail .noAccount
  else do
    match ← Flow.known org with
    | some account => pure account
    | none =>
      match ← (Flow.store (.upsertAccount org)).attempt with
      | .error why =>
        Flow.log (.accountUnresolved about org why)
        .fail why
      | .ok (found : Int) =>
        let kept ← Flow.remember org found
        if kept = found then Flow.log (.accountRemembered about org found)
        else Flow.log (.accountMismatch about org kept found)
        pure kept

end FleetRoster
