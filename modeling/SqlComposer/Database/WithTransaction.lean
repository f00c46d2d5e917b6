import SqlComposer.Database.Basic

/-!
# Work within a transaction

Work runs within a transaction that is begun for it. The transaction is committed when the work
succeeds, unless the work has ended it, and rolled back when the work fails. The failure of the
work is the one that counts, also when rolling back fails.
-/

set_option autoImplicit false

namespace SqlComposer.Database

/-- The entry for a transaction that could not be rolled back. -/
def rollbackEntry (workFailure f : Failure) : Log.Entry :=
  ⟨.error, databaseLogger, "Transaction rollback failed",
    [("original_error", .text workFailure.name), ("error", .text f.name)], some f.name⟩

/-- Rolls a transaction back because of a failure, if it is still under way. A failure to do so
is logged and reported. -/
def rollbackQuietly (h : Handle) (workFailure : Failure) : Action Unit := do
  if ← h.isActive then
    Action.handling h.rollback fun f => do
      Action.log (rollbackEntry workFailure f)
      Action.reportError "ROLLBACK" f (.list [])

/-- Runs work within a transaction. -/
def withTransaction {α : Type} (db : Database) (work : Handle → Action α) : Action α := do
  let h ← Action.ask .newHandle
  h.begin db.settings
  match ← Action.outcome (work h) with
  | .error f =>
    rollbackQuietly h f
    Action.fail f
  | .ok x =>
    if ← h.isActive then h.commit
    return x

end SqlComposer.Database
