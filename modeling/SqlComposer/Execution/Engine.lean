import SqlComposer.Execution.Pool

/-!
# Engines

Statements run on an engine: a pool of connections, and a way to have a connection with a
transaction of its own for as long as some work takes. How such a transaction is begun and ended is
not the library's own code. The library enters it before the work, and when it leaves says whether
the work has failed.
-/

set_option autoImplicit false

namespace SqlComposer

/-- A connection with a transaction under way on it. -/
structure TransactionScope where
  connection : Connection
  transaction : OpenTransaction

/-- What statements run on. -/
structure Engine where
  /-- How the pool is made. -/
  settings : DatabaseSettings
  /-- Checks out a connection and begins a transaction on it. -/
  enter : Action TransactionScope
  /-- Ends the transaction, given the failure of the work in it if there was one, and gives the
  connection back. -/
  leave : TransactionScope → Option Failure → Action Unit

namespace Engine

/-- Does some work in a transaction of its own. -/
def transacting {α : Type} (e : Engine) (work : Connection → Action α) : Action α := do
  Pool.ensure e.settings
  let scope ← e.enter
  match ← Action.outcome (work scope.connection) with
  | .ok x =>
    e.leave scope none
    return x
  | .error f =>
    e.leave scope (some f)
    Action.fail f

/-- Commits a transaction, or rolls it back if that fails. -/
def commitOrRollBack (t : OpenTransaction) : Action Unit := do
  match ← Action.outcome (Action.commit t) with
  | .ok _ => return ()
  | .error f =>
    Action.rollback t
    Action.fail f

/-- The engine that gives every connection back, whatever fails, and rolls back what could not be
committed. -/
def careful (s : DatabaseSettings) : Engine where
  settings := s
  enter := do
    let c ← Action.connect
    match ← Action.outcome (Action.begin c) with
    | .ok t => return ⟨c, t⟩
    | .error f =>
      Action.close c
      Action.fail f
  leave scope failure :=
    Action.ending
      (match failure with
        | none => commitOrRollBack scope.transaction
        | some _ => Action.rollback scope.transaction)
      (Action.close scope.connection)

end Engine

end SqlComposer
