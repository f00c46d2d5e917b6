import SqlComposer.Execution.Statement

/-!
# Transactions

A handle owns a connection from the moment its transaction is begun until it is committed or
rolled back. Whatever fails on the way, the connection is given back, and the handle is idle
again and can begin another transaction.
-/

set_option autoImplicit false

namespace SqlComposer

/-- The logger of transactions. -/
def transactionLogger : String := "querycraft.engines.transaction"

/-- What is wrong with the state of a handle. -/
def transactionFailure (message : String) : Failure := .error (.transaction message .empty)

/-- Says at the lowest level what happened to a transaction. -/
def noteTransaction (what : String) : Action Unit :=
  Action.log ⟨.debug, transactionLogger, "Transaction " ++ what, [], none⟩

namespace Handle

/-- The state of the handle. -/
def state (h : Handle) : Action HandleState := Action.ask (.handleState h)

/-- Whether the handle has a transaction under way. -/
def isActive (h : Handle) : Action Bool := do return (← h.state).isActive

/-- Begins a transaction on a connection of the pool. A connection on which none can be begun is
given back. -/
def begin (h : Handle) (s : DatabaseSettings) : Action Unit := do
  if ← h.isActive then Action.raise (transactionFailure "Transaction already started")
  let c ← Pool.connect s
  match ← Action.outcome (Action.begin c) with
  | .error f =>
    Action.close c
    Action.fail f
  | .ok t =>
    let start ← Action.ask .now
    Action.ask (.setHandleState h ⟨some c, some t, some start⟩)
    noteTransaction "started"

/-- How long a transaction has been under way. -/
def elapsed (state : HandleState) : Action Float := do
  match state.startedAt with
  | none => return 0.0
  | some start =>
    if start == 0.0 then return 0.0
    return (← Action.ask .now) - start

/-- Gives the connection back. The handle is idle before that, so it stays idle if that fails. -/
def release (h : Handle) : Action Unit := do
  let state ← h.state
  let seconds ← elapsed state
  Action.ask (.setHandleState h .idle)
  match state.connection with
  | some c => Action.close c
  | none => pure ()
  Action.log ⟨.info, transactionLogger, "Transaction finished",
    [("duration.seconds", secondsText seconds)], none⟩

/-- Ends the transaction in one of the two ways and gives the connection back. -/
def finish (h : Handle) (verb done : String) (how : OpenTransaction → Action Unit) :
    Action Unit := do
  let state ← h.state
  match state.connection, state.begun with
  | some _, some t =>
    Action.ending (how t) h.release
    noteTransaction done
  | _, _ => Action.raise (transactionFailure ("No active transaction to " ++ verb))

/-- Commits the transaction. -/
def commit (h : Handle) : Action Unit := h.finish "commit" "committed" Action.commit

/-- Rolls the transaction back. -/
def rollback (h : Handle) : Action Unit := h.finish "rollback" "rolled back" Action.rollback

/-- The connection of the transaction. -/
def connection (h : Handle) : Action Connection := do
  let state ← h.state
  match state.connection, state.begun with
  | some c, some _ => return c
  | _, _ => Action.raise (transactionFailure "No active transaction")

/-- Executes a statement within the transaction, in a span. -/
def query (h : Handle) (sql : String) (values : Value) : Action QueryResult :=
  (Tracing.ofOperation transactionLogger "querycraft.db.transaction.query"
    (Sql.attributes sql "transaction.query")).run do
      let c ← h.connection
      executeOn c sql values

end Handle

end SqlComposer
