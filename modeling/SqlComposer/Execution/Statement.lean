import SqlComposer.Effect.Retry
import SqlComposer.Execution.Engine
import SqlComposer.Sql.FromValues
import SqlComposer.Sql.Statement

/-!
# Statements on the pool

A statement is bound and executed on a connection of the pool. A statement that only reads runs
on a connection of its own and is tried again, on another connection, when the database breaks
off. Any other statement runs in a transaction of its own, which the engine is left to commit or to
roll back; it is never tried again.
-/

set_option autoImplicit false

namespace SqlComposer

/-- What a statement yields. -/
structure QueryResult where
  rows : List (List (String × Value))
  /-- The number given to the first new row, or zero. -/
  insertId : Int
  affected : Int

/-- What a reply yields. A statement with rows changes none. -/
def Reply.result (r : Reply) : QueryResult :=
  match r.rows with
  | some rows => ⟨rows, r.insertId.getD 0, 0⟩
  | none => ⟨[], r.insertId.getD 0, max r.affected 0⟩

/-- Binds a statement and executes it on a connection. -/
def executeOn (c : Connection) (sql : String) (values : Value) : Action QueryResult := do
  let bound ← Action.raising (Sql.bindValues sql values)
  return (← Action.execute c bound).result

/-- Seconds in the form of a log entry. -/
def secondsText (seconds : Float) : Value := .text (Number.fixedText 6 seconds)

/-- The entry for a statement that failed. -/
def failedEntry (operation : String) (seconds : Float) (f : Failure) : Log.Entry :=
  executionEntry .error "SQL statement failed"
    [("db.operation", .text operation), ("duration.seconds", secondsText seconds),
      ("error", .text f.name)] (some f)

/-- The entry for a statement that succeeded, with a count that depends on what it does. -/
def executedEntry (operation countName : String) (count : Int) (seconds : Float) : Log.Entry :=
  executionEntry .info ("SQL " ++ operation ++ " executed")
    [("db.operation", .text operation), (countName, .int count),
      ("duration.seconds", secondsText seconds)] none

/-- Logs how an execution went and how long it took. -/
def logged (operation countName : String) (count : QueryResult → Int)
    (execution : Action QueryResult) : Action QueryResult := do
  let start ← Action.ask .now
  let result ← Action.handling execution fun f => do
    let seconds := (← Action.ask .now) - start
    Action.log (failedEntry operation seconds f)
    Action.fail f
  let seconds := (← Action.ask .now) - start
  Action.log (executedEntry operation countName (count result) seconds)
  return result

namespace Pool

/-- Executes a statement on a connection of its own. -/
def executeAlone (s : DatabaseSettings) (sql : String) (values : Value) :
    Action QueryResult := do
  let c ← connect s
  Action.ending (executeOn c sql values) (Action.close c)

/-- One attempt to read. -/
def readOnce (s : DatabaseSettings) (sql : String) (values : Value) : Action QueryResult :=
  logged "read" "row_count" (fun r => r.rows.length) (executeAlone s sql values)

/-- Reading is tried again when the database broke off: twice at most, after 0.2 seconds and
then after twice as long. -/
def readPolicy : RetryPolicy Float :=
  { maxRetries := 2
    initialDelay := 0.2
    maxDelay := 60.0
    base := 2.0
    retries := retriesOn (some [.kind .operational]) fun _ => true }

/-- Executes a statement that only reads. -/
def read (s : DatabaseSettings) (sql : String) (values : Value) : Action QueryResult :=
  Action.retrying id "_read" readPolicy (readOnce s sql values)

end Pool

namespace Engine

/-- Executes a statement in a transaction of its own. -/
def executeCommitted (e : Engine) (sql : String) (values : Value) : Action QueryResult :=
  e.transacting fun c => executeOn c sql values

/-- Executes a statement that may write. -/
def write (e : Engine) (sql : String) (values : Value) : Action QueryResult :=
  logged "write" "affected_rows" (·.affected) (e.executeCommitted sql values)

/-- Executes a statement in a span. -/
def query (e : Engine) (sql : String) (values : Value) : Action QueryResult :=
  (Tracing.ofOperation executionLogger "querycraft.db.query" (Sql.attributes sql "query")).run
    (if Sql.isRead sql then Pool.read e.settings sql values else e.write sql values)

/-- Whether the first row says that the test went well. -/
def testPassed (r : QueryResult) : Bool :=
  match r.rows with
  | row :: _ => (lookup? "test" row).any (·.equalsInt 1)
  | [] => false

/-- Tries whether the database answers. -/
def test (e : Engine) : Action Bool :=
  Action.handling (do return testPassed (← e.query "SELECT 1 AS test" (.list []))) fun f => do
    Action.log (executionEntry .error "SQL connection test failed"
      [("db.host", .ofText? e.settings.host), ("error", .text f.name)] (some f))
    return false

end Engine

end SqlComposer
