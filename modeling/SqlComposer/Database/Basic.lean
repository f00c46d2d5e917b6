import SqlComposer.Execution.Transaction

/-!
# Databases

A database runs statements on its pool or within a transaction. Every statement is reported once
to the query log, however often it was tried: as completed, with the time it took, or as failed.
A fault of the database is wrapped in an error of the library, whose message says what could not
be done and only while developing also why.
-/

set_option autoImplicit false

namespace SqlComposer

/-- The logger of databases. -/
def databaseLogger : String := "querycraft.orm.database"

/-- A database. -/
structure Database where
  /-- What its statements run on. -/
  engine : Engine
  /-- Whether faults are shown; nothing leaves it to the settings of the program. -/
  development : Option Bool

/-- Where a statement runs. -/
inductive Executor where
  | pool
  | transaction (h : Handle)

/-- What could not be done, in the words of the errors. -/
inductive Attempted where
  | fetch
  | insert
  | update
  | delete
  | batchInsert
  | createTable
  | rawQuery
  deriving DecidableEq, Repr

/-- What an error begins with. -/
def Attempted.text : Attempted → String
  | .fetch => "Failed to fetch data"
  | .insert => "Failed to insert data"
  | .update => "Failed to update data"
  | .delete => "Failed to delete data"
  | .batchInsert => "Failed to batch insert data"
  | .createTable => "Failed to create table"
  | .rawQuery => "Failed to execute raw query"

namespace Database

/-- How the pool of the database is made. -/
def settings (db : Database) : DatabaseSettings := db.engine.settings

/-- Whether faults are shown in errors. -/
def isDevelopment (db : Database) : Action Bool :=
  match db.development with
  | some b => pure b
  | none => do return (← Action.settings).isDevelopment

/-- Executes a statement where it is to run. -/
def execute (db : Database) (e : Executor) (sql : String) (values : Value) :
    Action QueryResult :=
  match e with
  | .pool => db.engine.query sql values
  | .transaction h => h.query sql values

/-- The fault that a failure amounts to. A refused record is an unacceptable value. -/
def causeOf : Failure → Fault
  | .fault f => f
  | f => ⟨.value, f.text⟩

/-- Wraps a failure of a statement, which is reported first. An error of the library goes on as
it is. -/
def mapFailure {α : Type} (db : Database) (what : Attempted) (sql : String) (values : Value)
    (f : Failure) : Action α :=
  match f with
  | .error e => Action.fail (.error e)
  | f => do
    Action.reportError sql f values
    let revealing ← db.isDevelopment
    Action.raise (.error (.execution what.text (causeOf f) (some sql) revealing .empty))

/-- Executes a statement and reports it. -/
def run (db : Database) (e : Executor) (what : Attempted) (sql : String) (values : Value) :
    Action QueryResult := do
  let start ← Action.ask .now
  let result ← Action.handling (db.execute e sql values) (db.mapFailure what sql values)
  let stop ← Action.ask .now
  Action.reportQuery sql values ((stop - start) * 1000.0)
  return result

/-- Runs an operation on a table in a span. -/
def traced {α : Type} (operation target : String) (a : Action α) : Action α :=
  (Tracing.ofOperation databaseLogger ("querycraft.db." ++ operation)
    [("db.system", .text "mysql"), ("db.operation", .text operation),
      ("db.table", .text target)]).run a

/-- Closes the pool. -/
def close : Action Unit := Pool.dispose

end Database

end SqlComposer
