import SqlComposer.Database.Basic
import SqlComposer.Query.Compile
import SqlComposer.Value.Whole

/-!
# Fetching rows

A page of rows comes with the number of all rows that the query matches, which a statement of
its own counts. The two statements are composed from the same query and run side by side; each
binds the caller's values that its own text has placeholders for.
-/

set_option autoImplicit false

namespace SqlComposer

/-- A page of rows. -/
structure DataPage where
  rows : List (List (String × Value))
  /-- The number of all rows; minus one if they were not counted. -/
  count : Int

/-- The count in the first row of a counting statement; zero if there is none. -/
def countOf (r : QueryResult) : Except Fault Int :=
  match r.rows with
  | [] => .ok 0
  | row :: _ =>
    match lookup? "count" row with
    | some v => if v.truthy then v.toWhole else .ok 0
    | none => .ok 0

namespace Database

/-- The tables of a query as a span shows them. -/
def tableNames (q : Query) : String := ", ".intercalate q.tables

/-- Composes a query. -/
def composed (q : Query) (mode : Mode) : Action CompiledQuery := do
  let c ← Action.raising ((q.compile mode).mapError (·.failure))
  Action.log (c.entry mode)
  return c

/-- The values that a composed query takes. -/
def bound (c : CompiledQuery) (values : Value) : Action Value := do
  return .list (← Action.raising (c.bindValues values))

/-- Fetches a page without counting. -/
def fetchUncounted (db : Database) (q : Query) (values : Value) : Action DataPage := do
  let rowQuery ← composed q .row
  let rowValues ← bound rowQuery values
  let result ← db.run .pool .fetch rowQuery.sql rowValues
  return ⟨result.rows, -1⟩

/-- Fetches a page and counts, in the order that a schedule gives. -/
def fetchCounted (db : Database) (schedule : List Bool) (q : Query) (values : Value) :
    Action DataPage := do
  let rowQuery ← composed q .row
  let countQuery ← composed q .count
  let rowValues ← bound rowQuery values
  let countValues ← bound countQuery values
  let (rows, counted) ← Action.both schedule
    (db.run .pool .fetch rowQuery.sql rowValues)
    (db.run .pool .fetch countQuery.sql countValues)
  let count ← Action.ofFault (countOf counted)
  return ⟨rows.rows, count⟩

/-- Fetches a page of rows. -/
def getData (db : Database) (schedule : List Bool) (q : Query) (values : Value)
    (skipCount : Bool) : Action DataPage :=
  traced "get_data" (tableNames q)
    (if skipCount then db.fetchUncounted q values else db.fetchCounted schedule q values)

/-- Fetches the first row that matches, whatever limit the query has. -/
def getFirst (db : Database) (q : Query) (values : Value) :
    Action (Option (List (String × Value))) :=
  traced "get_first" (tableNames q) do
    let c ← composed { q with limit := some (.whole 1) } .row
    let rowValues ← bound c values
    let result ← db.run .pool .fetch c.sql rowValues
    return result.rows.head?

end Database

end SqlComposer
