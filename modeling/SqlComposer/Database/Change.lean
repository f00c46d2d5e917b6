import SqlComposer.Database.Basic
import SqlComposer.Table.Compile

/-!
# Changing rows and tables

Every change is composed into one statement before the database is reached, so a change that is
rejected leaves it alone. A table can take two statements: the old one is dropped first if asked
for. A statement that a caller writes is executed as it stands.
-/

set_option autoImplicit false

namespace SqlComposer

/-- What inserting many rows yields. -/
structure BatchResult where
  firstId : Int
  affected : Int
  /-- The numbers of the new rows, if they were given out one after another. -/
  ids : List Int

/-- So many numbers from a number on. -/
def numbersFrom (first : Int) (count : Nat) : List Int :=
  (List.range count).map fun i : Nat => first + i

/-- The numbers of new rows: none if the first is not known. -/
def BatchResult.ofResult (r : QueryResult) : BatchResult :=
  ⟨r.insertId, r.affected,
    if r.insertId == 0 then [] else numbersFrom r.insertId r.affected.toNat⟩

/-- Nothing was inserted. -/
def BatchResult.empty : BatchResult := ⟨0, 0, []⟩

/-- Where a statement runs: within a transaction if one is given. -/
def Executor.ofOption : Option Handle → Executor
  | some h => .transaction h
  | none => .pool

namespace Database

/-- Inserts a row; yields the number it was given. -/
def insertData (db : Database) (table : String) (data : Value) (h : Option Handle) :
    Action Int :=
  traced "insert_data" table do
    let s ← Action.raising (Sql.insertOf table data)
    return (← db.run (.ofOption h) .insert s.sql (.list s.values)).insertId

/-- The conditions of a change: one, or all that a value yields. -/
def conditionsOf : Value → Except Failure Value
  | .text s => .ok (.list [.text s])
  | v => do return .list (← Sql.faulting v.elements)

/-- Updates the rows that match all the conditions; yields how many there were. -/
def updateData (db : Database) (table : String) (data conditions values : Value)
    (h : Option Handle) : Action Int :=
  traced "update_data" table do
    let conditions ← Action.raising (conditionsOf conditions)
    let s ← Action.raising (Sql.updateOf table data conditions values)
    return (← db.run (.ofOption h) .update s.sql (.list s.values)).affected

/-- Deletes the rows whose columns have the given values; yields how many there were. -/
def deleteData (db : Database) (table : String) (key : Value) (h : Option Handle) : Action Int :=
  traced "delete_data" table do
    let entries ← Action.ofFault key.asDict
    let s ← Action.raising (Sql.deleteOf table (.dict entries))
    return (← db.run (.ofOption h) .delete s.sql (.list s.values)).affected

/-- The entry for rows that were inserted together. -/
def batchEntry (table : String) (count : Nat) (affected : Int) : Log.Entry :=
  ⟨.info, databaseLogger, "Batch insert completed",
    [("db.table", .text table), ("row_count", .int count), ("affected_rows", .int affected)],
    none⟩

/-- Inserts several rows by one statement. Without rows the database is left alone. -/
def batchInsert (db : Database) (table : String) (rows : Value) (h : Option Handle) :
    Action BatchResult :=
  traced "batch_insert" table do
    if !rows.truthy then return .empty
    let s ← Action.raising (Sql.batchInsertOf table rows)
    let result ← db.run (.ofOption h) .batchInsert s.sql (.list s.values)
    Action.log (batchEntry table rows.items.length result.affected)
    return .ofResult result

/-- Executes statements one after another, none of which takes values. -/
def runAll (db : Database) : List String → Action Unit
  | [] => pure ()
  | sql :: rest => do
    let _ ← db.run .pool .createTable sql (.list [])
    runAll db rest

/-- Creates a table. -/
def createTable (db : Database) (t : TableDefinition) : Action Unit :=
  traced "create_table" t.table do
    Action.logAll t.entries
    let statements ← Action.raising (t.compile.mapError (·.failure))
    db.runAll statements
    Action.log ⟨.info, databaseLogger, "Table created",
      [("db.table", .text t.table), ("db.operation", .text "CREATE_TABLE")], none⟩

/-- Executes a statement as it stands; yields its rows. -/
def rawQuery (db : Database) (sql : String) (values : Value) (h : Option Handle) :
    Action (List (List (String × Value))) :=
  (Tracing.ofOperation databaseLogger "querycraft.db.raw_query"
    (Sql.attributes sql "raw_query")).run do
      return (← db.run (.ofOption h) .rawQuery sql values).rows

end Database

end SqlComposer
