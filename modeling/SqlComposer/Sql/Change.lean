import SqlComposer.Sql.Identifier
import SqlComposer.Sql.Rejection

/-!
# Statements that change rows

`INSERT`, `UPDATE` and `DELETE` for one table. Values travel beside the statement and are bound
to its placeholders in order; only names are written into it, quoted. A statement that would
change every row of a table is never built.
-/

set_option autoImplicit false

namespace SqlComposer.Sql

/-- A statement with the values of its placeholders. -/
structure Statement where
  sql : String
  values : List Value

/-- `n` placeholders with commas between them. -/
def placeholders (n : Nat) : String := ", ".intercalate (List.replicate n "?")

/-- The placeholders of one row. -/
def rowPlaceholders (width : Nat) : String := "(" ++ placeholders width ++ ")"

/-- The beginning of an `INSERT`, up to its rows. -/
def insertHead (table : String) (keys : List String) : String :=
  "INSERT INTO " ++ quoteName table ++ " (" ++ nameList keys ++ ") VALUES "

/-- Inserts one row. -/
def insert (table : String) (data : List (String × Value)) : Except Rejection Statement :=
  if data.isEmpty then .error (.noData "INSERT")
  else .ok ⟨insertHead table (data.map (·.1)) ++ rowPlaceholders data.length, data.map (·.2)⟩

/-- Whether two lists of keys hold the same keys. -/
def sameKeys (as bs : List String) : Bool :=
  as.all bs.contains && bs.all as.contains

/-- Keys in the order of their characters. -/
def sortedKeys (keys : List String) : List String := keys.mergeSort fun a b => !decide (b < a)

/-- The values of rows in the order of the first row's columns, row after row. -/
def rowValues (keys : List String) (index : Nat) :
    List (List (String × Value)) → Except Rejection (List Value)
  | [] => .ok []
  | row :: rows =>
    if sameKeys (row.map (·.1)) keys then do
      let rest ← rowValues keys (index + 1) rows
      return keys.map (fun k => (lookup? k row).getD .null) ++ rest
    else .error (.otherColumns index (sortedKeys keys) (sortedKeys (row.map (·.1))))

/-- Inserts many rows at once. The first row says which columns are written and in which order;
every row has to give exactly these. -/
def batchInsert (table : String) : List (List (String × Value)) → Except Rejection Statement
  | [] => .error .noRows
  | first :: rest =>
    let keys := first.map (·.1)
    if keys.isEmpty then .error .noColumns
    else do
      let values ← rowValues keys 0 (first :: rest)
      let rows := (first :: rest).map fun _ => rowPlaceholders keys.length
      return ⟨insertHead table keys ++ ", ".intercalate rows, values⟩

/-- Updates the rows that satisfy all fragments. The values of the columns come first, then
those of the fragments. -/
def update (table : String) (data : List (String × Value)) (fragments : List String)
    (values : List Value) : Except Rejection Statement :=
  if data.isEmpty then .error (.noData "UPDATE")
  else if fragments.isEmpty then .error (.noCondition "UPDATE")
  else do
    let conditions ← fragments.mapM (checkFragment .whereClause)
    let assignments := ", ".intercalate (data.map fun e => quoteName e.1 ++ " = ?")
    return ⟨"UPDATE " ++ quoteName table ++ " SET " ++ assignments ++ " WHERE "
      ++ " AND ".intercalate conditions, data.map (·.2) ++ values⟩

/-- Deletes the rows that have all the given values. -/
def delete (table : String) (key : List (String × Value)) : Except Rejection Statement :=
  if key.isEmpty then .error (.noCondition "DELETE")
  else .ok ⟨"DELETE FROM " ++ quoteName table ++ " WHERE "
    ++ " AND ".intercalate (key.map fun e => quoteName e.1 ++ " = ?"), key.map (·.2)⟩

end SqlComposer.Sql
