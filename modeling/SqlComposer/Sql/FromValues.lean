import SqlComposer.Sql.Binding
import SqlComposer.Sql.Change
import SqlComposer.Sql.Literal
import SqlComposer.Value.Sequence

/-!
# Statements from values

The builders of statements take rows as dictionaries and values as lists. A caller may hand over
values of any kind instead: what can be read as such is, what is empty counts as nothing given,
and anything else is a fault of the place where it is first used. Faults and rejections come in
the order in which the parts of a statement are looked at.
-/

set_option autoImplicit false

namespace SqlComposer.Sql

/-- A step that can be rejected as one that can fail. -/
def rejecting {α : Type} (r : Except Rejection α) : Except Failure α := r.mapError (·.failure)

/-- A step that can be at fault as one that can fail. -/
def faulting {α : Type} (r : Except Fault α) : Except Failure α := r.mapError .fault

/-- The entries of a value under its keys. -/
def keyed (v : Value) : Except Failure (List (String × Value)) :=
  match v.entries? with
  | some es => .ok es
  | none => .error (.fault ⟨.attribute, ""⟩)

/-- A value as a text to be searched. -/
def searchable : Value → Except Failure String
  | .text s => .ok s
  | _ => .error (.fault ⟨.type, ""⟩)

/-- Inserts one row. -/
def insertOf (table : String) (data : Value) : Except Failure Statement :=
  if data.truthy then do rejecting (insert table (← keyed data)) else rejecting (insert table [])

/-- Inserts many rows at once. -/
def batchInsertOf (table : String) (rows : Value) : Except Failure Statement :=
  if rows.truthy then do
    let _ ← keyed (← faulting (rows.item 0))
    let all ← faulting rows.elements
    let readable := (all.map Value.entries?).takeWhile (·.isSome)
    let s ← rejecting (batchInsert table (readable.filterMap id))
    if readable.length < all.length then .error (.fault ⟨.attribute, ""⟩) else return s
  else rejecting (batchInsert table [])

/-- Updates the rows that satisfy all fragments. -/
def updateOf (table : String) (data fragments values : Value) : Except Failure Statement :=
  if !data.truthy then rejecting (update table [] [] [])
  else if !fragments.truthy then .error (Rejection.noCondition "UPDATE").failure
  else do
    let conditions ← (← faulting fragments.elements).mapM fun v => do
      rejecting (checkFragment .whereClause (← searchable v))
    let es ← keyed data
    rejecting (update table es conditions (← faulting values.elements))

/-- Deletes the rows that have all the given values. -/
def deleteOf (table : String) (key : Value) : Except Failure Statement :=
  if key.truthy then do rejecting (delete table (← keyed key)) else rejecting (delete table [])

/-- Binds a statement. A dictionary has no values by position, so it is refused by the first
placeholder. -/
def bindValues (sql : String) (values : Value) : Except Failure BoundStatement := do
  let n ← faulting values.size
  match values.positions? with
  | some vs => rejecting (bindPositional sql vs)
  | none =>
    if 0 < n && 0 < countPlaceholders sql then .error (.fault (.ofKey (.int 0)))
    else rejecting (bindPositional sql (List.replicate n .null))

/-- A dictionary as a call of `JSON_OBJECT`. -/
def jsonObjectOf (v : Value) : Except Failure String := do jsonObject (← keyed v)

/-- Whatever a value yields as a call of `JSON_ARRAY`. -/
def jsonArrayOf (v : Value) : Except Failure String := do jsonArray (← faulting v.elements)

end SqlComposer.Sql
