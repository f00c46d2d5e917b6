import SqlComposer.Query.Alias
import SqlComposer.Query.BindPlan
import SqlComposer.Sql.Change
import SqlComposer.Value.Sequence

/-!
# Composing a query

A query becomes a `SELECT` statement whose clauses stand in a fixed order. It can be composed in
two modes. The row mode has the output columns, the order, the limits and the union. The count
mode counts the rows instead: it emits neither output columns nor order nor union, but it still
looks at all of them, so that a query is rejected in one mode exactly if it is in the other, and
both modes take the same values from the caller.

The statement is composed of a head (`SELECT` and what is selected), a body (`FROM` to `HAVING`),
a tail (order and limits) and union branches. Only head and branches contain other queries.
-/

set_option autoImplicit false

namespace SqlComposer

open SqlComposer.Sql SqlComposer.Number

/-- What a query is composed for. -/
inductive Mode where
  /-- The rows. -/
  | row
  /-- The number of rows. -/
  | count
  deriving DecidableEq, Repr

/-- The name of a mode. -/
def Mode.name : Mode → String
  | .row => "row"
  | .count => "count"

/-- The mode with a name. -/
def Mode.ofName? : String → Option Mode
  | "row" => some .row
  | "count" => some .count
  | _ => none

/-- A row bound as it is written: the whole part of its magnitude. -/
def RowBound.magnitude : RowBound → Except Rejection Nat
  | .whole n => if fewDigits n then .ok n.natAbs else .error .unwritable
  | .real x => if Number.isFinite x then .ok (floorAbs x) else .error (.endlessBound x.isNaN)

namespace Query

/-- The tables of a query. -/
def fromClause (q : Query) : String := "FROM " ++ nameList q.tables

/-- A join as SQL text. -/
def joinClause (j : Join) : Except Rejection String := do
  let on ← checkFragment .joinOn j.on
  return j.kind.keyword ++ " JOIN " ++ quoteName j.table ++ " ON " ++ on

/-- A condition that is a fragment of the query, its alias resolved. -/
def conditionText (aliases : Aliases) (fragment : String) : Compose String := do
  Compose.text (← Compose.checked .whereClause (aliases.resolveCondition fragment))

/-- The column of a condition on a list of values. -/
def listColumn (aliases : Aliases) (key : String) : Compose String := do
  Compose.text (column (← Compose.checked .whereClause (aliases.resolve key)))

/-- A condition on a column with a list of values. -/
def listCondition (col operator : String) (values : List Value) : Compose String := do
  Compose.values values
  return col ++ " " ++ operator ++ " (" ++ placeholders values.length ++ ")"

/-- The conditions on columns with lists of values. An empty list is no condition. -/
def listTexts (aliases : Aliases) (operator : String) :
    List (String × List Value) → Compose (List String)
  | [] => pure []
  | (key, values) :: rest =>
    if values.isEmpty then listTexts aliases operator rest
    else do
      let text ← listCondition (← listColumn aliases key) operator values
      return text :: (← listTexts aliases operator rest)

/-- The clause of conditions that all have to hold, if there are any. -/
def conjunction (conditions : List String) : List String :=
  if conditions.isEmpty then [] else ["WHERE " ++ " AND ".intercalate conditions]

/-- The `WHERE` clause, if there is any condition. -/
def whereClause (q : Query) : Compose (List String) := do
  let conditions ← q.conditions.mapM (conditionText q.aliases)
  let included ← listTexts q.aliases "IN" q.whereIn
  let excluded ← listTexts q.aliases "NOT IN" q.whereNotIn
  return conjunction (conditions ++ (included ++ excluded))

/-- The clauses on groups, if anything is grouped. -/
def grouping (columns having : List String) : Compose (List String) :=
  if columns.isEmpty then pure []
  else do
    let group ← Compose.text ("GROUP BY " ++ ", ".intercalate columns)
    if having.isEmpty then return [group]
    else return [group, ← Compose.text ("HAVING " ++ " AND ".intercalate having)]

/-- The clauses on groups. Conditions on groups are checked even if nothing is grouped. -/
def groupClauses (q : Query) : Compose (List String) := do
  let having ← q.having.mapM (Compose.checked .havingClause)
  grouping (q.groupBy.map column) having

/-- The clauses from `FROM` to `HAVING`. -/
def body (q : Query) : Compose (List String) := do
  let joins ← StateT.lift (q.joins.mapM joinClause)
  let joins ← joins.mapM Compose.text
  let conditions ← q.whereClause
  let groups ← q.groupClauses
  return q.fromClause :: (joins ++ (conditions ++ groups))

/-- The direction of an order entry: the query's own if it has one, else the one written after
the entry, else ascending. -/
def entryDirection (shared : Option SortDirection) (written : Option SortDirection) :
    SortDirection :=
  (shared.or written).getD .asc

/-- An order entry as SQL text. -/
def orderTerm (aliases : Aliases) (shared : Option SortDirection) : OrderEntry → String
  | .text text =>
    let (term, written) := aliases.resolveOrder text
    column term ++ " " ++ (entryDirection shared written).keyword
  | .item name direction =>
    column (aliases.resolve name) ++ " " ++ (direction.getD .asc).keyword

/-- The `ORDER BY` clause of some terms. -/
def ordering (terms : List String) : String := "ORDER BY " ++ ", ".intercalate terms

/-- The term by which rows are sorted if there are no order entries. -/
def usualTerm (idField : String) : String := quoteName idField ++ " ASC"

/-- The `ORDER BY` clause. Without entries, rows are sorted by their identifying column. -/
def orderClause (q : Query) : Except Rejection String :=
  if q.orderBy.isEmpty then .ok (ordering [usualTerm q.idField])
  else
    let clause (shared : Option SortDirection) : String :=
      ordering (q.orderBy.map (orderTerm q.aliases shared))
    match q.direction with
    | .absent => .ok (clause none)
    | .given d => .ok (clause (some d))
    | .unknown text => .error (.unknownDirection text)

/-- A bound with its keyword, if it is set. -/
def boundClause (keyword : String) : Option RowBound → Except Rejection (List String)
  | none => .ok []
  | some b => do return [keyword ++ " " ++ toString (← b.magnitude)]

/-- The order and the limits. -/
def tail (q : Query) : Compose (List String) := do
  let order ← StateT.lift q.orderClause
  let order ← Compose.text order
  let limit ← StateT.lift (boundClause "LIMIT" q.limit)
  let offset ← StateT.lift (boundClause "OFFSET" q.offset)
  return order :: (limit ++ offset)

/-- The beginning of a statement that yields the number of rows, distinct in their identifying
column if that is asked for. -/
def countHead (distinct : Bool) (idField : String) : String :=
  "SELECT COUNT(" ++ (if distinct then "DISTINCT " else "") ++ quoteName idField ++ ") AS count"

/-- The beginning of a statement that yields the given columns. -/
def rowHead (distinct : Bool) (columns : List String) : String :=
  (if distinct then "SELECT DISTINCT " else "SELECT ") ++ ", ".intercalate columns

mutual

/-- The text of a query in row mode. -/
def rowText : Query → Compose String
  | ⟨tables, idField, fields, joins, conditions, whereIn, whereNotIn, having, groupBy, orderBy,
      direction, limit, offset, distinct, union⟩ => do
    let q : Query := ⟨tables, idField, fields, joins, conditions, whereIn, whereNotIn, having,
      groupBy, orderBy, direction, limit, offset, distinct, union⟩
    let columns ← fieldTexts fields
    let body ← q.body
    let tail ← q.tail
    let branches ← branchTexts union
    return " ".intercalate (rowHead distinct columns :: (body ++ (tail ++ branches)))

/-- The output columns as SQL text. -/
def fieldTexts : List (String × FieldSpec Query) → Compose (List String)
  | [] => pure []
  | (label, .column text) :: rest => do
    let col ← Compose.text (column text)
    return (col ++ " AS " ++ quoteName label) :: (← fieldTexts rest)
  | (label, .raw text) :: rest => do
    let raw ← Compose.checked .rawField text
    let raw ← Compose.text raw
    return (raw ++ " AS " ++ quoteName label) :: (← fieldTexts rest)
  | (label, .subquery q) :: rest => do
    let sub ← rowText q
    return ("(" ++ sub ++ ") AS " ++ quoteName label) :: (← fieldTexts rest)

/-- The branches of a union as SQL text. -/
def branchTexts : List Query → Compose (List String)
  | [] => pure []
  | q :: rest => do
    let branch ← rowText q
    return ("UNION " ++ branch) :: (← branchTexts rest)

end

/-- The text of a query in count mode. Output columns, order and union are composed for their
checks and their caller values only. -/
def countText (q : Query) : Compose String := do
  let _ ← Compose.unemitted (fieldTexts q.fields)
  let body ← q.body
  let _ ← Compose.unemitted q.tail
  let _ ← Compose.unemitted (branchTexts q.union)
  return " ".intercalate (countHead q.distinct q.idField :: (body ++ ["LIMIT 1"]))

/-- The text of a query in either mode. -/
def text (q : Query) : Mode → Compose String
  | .row => rowText q
  | .count => q.countText

end Query

/-- A composed query: the statement, the source of each placeholder's value, and the number of
values it takes from its caller. -/
structure CompiledQuery where
  sql : String
  slots : List Slot
  callers : Int

namespace CompiledQuery

/-- The query's own values, in textual order. -/
def ownValues (c : CompiledQuery) : List Value :=
  c.slots.filterMap fun
    | .own v => some v
    | .caller _ => none

/-- The value of a slot, unless its index is out of range. -/
def slotValue (values : List Value) : Slot → Except Failure Value
  | .own v => .ok v
  | .caller index =>
    let i := if index < 0 then index + values.length else index
    match if i < 0 then none else values[i.toNat]? with
    | some v => .ok v
    | none => .error (.fault ⟨.index, ""⟩)

/-- One value per placeholder, in textual order. The caller has to give exactly the values the
query takes, also those for text that the statement does not emit. -/
def bind (c : CompiledQuery) (values : List Value) : Except Failure (List Value) :=
  if (values.length : Int) ≠ c.callers then
    .error (Rejection.callerValues c.sql c.callers values.length).failure
  else c.slots.mapM (slotValue values)

/-- Binds whatever a value yields. -/
def bindValues (c : CompiledQuery) (values : Value) : Except Failure (List Value) := do
  c.bind (← values.elements.mapError .fault)

/-- The entry that is logged for a composed query. -/
def entry (c : CompiledQuery) (mode : Mode) : Log.Entry :=
  { level := .debug
    logger := "querycraft.query_builder.compiler"
    message := "Compiled query"
    extra :=
      [("db.statement", .text c.sql), ("compile.mode", .text mode.name),
        ("compile.additional_values", .int c.ownValues.length),
        ("compile.caller_placeholders", .int c.callers)]
    failure := none }

end CompiledQuery

/-- Composes a query. -/
def Query.compile (q : Query) (mode : Mode) : Except Rejection CompiledQuery := do
  let (sql, plan) ← (q.text mode).run .empty
  return ⟨sql, plan.slots, plan.callers⟩

end SqlComposer
