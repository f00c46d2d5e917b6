import SqlComposer.Query.OfRecord
import SqlComposer.Sql.FromValues
import SqlComposer.Value.Whole

/-!
# Drafts

A record that was copied around validation is a draft: its fields may hold anything. A draft of a
query is composed clause by clause like a query. What cannot be used is a fault when its turn
comes, after all that is wrong with earlier clauses, and what is never looked at does no harm.
-/

set_option autoImplicit false

namespace SqlComposer

open SqlComposer.Sql SqlComposer.Number

/-- The state in which the text of a draft is composed. -/
abbrev Drafting := StateT BindPlan (Except Failure)

namespace Draft

/-- The fault of a value that lacks what is asked of it. -/
def lacking {α : Type} : Except Failure α := .error (.fault ⟨.attribute, ""⟩)

/-- The fault of a value of a type that cannot be used. -/
def unusable {α : Type} : Except Failure α := .error (.fault ⟨.type, ""⟩)

/-- A step in the composition of a query as one in that of a draft. -/
def composing {α : Type} (act : Compose α) : Drafting α := fun plan => rejecting (act plan)

/-- Runs a composition for its checks and its caller values only: its slots are given up. -/
def unemitted {α : Type} (act : Drafting α) : Drafting α := fun plan => do
  let (a, after) ← act plan
  return (a, after.keepSlots plan.slots.length)

/-- What is written for each element of a value that is read as a part of a statement. -/
def parts {α : Type} (v : Value) (read? : Value → Option α)
    (write : α → Except Rejection String) : Except Failure (List String) := do
  (← faulting v.elements).mapM fun x => match read? x with
    | some a => rejecting (write a)
    | none => lacking

/-- A name as SQL text. -/
def nameText (v : Value) : Except Failure String := do
  return quoteName (← faulting v.keyName)

/-- A text as the only one of its kind, or the elements of another value. -/
def oneOrMore : Value → Except Failure (List Value)
  | .text s => .ok [.text s]
  | v => faulting v.elements

/-- One or more names as SQL text. -/
def nameTexts (v : Value) : Except Failure String := do
  return ", ".intercalate (← (← oneOrMore v).mapM nameText)

/-- The character that a value is, if it is a text of one character. -/
def loneChar? : Value → Option Char
  | .text s => match s.toList with
    | [c] => some c
    | _ => none
  | _ => none

/-- A column as it is written: a text like any column, and a sequence as it is if one of its
elements marks it as composed. -/
def columnOf : Value → Except Failure Value
  | .text s => .ok (.text (column s))
  | .bytes _ => unusable
  | v => match v.elements? with
    | some xs => if xs.any fun x => (loneChar? x).any isExpressionMark then .ok v else lacking
    | none => unusable

/-- The number of placeholders in what is written for a column. The elements of a sequence stand
for the characters of a text. -/
def placeholdersOf : Value → Except Failure Nat
  | .text s => .ok (countPlaceholders s)
  | .dict _ => .error (.fault (.ofKey (.int 0)))
  | v => do
    let xs ← faulting v.elements
    return countFrom .outside (xs.map fun x => (loneChar? x).getD ' ')

/-- Emits an output column that is neither an expression nor a query. -/
def columnText (v : Value) : Drafting String := do
  let col ← columnOf v
  let n ← placeholdersOf col
  modify (·.addCallers n)
  faulting col.displayed

/-- The output columns as SQL text. -/
def fieldTexts : List (String × Value) → Drafting (List String)
  | [] => pure []
  | (label, v) :: rest => do
    let text ← (match columnSpec? v with
      | some spec => composing (Query.fieldTexts [(label, spec)])
      | none => do return [(← columnText v) ++ " AS " ++ quoteName label])
    return text ++ (← fieldTexts rest)

/-- The aliases of output columns that are texts. -/
def plainColumns (specs : List (String × Value)) : Aliases :=
  specs.filterMap fun e => e.2.text?.map fun text => (e.1, text)

/-- The conditions on columns with lists of values. What is empty is no condition. -/
def listTexts (aliases : Aliases) (operator : String) :
    List (String × Value) → Drafting (List String)
  | [] => pure []
  | (key, v) :: rest =>
    if !v.truthy then listTexts aliases operator rest
    else do
      let col ← composing (Query.listColumn aliases key)
      let _ ← faulting v.size
      let text ← composing (Query.listCondition col operator (← faulting v.elements))
      return text :: (← listTexts aliases operator rest)

/-- The `WHERE` clause, if there is any condition. -/
def whereClause (aliases : Aliases) (fields : List (String × Value)) : Drafting (List String) := do
  let fragments ← faulting (fieldOf fields "where").elements
  let conditions ← fragments.mapM fun v => do
    composing (Query.conditionText aliases (← searchable v))
  let included ← listTexts aliases "IN" (← keyed (fieldOf fields "where_in"))
  let excluded ← listTexts aliases "NOT IN" (← keyed (fieldOf fields "where_not_in"))
  return Query.conjunction (conditions ++ (included ++ excluded))

/-- The values that rows are grouped by. -/
def grouped : Value → Except Failure (List Value)
  | .null => .ok []
  | v => oneOrMore v

/-- The clauses on groups. -/
def groupClauses (fields : List (String × Value)) : Drafting (List String) := do
  let fragments ← faulting (fieldOf fields "having").elements
  let having ← fragments.mapM fun v => do
    rejecting (checkFragment .havingClause (← searchable v))
  let columns ← (← grouped (fieldOf fields "group_by")).mapM fun v => columnOf v
  composing (Query.grouping (← columns.mapM fun v => searchable v) having)

/-- The clauses from `FROM` to `HAVING`. -/
def body (aliases : Aliases) (fields : List (String × Value)) : Drafting (List String) := do
  let tables ← nameTexts (fieldOf fields "table")
  let joins ← parts (fieldOf fields "joins") Join.ofRecord? Query.joinClause
  let joins ← composing (joins.mapM Compose.text)
  let conditions ← whereClause aliases fields
  let groups ← groupClauses fields
  return ("FROM " ++ tables) :: (joins ++ (conditions ++ groups))

/-- The direction shared by the entries of an order. -/
def sharedDirection (v : Value) : Except Failure (Option SortDirection) :=
  match optionalChoice? SortDirection.all (·.keyword) v with
  | some direction => .ok direction
  | none => do
    .error (.fault ⟨.value, (← faulting v.inspected) ++ " is not a valid SortDirection"⟩)

/-- The `ORDER BY` clause. The identifying column is only looked at if there is no order. -/
def orderClause (aliases : Aliases) (fields : List (String × Value)) : Except Failure String := do
  let order := fieldOf fields "order_by"
  if !order.truthy then
    return Query.ordering [Query.usualTerm (← faulting (fieldOf fields "id_field").keyName)]
  else do
    let shared ← sharedDirection (fieldOf fields "order_direction")
    let terms ← (← faulting (orderEntries order)).mapM fun v =>
      match OrderEntry.ofRecord? v with
      | some entry => .ok (Query.orderTerm aliases shared entry)
      | none => unusable
    return Query.ordering terms

/-- The whole part of the magnitude of a decimal, unless it has too many digits to be written. -/
def wholeMagnitude (d : Decimal) : Except Fault Nat :=
  match d.magnitude with
  | .notNumber _ true _ => .error ⟨.invalidNumber, ""⟩
  | .notNumber .. => .error ⟨.value, "cannot convert NaN to integer"⟩
  | .infinite _ => .error ⟨.overflow, "cannot convert Infinity to integer"⟩
  | .finite _ 0 _ => .ok 0
  | .finite _ k e =>
    let size := e + (digits k).length
    if Decimal.mostPlaces < size then .error ⟨.decimalOverflow, ""⟩
    else if (mostDigits : Int) < size then .error tooManyDigits
    else if 0 ≤ e then .ok (k * tenTo e.toNat)
    else if size ≤ 0 then .ok 0
    else .ok (k / tenTo (-e).toNat)

/-- A bound with its keyword, if it is set. -/
def boundClause (keyword : String) (v : Value) : Except Failure (List String) :=
  match v, rowBound? v with
  | .decimal d, _ => do return [keyword ++ " " ++ toString (← faulting (wholeMagnitude d))]
  | _, some bound => rejecting (Query.boundClause keyword bound)
  | _, none => unusable

/-- The order and the limits. -/
def tail (aliases : Aliases) (fields : List (String × Value)) : Drafting (List String) := do
  let order ← composing (Compose.text (← orderClause aliases fields))
  let limit ← boundClause "LIMIT" (fieldOf fields "limit")
  let offset ← boundClause "OFFSET" (fieldOf fields "offset")
  return order :: (limit ++ offset)

/-- The branches of a union as SQL text. -/
def branches (fields : List (String × Value)) : Drafting (List String) := do
  let all ← faulting (fieldOf fields "union").elements
  all.mapM fun v => match Query.ofRecord? v with
    | some q => do return "UNION " ++ (← composing (Query.rowText q))
    | none => lacking

/-- The text of a draft in either mode. -/
def text (fields : List (String × Value)) (mode : Mode) : Drafting String := do
  let distinct := (fieldOf fields "distinct").truthy
  let specs ← keyed (fieldOf fields "fields")
  let aliases := plainColumns specs
  match mode with
  | .row => do
    let columns ← fieldTexts specs
    let body ← body aliases fields
    let tail ← tail aliases fields
    let branches ← branches fields
    return " ".intercalate (Query.rowHead distinct columns :: (body ++ (tail ++ branches)))
  | .count => do
    let _ ← unemitted (fieldTexts specs)
    let idField ← faulting (fieldOf fields "id_field").keyName
    let body ← body aliases fields
    let _ ← unemitted (tail aliases fields)
    let _ ← unemitted (branches fields)
    return " ".intercalate (Query.countHead distinct idField :: (body ++ ["LIMIT 1"]))

end Draft

/-- Composes what a record describes as a query. -/
def composeQuery (record : Value) (mode : Mode) : Except Failure CompiledQuery :=
  match Query.ofRecord? record, record with
  | some q, _ => rejecting (q.compile mode)
  | none, .record .queryConfig fields _ => do
    let (sql, plan) ← (Draft.text fields mode).run .empty
    return ⟨sql, plan.slots, plan.callers⟩
  | none, _ => Draft.lacking

/-- The aliases of what a record describes as a query. -/
def aliasesOf : Value → Except Failure Aliases
  | .record .queryConfig fields _ => do
    return Draft.plainColumns (← keyed (fieldOf fields "fields"))
  | _ => Draft.lacking

/-- Binds what a record describes as a composed query. -/
def bindRecord (record values : Value) : Except Failure (List Value) :=
  match record with
  | .record .compiledQuery fields _ => do
    let values ← faulting values.elements
    let callers := fieldOf fields "caller_placeholders"
    if callers.signals then .error (.fault ⟨.invalidNumber, ""⟩)
    else if callers.equalsInt values.length then
      (← faulting (fieldOf fields "slots").elements).mapM fun v =>
        match Slot.ofRecord? v with
        | some slot => CompiledQuery.slotValue values slot
        | none => Draft.lacking
    else
      .error (mismatch (callerMismatch (← faulting callers.displayed) values.length)
        (← faulting ((fieldOf fields "sql").firstElements excerptLength)))
  | _ => Draft.lacking

end SqlComposer
