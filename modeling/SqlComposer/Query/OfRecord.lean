import SqlComposer.Record.Schema
import SqlComposer.Query.Compile

/-!
# Queries from records

A validated record of a query is read as a query. A record that was copied around validation may
hold anything; it is read as a query as long as it holds what a query consists of.
-/

set_option autoImplicit false

namespace SqlComposer

/-- A field of a record, null if it is missing. -/
def fieldOf (fields : List (String × Value)) (name : String) : Value :=
  (lookup? name fields).getD .null

/-- A text or null. -/
def optionalText? : Value → Option (Option String)
  | .null => some none
  | v => v.text?.map some

/-- The texts that a value yields. -/
def texts? (v : Value) : Option (List String) := v.elements?.bind (·.mapM Value.text?)

/-- A text as the only one, or several texts. -/
def textOrTexts? : Value → Option (List String)
  | .text s => some [s]
  | v => texts? v

/-- One text, several, or none. -/
def optionalTexts? : Value → Option (List String)
  | .null => some []
  | v => textOrTexts? v

/-- The values that a column is compared with. -/
def comparedWith? (v : Value) : Option (List Value) :=
  if v.truthy then v.size?.bind fun _ => v.elements? else some []

/-- Columns with the values they are compared with. -/
def valueLists? (v : Value) : Option (List (String × List Value)) :=
  v.entries?.bind (·.mapM fun e => (comparedWith? e.2).map fun vs => (e.1, vs))

/-- The choice that a keyword stands for. -/
def keyworded {α : Type} (all : List α) (keyword : α → String) (text : String) : Option α :=
  all.find? fun a => keyword a == text

/-- A choice by its keyword. -/
def choice? {α : Type} (all : List α) (keyword : α → String) (v : Value) : Option α :=
  v.text?.bind (keyworded all keyword)

/-- A choice by its keyword, or none. -/
def optionalChoice? {α : Type} (all : List α) (keyword : α → String) (v : Value) :
    Option (Option α) :=
  if v.truthy then (choice? all keyword v).map some else some none

/-- A join. -/
def Join.ofRecord? : Value → Option Join
  | .record .joinClause fields _ => do
    return {
      kind := ← choice? JoinKind.all (·.keyword) (fieldOf fields "type")
      table := ← (fieldOf fields "table").text?
      on := ← (fieldOf fields "on").text? }
  | _ => none

/-- An entry of an order. -/
def OrderEntry.ofRecord? : Value → Option OrderEntry
  | .text s => some (.text s)
  | .record .orderByItem fields _ => do
    return .item (← (fieldOf fields "column").text?)
      (← optionalChoice? SortDirection.all (·.keyword) (fieldOf fields "direction"))
  | _ => none

/-- The values that are the entries of an order: none for what is empty, one for a text. -/
def orderEntries (v : Value) : Except Fault (List Value) :=
  if !v.truthy then .ok []
  else match v with
    | .text s => .ok [.text s]
    | v => v.elements

/-- The entries of an order. -/
def order? (v : Value) : Option (List OrderEntry) :=
  (orderEntries v).toOption.bind (·.mapM OrderEntry.ofRecord?)

/-- The direction shared by the entries of an order. -/
def sharedDirection? (v : Value) : Option SharedDirection :=
  if !v.truthy then some .absent
  else v.text?.map fun s => match keyworded SortDirection.all (·.keyword) s with
    | some d => .given d
    | none => .unknown s

/-- A row bound or none. -/
def rowBound? : Value → Option (Option RowBound)
  | .null => some none
  | .int n => some (some (.whole n))
  | .bool b => some (some (.whole (if b then 1 else 0)))
  | .float x => some (some (.real x))
  | _ => none

/-- A query with the given output columns and union branches and the other fields of a record. -/
def Query.assemble? (fields : List (String × Value)) (specs : List (String × FieldSpec Query))
    (branches : List Query) : Option Query := do
  return {
    tables := ← textOrTexts? (fieldOf fields "table")
    idField := ← (fieldOf fields "id_field").text?
    fields := specs
    joins := ← (fieldOf fields "joins").elements?.bind (·.mapM Join.ofRecord?)
    conditions := ← texts? (fieldOf fields "where")
    whereIn := ← valueLists? (fieldOf fields "where_in")
    whereNotIn := ← valueLists? (fieldOf fields "where_not_in")
    having := ← texts? (fieldOf fields "having")
    groupBy := ← optionalTexts? (fieldOf fields "group_by")
    orderBy := ← order? (fieldOf fields "order_by")
    direction := ← sharedDirection? (fieldOf fields "order_direction")
    limit := ← rowBound? (fieldOf fields "limit")
    offset := ← rowBound? (fieldOf fields "offset")
    distinct := (fieldOf fields "distinct").truthy
    union := branches }

mutual

/-- Reads a record as a query. -/
def Query.ofRecord? : Value → Option Query
  | .record .queryConfig fields _ => do
    Query.assemble? fields (← outputColumns? fields) (← unionBranches? fields)
  | _ => none

/-- The output columns among the fields of a record. -/
def outputColumns? : List (String × Value) → Option (List (String × FieldSpec Query))
  | [] => none
  | (name, v) :: rest => if name == "fields" then columnSpecs? v else outputColumns? rest

/-- The union branches among the fields of a record. -/
def unionBranches? : List (String × Value) → Option (List Query)
  | [] => none
  | (name, v) :: rest => if name == "union" then queries? v else unionBranches? rest

/-- Output columns by alias. -/
def columnSpecs? : Value → Option (List (String × FieldSpec Query))
  | .dict es => columnSpecEntries? es
  | _ => none

/-- The entries of a dictionary as output columns. -/
def columnSpecEntries? : List (String × Value) → Option (List (String × FieldSpec Query))
  | [] => some []
  | (label, v) :: rest => do
    let spec ← columnSpec? v
    return (label, spec) :: (← columnSpecEntries? rest)

/-- A value as an output column. -/
def columnSpec? : Value → Option (FieldSpec Query)
  | .text s => some (.column s)
  | .record .rawExpression fields _ => (fieldOf fields "raw").text?.map .raw
  | .record .queryConfig fields _ => do
    let q ← Query.assemble? fields (← outputColumns? fields) (← unionBranches? fields)
    return .subquery q
  | _ => none

/-- A value as queries. -/
def queries? : Value → Option (List Query)
  | .list xs => queryItems? xs
  | .tuple xs => queryItems? xs
  | _ => none

/-- The items of a list as queries. -/
def queryItems? : List Value → Option (List Query)
  | [] => some []
  | v :: vs => do
    let q ← Query.ofRecord? v
    return q :: (← queryItems? vs)

end

/-- Reads a slot of a composed query. -/
def Slot.ofRecord? : Value → Option Slot
  | .record .bindSlot fields _ =>
    match fieldOf fields "caller_index" with
    | .int i => some (.caller i)
    | .null => some (.own (fieldOf fields "value"))
    | _ => none
  | _ => none

end SqlComposer
