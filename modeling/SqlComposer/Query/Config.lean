import SqlComposer.Value.Text

/-!
# Queries

A query is described, not written: tables, output columns under aliases, conditions, order and
limits. An output column is a column of a table, an expression, or the result of another query,
so queries nest; `union` adds whole queries side by side.

`Query.checked` singles out the queries that validation lets through. Copying a described query
with changed fields can go around validation, and then a sort direction may be any text and a
limit any number.
-/

set_option autoImplicit false

namespace SqlComposer

/-- The kinds of joins. -/
inductive JoinKind where
  | inner
  | left
  | right
  | full
  deriving DecidableEq, Repr

/-- The keyword of a join. -/
def JoinKind.keyword : JoinKind → String
  | .inner => "INNER"
  | .left => "LEFT"
  | .right => "RIGHT"
  | .full => "FULL"

/-- All kinds of joins. -/
def JoinKind.all : List JoinKind := [.inner, .left, .right, .full]

/-- A joined table and the condition it is joined on. -/
structure Join where
  kind : JoinKind
  table : String
  on : String
  deriving DecidableEq, Repr

/-- The sort directions. -/
inductive SortDirection where
  | asc
  | desc
  deriving DecidableEq, Repr

/-- The keyword of a sort direction. -/
def SortDirection.keyword : SortDirection → String
  | .asc => "ASC"
  | .desc => "DESC"

/-- Both sort directions. -/
def SortDirection.all : List SortDirection := [.asc, .desc]

/-- The sort direction that a query gives to all its textual order entries. -/
inductive SharedDirection where
  /-- None is given. -/
  | absent
  /-- One is given. -/
  | given (direction : SortDirection)
  /-- A text that is no sort direction, put there around validation. -/
  | unknown (text : String)
  deriving DecidableEq, Repr

/-- An entry of an order. -/
inductive OrderEntry where
  /-- A column or alias, possibly followed by a direction. -/
  | text (text : String)
  /-- A column or alias with a direction of its own. -/
  | item (column : String) (direction : Option SortDirection)
  deriving DecidableEq, Repr

/-- A row limit or offset. -/
inductive RowBound where
  | whole (n : Int)
  | real (x : Float)

/-- An output column. `Q` is the type of queries. -/
inductive FieldSpec (Q : Type) where
  /-- A column, or an expression that looks composed. -/
  | column (text : String)
  /-- An expression. -/
  | raw (text : String)
  /-- The single value that another query yields. -/
  | subquery (query : Q)

/-- A described query. -/
structure Query where
  tables : List String
  /-- The column that identifies a row. Rows are sorted by it unless an order is given. -/
  idField : String
  /-- The output columns under their aliases. -/
  fields : List (String × FieldSpec Query)
  joins : List Join
  /-- Conditions that all have to hold. -/
  conditions : List String
  /-- Columns with the values they may have. -/
  whereIn : List (String × List Value)
  /-- Columns with the values they may not have. -/
  whereNotIn : List (String × List Value)
  /-- Conditions on groups. -/
  having : List String
  groupBy : List String
  orderBy : List OrderEntry
  direction : SharedDirection
  limit : Option RowBound
  offset : Option RowBound
  distinct : Bool
  /-- Queries whose rows are added. -/
  union : List Query

/-- Whether a row bound can be written: it is finite and has few enough digits. -/
def RowBound.isWritable : RowBound → Bool
  | .whole n => fewDigits n
  | .real x => Number.isFinite x

/-- Whether a query's own fields are as validation leaves them. -/
def Query.ownChecked (q : Query) : Bool :=
  (match q.direction with
    | .unknown _ => false
    | _ => true)
    && q.limit.all RowBound.isWritable && q.offset.all RowBound.isWritable

mutual

/-- Whether a query and all queries in it are as validation leaves them. -/
def Query.checked : Query → Bool
  | ⟨tables, idField, fields, joins, conditions, whereIn, whereNotIn, having, groupBy, orderBy,
      direction, limit, offset, distinct, union⟩ =>
    Query.ownChecked ⟨tables, idField, [], joins, conditions, whereIn, whereNotIn, having,
      groupBy, orderBy, direction, limit, offset, distinct, []⟩
      && fieldsChecked fields && queriesChecked union

/-- Whether all queries among output columns are as validation leaves them. -/
def fieldsChecked : List (String × FieldSpec Query) → Bool
  | [] => true
  | (_, .subquery q) :: rest => q.checked && fieldsChecked rest
  | (_, .column _) :: rest => fieldsChecked rest
  | (_, .raw _) :: rest => fieldsChecked rest

/-- Whether all queries of a list are as validation leaves them. -/
def queriesChecked : List Query → Bool
  | [] => true
  | q :: rest => q.checked && queriesChecked rest

end

end SqlComposer
