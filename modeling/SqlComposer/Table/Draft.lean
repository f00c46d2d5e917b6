import SqlComposer.Query.Draft
import SqlComposer.Table.OfRecord

/-!
# Drafts of tables

A record of a table that was copied around validation may hold anything. What cannot be used in
it is a fault when its turn comes, after all that is wrong with earlier parts.
-/

set_option autoImplicit false

namespace SqlComposer

open SqlComposer.Sql

namespace TableDraft

/-- The statements that bring about the table of a draft. -/
def compile (fields : List (String × Value)) : Except Failure (List String) := do
  let table ← Draft.nameText (fieldOf fields "table")
  let columns ← Draft.parts (fieldOf fields "columns") Column.ofRecord? Column.definition
  let key ← Draft.nameTexts (fieldOf fields "primary_key")
  let indexes ← Draft.parts (fieldOf fields "indexes") Index.ofRecord? fun i => .ok i.definition
  let foreignKeys ←
    Draft.parts (fieldOf fields "foreign_keys") ForeignKey.ofRecord? ForeignKey.definition
  let checks ← Draft.parts (fieldOf fields "checks") Check.ofRecord? Check.definition
  let options ← (match optional? TableOptions.ofRecord? (fieldOf fields "table_options") with
    | some options => rejecting (TableDefinition.optionsText options)
    | none => Draft.lacking)
  let create := TableDefinition.createStatement table
    (columns ++ [TableDefinition.keyDefinition key] ++ indexes ++ foreignKeys ++ checks) options
  return TableDefinition.statements table create (fieldOf fields "drop_if_exists").truthy

/-- The entries that are logged while a draft is composed: the warnings about the columns before
the first that is none. -/
def entries (fields : List (String × Value)) : List Log.Entry :=
  match (fieldOf fields "table").text?, (fieldOf fields "columns").elements? with
  | some _, some columns =>
    TableDefinition.warnings
      (((columns.map Column.ofRecord?).takeWhile (·.isSome)).filterMap id)
  | _, _ => []

end TableDraft

/-- Composes what a record describes as a table, with the entries logged on the way. -/
def composeTable (record : Value) : Except Failure (List String) × List Log.Entry :=
  match TableDefinition.ofRecord? record, record with
  | some t, _ => (rejecting t.compile, t.entries)
  | none, .record .createTableConfig fields _ =>
    (TableDraft.compile fields, TableDraft.entries fields)
  | none, _ => (Draft.lacking, [])

end SqlComposer
