import SqlComposer.Query.OfRecord
import SqlComposer.Table.Compile

/-!
# Table definitions from records

A validated record of a table is read as a table definition. A record that was copied around
validation is read as one as long as it holds what a table definition consists of.
-/

set_option autoImplicit false

namespace SqlComposer

/-- A record of a kind or null, read by `read?`. -/
def optional? {α : Type} (read? : Value → Option α) : Value → Option (Option α)
  | .null => some none
  | v => (read? v).map some

/-- A column computed from others. -/
def GeneratedColumn.ofRecord? : Value → Option GeneratedColumn
  | .record .generatedColumn fields _ => do
    return {
      expression := ← (fieldOf fields "expression").text?
      storage := ← choice? GeneratedStorage.all (·.keyword) (fieldOf fields "type") }
  | _ => none

/-- The options of a column. The default counts only if it was given. -/
def ColumnOptions.ofRecord? : Value → Option ColumnOptions
  | .record .columnOptions fields given => do
    return {
      length := match fieldOf fields "length" with
        | .null => none
        | v => some v
      default := if given.contains "default" then some (fieldOf fields "default") else none
      nullable := (fieldOf fields "nullable").truthy
      autoIncrement := (fieldOf fields "auto_increment").truthy
      unsigned := (fieldOf fields "unsigned").truthy
      zerofill := (fieldOf fields "zerofill").truthy
      charset := ← optionalText? (fieldOf fields "charset")
      collate := ← optionalText? (fieldOf fields "collate")
      comment := ← optionalText? (fieldOf fields "comment")
      onUpdate := ← optionalText? (fieldOf fields "on_update")
      values := ← (match fieldOf fields "enum" with
        | .null => some []
        | v => texts? v)
      generated := ← optional? GeneratedColumn.ofRecord? (fieldOf fields "generated") }
  | _ => none

/-- A column. -/
def Column.ofRecord? : Value → Option Column
  | .record .columnSpec fields _ => do
    return {
      name := ← (fieldOf fields "name").text?
      type := ← choice? ColumnType.all (·.name) (fieldOf fields "type")
      options := ← ColumnOptions.ofRecord? (fieldOf fields "options") }
  | _ => none

/-- An index. -/
def Index.ofRecord? : Value → Option Index
  | .record .indexDefinition fields _ => do
    return {
      columns := ← texts? (fieldOf fields "columns")
      kind := ← optionalChoice? IndexKind.all (·.keyword) (fieldOf fields "type") }
  | _ => none

/-- A foreign key. -/
def ForeignKey.ofRecord? : Value → Option ForeignKey
  | .record .foreignKey fields _ => do
    return {
      column := ← (fieldOf fields "column").text?
      reference := ← (fieldOf fields "reference").text?
      onDelete := ← optionalChoice? ReferentialAction.all (·.keyword) (fieldOf fields "on_delete")
      onUpdate := ←
        optionalChoice? ReferentialAction.all (·.keyword) (fieldOf fields "on_update") }
  | _ => none

/-- A check. -/
def Check.ofRecord? : Value → Option Check
  | .record .checkConstraint fields _ => do
    return {
      name := ← (fieldOf fields "name").text?
      condition := ← (fieldOf fields "condition").text? }
  | _ => none

/-- The options of a table. -/
def TableOptions.ofRecord? : Value → Option TableOptions
  | .record .tableOptions fields _ => do
    let autoIncrement ← (match fieldOf fields "auto_increment" with
      | .null => some none
      | .int n => some (some n)
      | _ => none)
    return {
      engine := ← optionalText? (fieldOf fields "engine")
      autoIncrement := autoIncrement
      rowFormat := ← optionalChoice? RowFormat.all (·.keyword) (fieldOf fields "row_format")
      charset := ← optionalText? (fieldOf fields "charset")
      collate := ← optionalText? (fieldOf fields "collate")
      comment := ← optionalText? (fieldOf fields "comment") }
  | _ => none

/-- The elements of a value, each read as a part of a table definition. -/
def parts? {α : Type} (read? : Value → Option α) (v : Value) : Option (List α) :=
  v.elements?.bind (·.mapM read?)

/-- Reads a record as a table definition. -/
def TableDefinition.ofRecord? : Value → Option TableDefinition
  | .record .createTableConfig fields _ => do
    return {
      table := ← (fieldOf fields "table").text?
      columns := ← parts? Column.ofRecord? (fieldOf fields "columns")
      primaryKey := ← textOrTexts? (fieldOf fields "primary_key")
      indexes := ← parts? Index.ofRecord? (fieldOf fields "indexes")
      foreignKeys := ← parts? ForeignKey.ofRecord? (fieldOf fields "foreign_keys")
      checks := ← parts? Check.ofRecord? (fieldOf fields "checks")
      options := ← optional? TableOptions.ofRecord? (fieldOf fields "table_options")
      dropFirst := (fieldOf fields "drop_if_exists").truthy }
  | _ => none

end SqlComposer
