import SqlComposer.Table.Definition
import SqlComposer.Sql.Identifier
import SqlComposer.Sql.Literal
import SqlComposer.Sql.Token
import SqlComposer.Text.Casing

/-!
# Composing a table definition

A table definition becomes one `CREATE TABLE` statement, after a `DROP TABLE` if the definition
asks for it. Nothing in it can be bound, so every part is quoted, escaped or checked before any
statement is returned: a definition is refused as a whole or not at all.
-/

set_option autoImplicit false

namespace SqlComposer

open SqlComposer.Sql SqlComposer.Text

/-- The one default and the one `ON UPDATE` value that are no literals. -/
def currentTimestamp : String := "CURRENT_TIMESTAMP"

/-- Whether a text names the current time, in any case and with blanks around it. -/
def isCurrentTimestamp (text : String) : Bool := upper (trim text) == currentTimestamp

/-- The engine of a table that names none. -/
def defaultEngine : String := "InnoDB"

/-- The character set of a table that names none. -/
def defaultCharset : String := "utf8mb4"

/-- A text that is there and not empty. -/
def nonEmpty? (text : Option String) : Option String := text.filter (!·.isEmpty)

/-- An optional bare name after its keyword. -/
def tokenClause (keyword option : String) (text : Option String) :
    Except Rejection (List String) :=
  match nonEmpty? text with
  | none => .ok []
  | some t => do return [keyword ++ (← checkToken option t)]

namespace Column

/-- The type of a column with its length or its values. -/
def typeText (c : Column) : String :=
  if c.type.hasValues then
    upper c.type.name ++ "(" ++ ", ".intercalate (c.options.values.map quoteText) ++ ")"
  else
    upper c.type.name ++ (match c.options.length with
      | some length => "(" ++ length.display ++ ")"
      | none => "")

/-- A default value as SQL text. -/
def defaultText : Value → String
  | .null => "NULL"
  | .bool true => "TRUE"
  | .bool false => "FALSE"
  | .text s => if isCurrentTimestamp s then currentTimestamp else quoteText s
  | v => v.display

/-- The character set and the collation of a column that holds text. -/
def charsetClauses (c : Column) : Except Rejection (List String) :=
  if c.type.isTextual then do
    let charset ← tokenClause "CHARACTER SET " "charset" c.options.charset
    let collate ← tokenClause "COLLATE " "collate" c.options.collate
    return charset ++ collate
  else .ok []

/-- The expression of a computed column. -/
def generatedClause (c : Column) : Except Rejection (List String) :=
  match c.options.generated with
  | none => .ok []
  | some g => do
    let expression ← checkFragment .generated g.expression
    return ["GENERATED ALWAYS AS (" ++ expression ++ ") " ++ g.storage.keyword]

/-- Refuses a length that has to be written and cannot be. -/
def checkLength (c : Column) : Except Rejection Unit :=
  if c.type.hasValues then .ok () else checkWritable (c.options.length.getD .null)

/-- Refuses a default that cannot be written. -/
def checkDefault (c : Column) : Except Rejection Unit :=
  checkWritable (c.options.default.getD .null)

/-- The clauses that come after the expression of a computed column. -/
def closingClauses (c : Column) : List String :=
  [if c.options.nullable then "NULL" else "NOT NULL"]
    ++ (match c.options.default with
      | some v => ["DEFAULT " ++ defaultText v]
      | none => [])
    ++ (if c.options.autoIncrement then ["AUTO_INCREMENT"] else [])
    ++ (match c.options.onUpdate with
      | some text => if isCurrentTimestamp text then ["ON UPDATE " ++ currentTimestamp] else []
      | none => [])
    ++ (match nonEmpty? c.options.comment with
      | some text => ["COMMENT " ++ quoteText text]
      | none => [])

/-- The definition of a column. -/
def definition (c : Column) : Except Rejection String := do
  c.checkLength
  let charset ← c.charsetClauses
  let generated ← c.generatedClause
  c.checkDefault
  return " ".intercalate
    ([quoteName c.name, c.typeText]
      ++ (if c.options.unsigned then ["UNSIGNED"] else [])
      ++ (if c.options.zerofill then ["ZEROFILL"] else [])
      ++ charset ++ generated ++ c.closingClauses)

/-- The `ON UPDATE` value that is left out of the definition because it is not supported. -/
def ignoredOnUpdate? (c : Column) : Option String :=
  c.options.onUpdate.filter (!isCurrentTimestamp ·)

end Column

/-- The definition of an index. -/
def Index.definition (i : Index) : String :=
  let columns := "(" ++ nameList i.columns ++ ")"
  match i.kind with
  | none => "INDEX " ++ columns
  | some .unique => "UNIQUE KEY " ++ columns
  | some kind => kind.keyword ++ " INDEX " ++ columns

/-- An action with its occasion, if there is one. -/
def actionText (occasion : String) : Option ReferentialAction → String
  | none => ""
  | some action => occasion ++ action.keyword

/-- The definition of a foreign key. -/
def ForeignKey.definition (k : ForeignKey) : Except Rejection String := do
  let reference ← checkReference k.reference
  return "FOREIGN KEY (" ++ quoteName k.column ++ ") REFERENCES " ++ reference
    ++ actionText " ON DELETE " k.onDelete ++ actionText " ON UPDATE " k.onUpdate

/-- The definition of a check. -/
def Check.definition (c : Check) : Except Rejection String := do
  let condition ← checkFragment .check c.condition
  return "CONSTRAINT " ++ quoteName c.name ++ " CHECK (" ++ condition ++ ")"

/-- The options after the closing parenthesis of a table definition. -/
def TableOptions.text (o : TableOptions) : Except Rejection String := do
  let engine ← checkToken "engine" ((nonEmpty? o.engine).getD defaultEngine)
  checkWritable (.int (o.autoIncrement.getD 0))
  let charset ← checkToken "charset" ((nonEmpty? o.charset).getD defaultCharset)
  let collate ← tokenClause "COLLATE " "collate" o.collate
  return " ".intercalate
    (["ENGINE=" ++ engine]
      ++ (match o.autoIncrement with
        | some n => if n = 0 then [] else ["AUTO_INCREMENT=" ++ toString n]
        | none => [])
      ++ (match o.rowFormat with
        | some f => ["ROW_FORMAT=" ++ f.keyword]
        | none => [])
      ++ ["DEFAULT CHARACTER SET " ++ charset] ++ collate
      ++ (match nonEmpty? o.comment with
        | some text => ["COMMENT=" ++ quoteText text]
        | none => []))

namespace TableDefinition

/-- The definition of a primary key. -/
def keyDefinition (columns : String) : String := "PRIMARY KEY (" ++ columns ++ ")"

/-- The statement that creates a table with some definitions and options. -/
def createStatement (table : String) (definitions : List String) (options : String) : String :=
  "CREATE TABLE " ++ table ++ " (" ++ ", ".intercalate definitions ++ ") " ++ options

/-- The options of a table, the usual ones if none are given. -/
def optionsText : Option TableOptions → Except Rejection String
  | none => .ok ("ENGINE=" ++ defaultEngine ++ " DEFAULT CHARACTER SET " ++ defaultCharset)
  | some o => o.text

/-- The statement that removes a table. -/
def dropStatement (table : String) : String := "DROP TABLE IF EXISTS " ++ table

/-- The statement that creates a table, after the one that removes it if that is asked for. -/
def statements (table create : String) (dropFirst : Bool) : List String :=
  if dropFirst then [dropStatement table, create] else [create]

/-- The statement that creates the table. -/
def createText (t : TableDefinition) : Except Rejection String := do
  let columns ← t.columns.mapM Column.definition
  let foreignKeys ← t.foreignKeys.mapM ForeignKey.definition
  let checks ← t.checks.mapM Check.definition
  let options ← optionsText t.options
  return createStatement (quoteName t.table)
    (columns ++ [keyDefinition (nameList t.primaryKey)] ++ t.indexes.map Index.definition
      ++ foreignKeys ++ checks) options

/-- The statements that bring the table about, in order. -/
def compile (t : TableDefinition) : Except Rejection (List String) := do
  return statements (quoteName t.table) (← t.createText) t.dropFirst

/-- Whether a column is refused. -/
def refuses (c : Column) : Bool :=
  match c.definition with
  | .ok _ => false
  | .error _ => true

/-- The entry that is logged for an `ON UPDATE` value left out. -/
def ignoredEntry (name text : String) : Log.Entry :=
  { level := .warning
    logger := "querycraft.query_builder.ddl"
    message := "Ignoring unsupported ON UPDATE value"
    extra := [("db.column", .text name), ("on_update", .text text)]
    failure := none }

/-- The warnings that are logged while columns are composed: one for each value left out before
the first refused column. -/
def warnings (columns : List Column) : List Log.Entry :=
  (columns.takeWhile (!refuses ·)).filterMap fun c =>
    c.ignoredOnUpdate?.map (ignoredEntry c.name)

/-- The entries that are logged while a definition is composed: the warnings about its columns,
and the statement if there is one. -/
def entries (t : TableDefinition) : List Log.Entry :=
  warnings t.columns
    ++ (match t.createText with
      | .ok create =>
        [{ level := .debug
           logger := "querycraft.query_builder.ddl"
           message := "Compiled CREATE TABLE"
           extra := [("db.table", .text t.table), ("db.statement", .text create)]
           failure := none }]
      | .error _ => [])

end TableDefinition

end SqlComposer
