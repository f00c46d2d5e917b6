import SqlComposer.Query.Config
import SqlComposer.Table.Definition
import SqlComposer.Text.Casing
import SqlComposer.Text.Trim

/-!
# The schema of records

Which fields each kind of record has, which values they take, and what they are if they are not
given. The schema is data: `SqlComposer.Record.Validate` reads it, and so does everything that
lists the fields of a record.
-/

set_option autoImplicit false

namespace SqlComposer

open SqlComposer.Text

/-- How a text is brought into form before it is looked up among the names of a choice. -/
inductive Tidying where
  /-- Blanks at the ends go, letters become capitals. -/
  | capitals
  /-- Blanks at the ends go, letters become small. -/
  | smalls
  /-- Runs of blanks become one space, those at the ends go, letters become capitals. -/
  | spacedCapitals
  deriving DecidableEq, Repr

/-- The text in form. -/
def Tidying.apply : Tidying → String → String
  | .capitals, s => upper (trim s)
  | .smalls, s => lower (trim s)
  | .spacedCapitals, s => upper (" ".intercalate (words s))

/-- The types of fields. -/
inductive FieldType where
  /-- Any value. -/
  | any
  /-- A text of at least so many characters. -/
  | text (least : Nat)
  /-- A whole number within bounds. -/
  | integer (least most : Option Int)
  /-- A number, kept as a double, with a lower bound. -/
  | number (least : Option Int)
  | boolean
  /-- One of a list of names. -/
  | choice (tidying : Tidying) (names : List String)
  /-- A list of at least so many items. -/
  | list (least : Nat) (item : FieldType)
  /-- A list of texts, or one text for the list of it alone. -/
  | fragments
  /-- A dictionary. -/
  | dict (item : FieldType)
  /-- Null or a value of the type. -/
  | optional (item : FieldType)
  /-- A value of one of the types, which have labels. -/
  | union (members : List (String × FieldType))
  /-- A record. -/
  | record (kind : RecordKind)

/-- The rules on fields that go beyond their types. -/
inductive FieldRule where
  | anything
  /-- At least one table, and no empty name. -/
  | tables
  /-- At least one output column. -/
  | fields
  /-- A finite number. -/
  | finite
  /-- A positive number, or digits with at most one comma. -/
  | length
  /-- At least one column, with a name that is not empty. -/
  | primaryKey
  /-- The name of a log level, in any case. -/
  | logLevel
  deriving DecidableEq, Repr

/-- A field of a kind of records. -/
structure FieldDef where
  name : String
  type : FieldType
  rule : FieldRule
  /-- What the field is if it is not given; nothing if it has to be given. -/
  default : Option Value

/-- A field that has to be given. -/
def FieldDef.required (name : String) (type : FieldType) : FieldDef := ⟨name, type, .anything, none⟩

/-- A field that may be left out. -/
def FieldDef.withDefault (name : String) (type : FieldType) (default : Value) : FieldDef :=
  ⟨name, type, .anything, some default⟩

/-- The field with a rule. -/
def FieldDef.ruled (d : FieldDef) (rule : FieldRule) : FieldDef := { d with rule := rule }

/-- A field that is null if it is not given. -/
def FieldDef.nullable (name : String) (type : FieldType) : FieldDef :=
  .withDefault name (.optional type) .null

/-- Any text. -/
def anyText : FieldType := .text 0

/-- A text that is not empty. -/
def someText : FieldType := .text 1

/-- Any whole number. -/
def anyInteger : FieldType := .integer none none

/-- A whole number that is not below a bound. -/
def atLeast (n : Int) : FieldType := .integer (some n) none

/-- A text or a list of texts. -/
def textOrTexts : FieldType := .union [("str", anyText), ("list[str]", .list 0 anyText)]

/-- One of the keywords, in capitals. -/
def keywords (names : List String) : FieldType := .choice .capitals names

namespace RecordKind

/-- The kinds of records that callers describe. -/
def described : List RecordKind :=
  [.queryConfig, .rawExpression, .joinClause, .orderByItem, .createTableConfig, .columnSpec,
    .columnOptions, .generatedColumn, .indexDefinition, .foreignKey, .checkConstraint,
    .tableOptions, .compiledQuery, .bindSlot, .compiledStatement, .queryResult, .dataPage,
    .batchInsertResult, .queryLoggerConfig]

/-- Whether records of the kind can hold records of the same kind. -/
def nests : RecordKind → Bool
  | .queryConfig => true
  | _ => false

/-- The described kind with a name. -/
def ofName? (s : String) : Option RecordKind := described.find? (·.name == s)

end RecordKind

/-- The fields of a column's options. -/
def columnOptionFields : List FieldDef :=
  [(FieldDef.nullable "length" (.union [("int", anyInteger), ("str", anyText)])).ruled .length,
    .nullable "default"
      (.union [("bool", .boolean), ("int", anyInteger), ("float", .number none),
        ("str", anyText)]),
    .withDefault "nullable" .boolean (.bool true),
    .withDefault "auto_increment" .boolean (.bool false),
    .withDefault "unsigned" .boolean (.bool false),
    .withDefault "zerofill" .boolean (.bool false),
    .nullable "charset" anyText,
    .nullable "collate" anyText,
    .nullable "comment" anyText,
    .nullable "on_update" anyText,
    .nullable "enum" (.list 0 anyText),
    .nullable "generated" (.record .generatedColumn)]

/-- The options of a column for which none are given. -/
def defaultColumnOptions : Value :=
  .record .columnOptions (columnOptionFields.map fun d => (d.name, d.default.getD .null)) []

/-- The fields of a query. -/
def queryFields : List FieldDef :=
  [(FieldDef.required "table" textOrTexts).ruled .tables,
    .withDefault "id_field" someText (.text "id"),
    (FieldDef.required "fields"
      (.dict (.union [("str", anyText), ("RawExpression", .record .rawExpression),
        ("QueryConfig", .record .queryConfig)]))).ruled .fields,
    .withDefault "joins" (.list 0 (.record .joinClause)) (.list []),
    .withDefault "where" .fragments (.list []),
    .withDefault "where_in" (.dict (.list 0 .any)) (.dict []),
    .withDefault "where_not_in" (.dict (.list 0 .any)) (.dict []),
    .withDefault "having" .fragments (.list []),
    .nullable "group_by" textOrTexts,
    .nullable "order_by"
      (.union [("str", anyText),
        ("list[union[str,OrderByItem]]",
          .list 0 (.union [("str", anyText), ("OrderByItem", .record .orderByItem)]))]),
    .nullable "order_direction" (keywords (SortDirection.all.map (·.keyword))),
    (FieldDef.nullable "limit" (.number none)).ruled .finite,
    (FieldDef.nullable "offset" (.number none)).ruled .finite,
    .withDefault "distinct" .boolean (.bool false),
    .withDefault "union" (.list 0 (.record .queryConfig)) (.list [])]

/-- The fields of a table definition. -/
def tableFields : List FieldDef :=
  [.required "table" someText,
    .required "columns" (.list 1 (.record .columnSpec)),
    (FieldDef.required "primary_key" textOrTexts).ruled .primaryKey,
    .withDefault "foreign_keys" (.list 0 (.record .foreignKey)) (.list []),
    .withDefault "indexes" (.list 0 (.record .indexDefinition)) (.list []),
    .withDefault "checks" (.list 0 (.record .checkConstraint)) (.list []),
    .nullable "table_options" (.record .tableOptions),
    .withDefault "drop_if_exists" .boolean (.bool false)]

/-- The fields of the settings of a database connection. -/
def databaseFields : List FieldDef :=
  [.nullable "host" anyText,
    .nullable "user" anyText,
    .nullable "password" anyText,
    .nullable "name" anyText,
    .withDefault "port" (.integer (some 1) (some 65535)) (.int 3306),
    .withDefault "driver" anyText (.text "mysql+aiomysql"),
    .withDefault "pool_size" (.integer (some 1) (some 100)) (.int 10),
    .withDefault "max_overflow" (atLeast 0) (.int 0),
    .withDefault "pool_timeout" (atLeast 1) (.int 30),
    .withDefault "pool_recycle" (atLeast (-1)) (.int 60)]

/-- The fields of the settings of the query log. -/
def queryLogFields : List FieldDef :=
  [.withDefault "enabled" .boolean (.bool false),
    .withDefault "to_file" .boolean (.bool true),
    .nullable "to_console" .boolean,
    .withDefault "path" anyText (.text "./logs/queries.log"),
    .withDefault "slow_query_threshold_ms" (atLeast 0) (.int 1000),
    .withDefault "max_bytes" (atLeast 1024) (.int 10485760),
    .withDefault "backup_count" (atLeast 0) (.int 5),
    .withDefault "rotate" .boolean (.bool true)]

/-- The fields of the settings that belong to no group. -/
def appFields : List FieldDef :=
  [.withDefault "app_env" anyText (.text "production"),
    (FieldDef.withDefault "log_level" anyText (.text "INFO")).ruled .logLevel]

/-- The fields of a kind of records, in order. -/
def RecordKind.fields : RecordKind → List FieldDef
  | .queryConfig => queryFields
  | .rawExpression => [.required "raw" someText]
  | .joinClause =>
    [.withDefault "type" (keywords (JoinKind.all.map (·.keyword))) (.text "INNER"),
      .required "table" someText,
      .required "on" someText]
  | .orderByItem =>
    [.required "column" someText,
      .nullable "direction" (keywords (SortDirection.all.map (·.keyword)))]
  | .createTableConfig => tableFields
  | .columnSpec =>
    [.required "name" someText,
      .required "type" (.choice .smalls (ColumnType.all.map (·.name))),
      .withDefault "options" (.record .columnOptions) defaultColumnOptions]
  | .columnOptions => columnOptionFields
  | .generatedColumn =>
    [.required "expression" someText,
      .withDefault "type" (keywords (GeneratedStorage.all.map (·.keyword))) (.text "VIRTUAL")]
  | .indexDefinition =>
    [.required "columns" (.list 1 anyText),
      .nullable "type" (keywords (IndexKind.all.map (·.keyword)))]
  | .foreignKey =>
    [.required "column" someText,
      .required "reference" anyText,
      .nullable "on_delete" (.choice .spacedCapitals (ReferentialAction.all.map (·.keyword))),
      .nullable "on_update" (.choice .spacedCapitals (ReferentialAction.all.map (·.keyword)))]
  | .checkConstraint => [.required "name" someText, .required "condition" someText]
  | .tableOptions =>
    [.nullable "engine" anyText,
      .nullable "auto_increment" (atLeast 1),
      .nullable "row_format" (keywords (RowFormat.all.map (·.keyword))),
      .nullable "charset" anyText,
      .nullable "collate" anyText,
      .nullable "comment" anyText]
  | .compiledQuery =>
    [.required "sql" anyText,
      .withDefault "additional_values" (.list 0 .any) (.list []),
      .withDefault "slots" (.list 0 (.record .bindSlot)) (.list []),
      .withDefault "caller_placeholders" anyInteger (.int 0)]
  | .bindSlot => [.nullable "caller_index" anyInteger, .withDefault "value" .any .null]
  | .compiledStatement =>
    [.required "sql" anyText, .withDefault "values" (.list 0 .any) (.list [])]
  | .queryResult =>
    [.withDefault "rows" (.list 0 (.dict .any)) (.list []),
      .withDefault "insert_id" anyInteger (.int 0),
      .withDefault "affected_rows" anyInteger (.int 0)]
  | .dataPage =>
    [.withDefault "rows" (.list 0 (.dict .any)) (.list []),
      .withDefault "count" anyInteger (.int 0)]
  | .batchInsertResult =>
    [.withDefault "first_insert_id" anyInteger (.int 0),
      .withDefault "affected_rows" anyInteger (.int 0),
      .withDefault "insert_ids" (.list 0 anyInteger) (.list [])]
  | .queryLoggerConfig =>
    [.withDefault "enabled" .boolean (.bool false),
      .withDefault "log_to_file" .boolean (.bool true),
      .withDefault "log_to_console" .boolean (.bool false),
      .withDefault "log_file_path" anyText (.text "./logs/queries.log"),
      .withDefault "slow_query_threshold" (.number (some 0)) (.int 1000),
      .withDefault "max_file_size" (atLeast 1024) (.int 10485760),
      .withDefault "backup_count" (atLeast 0) (.int 5),
      .withDefault "rotate_on_size" .boolean (.bool true)]
  | .databaseSettings => databaseFields
  | .queryLogSettings => queryLogFields
  | .appSettings => appFields
  | .settings => appFields

end SqlComposer
