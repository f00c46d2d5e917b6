import SqlComposer.Value

/-!
# Table definitions

What a table looks like: its columns with their types and options, its keys and constraints, and
the options of the table as a whole.
-/

set_option autoImplicit false

namespace SqlComposer

/-- The types of columns. -/
inductive ColumnType where
  | int
  | tinyint
  | smallint
  | mediumint
  | bigint
  | float
  | double
  | decimal
  | bit
  | bool
  | boolean
  | char
  | varchar
  | tinytext
  | text
  | mediumtext
  | longtext
  | binary
  | varbinary
  | tinyblob
  | blob
  | mediumblob
  | longblob
  | enum
  | set
  | json
  | date
  | datetime
  | timestamp
  | time
  | year
  | geometry
  | point
  | linestring
  | polygon
  | multipoint
  | multilinestring
  | multipolygon
  | geometrycollection
  deriving DecidableEq, Repr

namespace ColumnType

/-- All types, in the order in which they are listed to a reader. -/
def all : List ColumnType :=
  [.int, .tinyint, .smallint, .mediumint, .bigint, .float, .double, .decimal, .bit, .bool,
    .boolean, .char, .varchar, .tinytext, .text, .mediumtext, .longtext, .binary, .varbinary,
    .tinyblob, .blob, .mediumblob, .longblob, .enum, .set, .json, .date, .datetime, .timestamp,
    .time, .year, .geometry, .point, .linestring, .polygon, .multipoint, .multilinestring,
    .multipolygon, .geometrycollection]

/-- The name of a type in small letters. -/
def name : ColumnType → String
  | .int => "int"
  | .tinyint => "tinyint"
  | .smallint => "smallint"
  | .mediumint => "mediumint"
  | .bigint => "bigint"
  | .float => "float"
  | .double => "double"
  | .decimal => "decimal"
  | .bit => "bit"
  | .bool => "bool"
  | .boolean => "boolean"
  | .char => "char"
  | .varchar => "varchar"
  | .tinytext => "tinytext"
  | .text => "text"
  | .mediumtext => "mediumtext"
  | .longtext => "longtext"
  | .binary => "binary"
  | .varbinary => "varbinary"
  | .tinyblob => "tinyblob"
  | .blob => "blob"
  | .mediumblob => "mediumblob"
  | .longblob => "longblob"
  | .enum => "enum"
  | .set => "set"
  | .json => "json"
  | .date => "date"
  | .datetime => "datetime"
  | .timestamp => "timestamp"
  | .time => "time"
  | .year => "year"
  | .geometry => "geometry"
  | .point => "point"
  | .linestring => "linestring"
  | .polygon => "polygon"
  | .multipoint => "multipoint"
  | .multilinestring => "multilinestring"
  | .multipolygon => "multipolygon"
  | .geometrycollection => "geometrycollection"

/-- Whether columns of the type hold text, and so have a character set. -/
def isTextual : ColumnType → Bool
  | .char | .varchar | .tinytext | .text | .mediumtext | .longtext => true
  | _ => false

/-- Whether the type takes a list of values in place of a length. -/
def hasValues : ColumnType → Bool
  | .enum | .set => true
  | _ => false

end ColumnType

/-- How a computed column is kept. -/
inductive GeneratedStorage where
  | virtual
  | stored
  deriving DecidableEq, Repr

/-- The keyword of a way of keeping. -/
def GeneratedStorage.keyword : GeneratedStorage → String
  | .virtual => "VIRTUAL"
  | .stored => "STORED"

/-- Both ways of keeping. -/
def GeneratedStorage.all : List GeneratedStorage := [.virtual, .stored]

/-- A column computed from others. -/
structure GeneratedColumn where
  expression : String
  storage : GeneratedStorage
  deriving DecidableEq, Repr

/-- The options of a column. -/
structure ColumnOptions where
  /-- The length: a number, or digits, a comma and digits. -/
  length : Option Value
  /-- The default value, if one is given; null is one. -/
  default : Option Value
  nullable : Bool
  autoIncrement : Bool
  unsigned : Bool
  zerofill : Bool
  charset : Option String
  collate : Option String
  comment : Option String
  onUpdate : Option String
  /-- The values of a column whose type takes a list of them. -/
  values : List String
  generated : Option GeneratedColumn

/-- A column. -/
structure Column where
  name : String
  type : ColumnType
  options : ColumnOptions

/-- The special kinds of indexes. -/
inductive IndexKind where
  | unique
  | fulltext
  | spatial
  deriving DecidableEq, Repr

/-- The keyword of a kind of index. -/
def IndexKind.keyword : IndexKind → String
  | .unique => "UNIQUE"
  | .fulltext => "FULLTEXT"
  | .spatial => "SPATIAL"

/-- All special kinds of indexes. -/
def IndexKind.all : List IndexKind := [.unique, .fulltext, .spatial]

/-- An index. -/
structure Index where
  columns : List String
  kind : Option IndexKind
  deriving DecidableEq, Repr

/-- What happens to a row when the row it refers to changes. -/
inductive ReferentialAction where
  | cascade
  | setNull
  | restrict
  | noAction
  deriving DecidableEq, Repr

/-- The keywords of an action. -/
def ReferentialAction.keyword : ReferentialAction → String
  | .cascade => "CASCADE"
  | .setNull => "SET NULL"
  | .restrict => "RESTRICT"
  | .noAction => "NO ACTION"

/-- All actions. -/
def ReferentialAction.all : List ReferentialAction := [.cascade, .setNull, .restrict, .noAction]

/-- A reference to a row of another table. -/
structure ForeignKey where
  column : String
  /-- The target, written bare: `table(column)`. -/
  reference : String
  onDelete : Option ReferentialAction
  onUpdate : Option ReferentialAction
  deriving DecidableEq, Repr

/-- A named condition that every row satisfies. -/
structure Check where
  name : String
  condition : String
  deriving DecidableEq, Repr

/-- The formats in which rows are stored. -/
inductive RowFormat where
  | default
  | dynamic
  | compressed
  | redundant
  | compact
  deriving DecidableEq, Repr

/-- The keyword of a row format. -/
def RowFormat.keyword : RowFormat → String
  | .default => "DEFAULT"
  | .dynamic => "DYNAMIC"
  | .compressed => "COMPRESSED"
  | .redundant => "REDUNDANT"
  | .compact => "COMPACT"

/-- All row formats. -/
def RowFormat.all : List RowFormat := [.default, .dynamic, .compressed, .redundant, .compact]

/-- The options of a table. -/
structure TableOptions where
  engine : Option String
  autoIncrement : Option Int
  rowFormat : Option RowFormat
  charset : Option String
  collate : Option String
  comment : Option String
  deriving DecidableEq, Repr

/-- A table to be created. -/
structure TableDefinition where
  table : String
  columns : List Column
  primaryKey : List String
  indexes : List Index
  foreignKeys : List ForeignKey
  checks : List Check
  options : Option TableOptions
  /-- Whether a table of the same name is removed first. -/
  dropFirst : Bool

end SqlComposer
