import SqlComposer.Effect.Action
import SqlComposer.Settings.Required

/-!
# The pool

The pool of connections is made when it is first needed, from the settings of the database. Its
driver has to be installed and able to work without blocking.
-/

set_option autoImplicit false

namespace SqlComposer

/-- The logger of the pool and of the statements that run on it. -/
def executionLogger : String := "querycraft.engines.base"

/-- An entry of the execution of statements. -/
def executionEntry (level : Log.Level) (message : String) (extra : List (String × Value))
    (failure : Option Failure) : Log.Entry :=
  ⟨level, executionLogger, message, extra, failure.map (·.name)⟩

/-- What a pool is made with. -/
structure Pool where
  /-- The address with its password. -/
  address : String
  size : Int
  maxOverflow : Int
  timeout : Int
  recycle : Int
  /-- Whether a connection is tried before it is handed out. -/
  prePing : Bool
  deriving DecidableEq, Repr

/-- Whether a driver can be used. -/
inductive DriverSupport where
  /-- It is installed and never blocks. -/
  | ready
  /-- It is known, but its module is not installed. -/
  | absent
  /-- It blocks. -/
  | blocking
  /-- It does not take the address of a host. -/
  | hostless
  /-- It is part of the support for a database, but no driver. -/
  | notDriver
  /-- Nobody knows it. -/
  | unknown
  /-- Its name has too many parts. -/
  | malformed
  deriving DecidableEq, Repr

/-- The drivers for MySQL and MariaDB. -/
def mysqlDrivers : List (String × DriverSupport) :=
  [("aiomysql", .ready), ("pymysql", .blocking), ("base", .absent), ("mysqldb", .absent),
    ("asyncmy", .absent), ("mysqlconnector", .absent), ("mariadbconnector", .absent),
    ("cymysql", .absent), ("pyodbc", .absent), ("mariadb", .notDriver), ("dml", .notDriver),
    ("enumerated", .notDriver), ("expression", .notDriver), ("json", .notDriver),
    ("reflection", .notDriver), ("reserved_words", .notDriver), ("types", .notDriver)]

/-- The drivers for each kind of database. The driver `base` is the one of a kind that is named
alone. -/
def driversFor : String → List (String × DriverSupport)
  | "mysql" => mysqlDrivers
  | "mariadb" => mysqlDrivers
  | "sqlite" =>
    [("base", .hostless), ("pysqlite", .hostless), ("aiosqlite", .absent),
      ("pysqlcipher", .absent)]
  | "postgresql" =>
    ["base", "psycopg", "psycopg_async", "psycopg2", "psycopg2cffi", "asyncpg", "pg8000"].map
      (·, .absent)
  | "oracle" => ["base", "cx_oracle", "oracledb", "oracledb_async"].map (·, .absent)
  | "mssql" => ["base", "pyodbc", "pymssql", "aioodbc"].map (·, .absent)
  | _ => []

/-- How a driver turns out. Its name is the kind of database and, after a plus sign or a dot, the
driver. A driver for MariaDB that nobody knows is looked for among the modules. -/
def driverSupport (driver : String) : DriverSupport :=
  let parts := (String.ofList (driver.toList.map fun c => if c == '+' then '.' else c)).splitOn "."
  let find (kind name : String) : DriverSupport :=
    (lookup? name (driversFor kind)).getD (if kind == "mariadb" then .absent else .unknown)
  match parts with
  | [kind] => find kind "base"
  | [kind, name] => find kind name
  | _ => .malformed

/-- The fault of a driver that cannot be used. -/
def driverFault? (driver : String) : Option Fault :=
  match driverSupport driver with
  | .ready => none
  | .absent => some ⟨.moduleNotFound, ""⟩
  | .blocking => some ⟨.invalidRequest, ""⟩
  | .hostless => some ⟨.argument, ""⟩
  | .notDriver => some ⟨.attribute, ""⟩
  | .unknown => some ⟨.noSuchModule, ""⟩
  | .malformed => some ⟨.value, ""⟩

namespace Pool

/-- The pool that the settings describe. -/
def ofSettings (s : DatabaseSettings) : Pool :=
  { address := s.address.text false
    size := s.poolSize
    maxOverflow := s.maxOverflow
    timeout := s.poolTimeout
    recycle := s.poolRecycle
    prePing := true }

/-- The settings with all that a pool needs, if its driver can be used. -/
def usable (s : DatabaseSettings) : Except Failure DatabaseSettings := do
  let s ← s.require
  match driverFault? s.driver with
  | some fault =>
    .error (.error (.connection "Failed to create MySQL engine" (some "mysql") s.host
      { ErrorContext.empty with cause := some fault }))
  | none => .ok s

/-- Makes a pool. -/
def make (s : DatabaseSettings) : Action Pool := do
  let s ← Action.raising (usable s)
  Action.log (executionEntry .info "Created MySQL engine"
    [("db.host", .ofText? s.host), ("db.name", .ofText? s.name),
      ("db.pool_size", .int s.poolSize)] none)
  return ofSettings s

/-- Makes the pool unless it is there. -/
def ensure (s : DatabaseSettings) : Action Unit := do
  if ← Action.ask .poolExists then return ()
  let _ ← make s
  Action.ask (.setPool true)

/-- Checks out a connection of the pool. -/
def connect (s : DatabaseSettings) : Action Connection := do
  ensure s
  Action.connect

/-- Closes all connections of the pool and forgets it, if there is one. -/
def dispose : Action Unit := do
  if ← Action.ask .poolExists then
    Action.ofFault (← Action.ask .dispose)
    Action.ask (.setPool false)
    Action.log (executionEntry .info "Disposed MySQL engine" [] none)

end Pool

end SqlComposer
