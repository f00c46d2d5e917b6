import SqlComposer.Settings.Group
import SqlComposer.Settings.Address

/-!
# Settings

The settings of the library as it uses them: the connection to the database, the query log, and
what belongs to neither. Each is read off the record of its group, whose fields have been
validated by then.
-/

set_option autoImplicit false

namespace SqlComposer

open SqlComposer.Text SqlComposer.Settings

/-- A field that holds a whole number. -/
def Value.intField (r : Value) (name : String) : Int :=
  match r.get name with
  | .int n => n
  | _ => 0

/-- A field that holds a boolean. -/
def Value.boolField (r : Value) (name : String) : Bool :=
  match r.get name with
  | .bool b => b
  | _ => false

/-- A field that holds a text. -/
def Value.textField (r : Value) (name : String) : String := ((r.get name).text?).getD ""

/-- The connection to the database. -/
structure DatabaseSettings where
  host : Option String
  user : Option String
  password : Option String
  name : Option String
  port : Int
  driver : String
  poolSize : Int
  maxOverflow : Int
  poolTimeout : Int
  poolRecycle : Int

namespace DatabaseSettings

/-- Reads the settings off their record. -/
def ofRecord (r : Value) : DatabaseSettings :=
  { host := (r.get "host").text?
    user := (r.get "user").text?
    password := (r.get "password").text?
    name := (r.get "name").text?
    port := r.intField "port"
    driver := r.textField "driver"
    poolSize := r.intField "pool_size"
    maxOverflow := r.intField "max_overflow"
    poolTimeout := r.intField "pool_timeout"
    poolRecycle := r.intField "pool_recycle" }

/-- The settings by name, in the order of the fields. -/
def toEntries (s : DatabaseSettings) : List (String × Value) :=
  [("host", .ofText? s.host), ("user", .ofText? s.user), ("password", .ofText? s.password),
    ("name", .ofText? s.name), ("port", .int s.port), ("driver", .text s.driver),
    ("pool_size", .int s.poolSize), ("max_overflow", .int s.maxOverflow),
    ("pool_timeout", .int s.poolTimeout), ("pool_recycle", .int s.poolRecycle)]

/-- A text that is there and not empty. -/
def isGiven (s : Option String) : Bool := s.any (!·.isEmpty)

/-- Whether everything is there that a login takes. -/
def isConfigured (s : DatabaseSettings) : Bool :=
  isGiven s.host && isGiven s.user && isGiven s.password && isGiven s.name

/-- The address of the database. An empty password counts as none. -/
def address (s : DatabaseSettings) : Address :=
  { driver := s.driver
    user := s.user
    password := s.password.filter (!·.isEmpty)
    host := s.host
    port := s.port
    name := s.name }

/-- Reads the settings from their sources. -/
def read (sources : Sources) (args : List (String × Value)) : Checked DatabaseSettings :=
  (Group.database.read sources args).map ofRecord

end DatabaseSettings

/-- The query log. -/
structure QueryLogSettings where
  enabled : Bool
  toFile : Bool
  /-- Nothing leaves the decision to the environment. -/
  toConsole : Option Bool
  path : String
  slowThreshold : Int
  maxBytes : Int
  backupCount : Int
  rotate : Bool

namespace QueryLogSettings

/-- Reads the settings off their record. -/
def ofRecord (r : Value) : QueryLogSettings :=
  { enabled := r.boolField "enabled"
    toFile := r.boolField "to_file"
    toConsole := match r.get "to_console" with
      | .bool b => some b
      | _ => none
    path := r.textField "path"
    slowThreshold := r.intField "slow_query_threshold_ms"
    maxBytes := r.intField "max_bytes"
    backupCount := r.intField "backup_count"
    rotate := r.boolField "rotate" }

/-- The settings by name, in the order of the fields. -/
def toEntries (s : QueryLogSettings) : List (String × Value) :=
  [("enabled", .bool s.enabled), ("to_file", .bool s.toFile),
    ("to_console", match s.toConsole with
      | some b => .bool b
      | none => .null),
    ("path", .text s.path), ("slow_query_threshold_ms", .int s.slowThreshold),
    ("max_bytes", .int s.maxBytes), ("backup_count", .int s.backupCount),
    ("rotate", .bool s.rotate)]

/-- Whether entries go to the console: as asked for, or while developing. -/
def resolveToConsole (s : QueryLogSettings) (developing : Bool) : Bool :=
  s.toConsole.getD developing

/-- Reads the settings from their sources. -/
def read (sources : Sources) (args : List (String × Value)) : Checked QueryLogSettings :=
  (Group.queryLog.read sources args).map ofRecord

end QueryLogSettings

/-- What belongs to no group. -/
structure AppSettings where
  appEnv : String
  logLevel : String

namespace AppSettings

/-- Reads the settings off their record. -/
def ofRecord (r : Value) : AppSettings := ⟨r.textField "app_env", r.textField "log_level"⟩

/-- The settings by name, in the order of the fields. -/
def toEntries (s : AppSettings) : List (String × Value) :=
  [("app_env", .text s.appEnv), ("log_level", .text s.logLevel)]

/-- Whether the program runs for its developers. -/
def isDevelopment (s : AppSettings) : Bool := lower (trim s.appEnv) == "development"

/-- Reads the settings from their sources. -/
def read (sources : Sources) (args : List (String × Value)) : Checked AppSettings :=
  (Group.app.read sources args).map ofRecord

end AppSettings

/-- All settings. -/
structure Settings where
  app : AppSettings
  database : DatabaseSettings
  queryLog : QueryLogSettings

/-- Whether the program runs for its developers. -/
def Settings.isDevelopment (s : Settings) : Bool := s.app.isDevelopment

end SqlComposer
