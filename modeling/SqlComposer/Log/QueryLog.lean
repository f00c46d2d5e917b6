import SqlComposer.Log.Outlet
import SqlComposer.Log.Record
import SqlComposer.Record.Access
import SqlComposer.Settings.Basic
import SqlComposer.Value.Sequence

/-!
# The query log

A query log writes one line for every statement that was executed, to a file, to the console, or
to both. It counts the statements, the slow ones among them and the failed ones, also while it is
switched off.

Its handlers follow from its configuration. They are made when the log is made and made anew
whenever the configuration changes; closing the log closes them, and a closed log writes nothing
until its configuration changes.

What a log is told can be at fault. Then it is counted as far as it was understood, and nothing is
written.
-/

set_option autoImplicit false

namespace SqlComposer.Log

/-- What a query log is to do. The entries are kept as they were given, also those that were put
there without being validated; whether an entry counts as true decides. -/
structure QueryLogConfig where
  enabled : Value
  toFile : Value
  toConsole : Value
  path : Value
  /-- A statement that takes more milliseconds than this is slow. -/
  slowThreshold : Value
  maxBytes : Value
  backupCount : Value
  /-- Whether the file is rotated when it reaches its limit. -/
  rotate : Value

namespace QueryLogConfig

/-- Reads the configuration off its record. -/
def ofRecord (r : Value) : QueryLogConfig :=
  { enabled := r.get "enabled"
    toFile := r.get "log_to_file"
    toConsole := r.get "log_to_console"
    path := r.get "log_file_path"
    slowThreshold := r.get "slow_query_threshold"
    maxBytes := r.get "max_file_size"
    backupCount := r.get "backup_count"
    rotate := r.get "rotate_on_size" }

/-- The configuration as a record. -/
def toRecord (c : QueryLogConfig) : Value :=
  .record .queryLoggerConfig
    [("enabled", c.enabled), ("log_to_file", c.toFile), ("log_to_console", c.toConsole),
      ("log_file_path", c.path), ("slow_query_threshold", c.slowThreshold),
      ("max_file_size", c.maxBytes), ("backup_count", c.backupCount),
      ("rotate_on_size", c.rotate)] []

/-- The configuration with some of its entries changed, which are not validated. -/
def changed (c : QueryLogConfig) (changes : List (String × Value)) : QueryLogConfig :=
  .ofRecord (c.toRecord.copyWith changes)

/-- The configuration that entries describe. -/
def read (entries : List (String × Value)) : Except Failure QueryLogConfig :=
  ((RecordKind.queryLoggerConfig.construct entries).mapError
    (.refusal RecordKind.queryLoggerConfig.name)).map ofRecord

/-- The configuration that the settings ask for. -/
def ofSettings (s : Settings) : Except Failure QueryLogConfig :=
  read
    [("enabled", .bool s.queryLog.enabled), ("log_to_file", .bool s.queryLog.toFile),
      ("log_to_console", .bool (s.queryLog.resolveToConsole s.isDevelopment)),
      ("log_file_path", .text s.queryLog.path),
      ("slow_query_threshold", .int s.queryLog.slowThreshold),
      ("max_file_size", .int s.queryLog.maxBytes),
      ("backup_count", .int s.queryLog.backupCount),
      ("rotate_on_size", .bool s.queryLog.rotate)]

/-- The file that an enabled log with this configuration writes to. Its folders are made. A limit
that is no number is at fault. -/
def fileTarget (c : QueryLogConfig) (o : Outlets) : Except Fault (List Target) × Outlets :=
  match c.toFile.truthy, c.path with
  | false, _ => (.ok [], o)
  | true, .text path =>
    match o.makeFolders path with
    | (.error f, o) => (.error f, o)
    | (.ok (), o) =>
      (if c.rotate.truthy then
          c.maxBytes.isPositive.map fun _ => [.rotating path c.maxBytes c.backupCount]
        else .ok [.file path], o)
  | true, _ => (.error ⟨.type, ""⟩, o)

/-- Where an enabled log with this configuration writes. -/
def targets (c : QueryLogConfig) (o : Outlets) : Except Fault (List Target) × Outlets :=
  let (files, o) := c.fileTarget o
  (files.map fun files => files ++ (if c.toConsole.truthy then [.console] else []), o)

end QueryLogConfig

/-- How much a query log has been told of. -/
structure Counts where
  queries : Nat
  slowQueries : Nat
  errors : Nat
  deriving DecidableEq, Repr

/-- A query log. -/
structure QueryLog where
  config : QueryLogConfig
  /-- The handlers that the log has made and not closed. -/
  handlers : List Handler
  /-- The handlers that receive its lines. -/
  attached : List Handler
  counts : Counts

/-- Makes a handler for each of the targets. -/
def makeHandlers : List Target → Outlets → List Handler × Outlets
  | [], o => ([], o)
  | t :: ts, o =>
    let (h, o) := o.newHandler t
    let (hs, o) := makeHandlers ts o
    (h :: hs, o)

/-- The values of a statement as a line shows them. Nothing is shown of none. -/
def shownValues (values : Value) : Except Fault String :=
  if values.truthy then do return " | Values: " ++ (← (Value.list (← values.elements)).json)
  else .ok ""

/-- One line of a query log. -/
def queryLogLine (moment : Float) (level : Level) (message : String) (failure : Option Failure) :
    String :=
  withFailure ("[" ++ lineMomentText moment ++ "] [" ++ level.name ++ "] " ++ message)
    (failure.map failureLine)

/-- What came of something that a query log was told to do. -/
structure Told where
  outcome : Except Fault Unit
  log : QueryLog
  outlets : Outlets

namespace QueryLog

/-- Makes the handlers that the configuration asks for and attaches them. -/
def configure (log : QueryLog) (o : Outlets) : Told :=
  match log.config.targets o with
  | (.error f, o) => ⟨.error f, log, o⟩
  | (.ok targets, o) =>
    let (hs, o) := makeHandlers targets o
    ⟨.ok (), { log with handlers := log.handlers ++ hs, attached := log.attached ++ hs }, o⟩

/-- Makes the handlers if the log is enabled. -/
def start (log : QueryLog) (o : Outlets) : Told :=
  if log.config.enabled.truthy then log.configure o else ⟨.ok (), log, o⟩

/-- A new query log. -/
def ofConfig (c : QueryLogConfig) (o : Outlets) : Told := start ⟨c, [], [], ⟨0, 0, 0⟩⟩ o

/-- The log without its handlers. -/
def detached (log : QueryLog) : QueryLog :=
  { log with
    handlers := []
    attached := log.attached.filter fun h => !log.handlers.any (·.number == h.number) }

/-- Detaches all handlers of the log and closes them. -/
def close (log : QueryLog) (o : Outlets) : Told :=
  ⟨.ok (), log.detached, log.handlers.foldl Outlets.close o⟩

/-- Changes the configuration and makes the handlers anew. -/
def update (log : QueryLog) (changes : List (String × Value)) (o : Outlets) : Told :=
  start { log.detached with config := log.config.changed changes }
    (log.handlers.foldl Outlets.close o)

/-- Writes a line to all attached handlers, if the log is enabled and there is a line. -/
def emit (log : QueryLog) (line : Except Fault String) (o : Outlets) : Told :=
  match line with
  | .error f => ⟨.error f, log, o⟩
  | .ok line =>
    if log.config.enabled.truthy then
      let (outcome, o) := o.writeAll line log.attached
      ⟨outcome, log, o⟩
    else ⟨.ok (), log, o⟩

/-- Turns to all attached handlers, if the log is enabled, with a record that has no line. -/
def passOver (log : QueryLog) (o : Outlets) : Told :=
  if log.config.enabled.truthy then
    let (outcome, o) := o.inTurn Outlets.openFor log.attached
    ⟨outcome, log, o⟩
  else ⟨.ok (), log, o⟩

/-- Whether a statement that took so many milliseconds is slow. -/
def isSlow (log : QueryLog) (duration : Value) : Except Fault Bool :=
  if duration.isNull then .ok false else log.config.slowThreshold.less duration

/-- How long a statement took, in front of it. -/
def durationText (duration : Value) : Except Fault String :=
  if duration.isNull then .ok "" else do return "[" ++ (← duration.cents) ++ "ms] "

/-- Logs a statement that was completed. It is counted once it is known whether it was slow. -/
def logQuery (log : QueryLog) (moment : Float) (sql values duration : Value) (o : Outlets) :
    Told :=
  match log.isSlow duration with
  | .error f => ⟨.error f, log, o⟩
  | .ok slow =>
    let counts :=
      { log.counts with
        queries := log.counts.queries + 1
        slowQueries := log.counts.slowQueries + if slow then 1 else 0 }
    let line : Except Fault String := do
      let took ← durationText duration
      let sql ← sql.displayed
      return queryLogLine moment (if slow then .warning else .info)
        (took ++ sql ++ (← shownValues values)) none
    { log with counts := counts }.emit line o

/-- Logs a statement that failed. -/
def logError (log : QueryLog) (moment : Float) (sql : Value) (failure : Failure)
    (values : Value) (o : Outlets) : Told :=
  let line : Except Fault String := do
    let sql ← sql.displayed
    return queryLogLine moment .error
      (sql ++ (← shownValues values) ++ " | Error: " ++ failure.text) (some failure)
  { log with counts := { log.counts with errors := log.counts.errors + 1 } }.emit line o

/-- Logs a message. One that cannot be written is handed on all the same, and each handler passes
it over. -/
def logMessage (log : QueryLog) (moment : Float) (level : Level) (message : Value)
    (o : Outlets) : Told :=
  match message.displayed with
  | .ok text => log.emit (.ok (queryLogLine moment level text none)) o
  | .error _ => log.passOver o

end QueryLog

end SqlComposer.Log
