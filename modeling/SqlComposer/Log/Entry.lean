import SqlComposer.Value

/-!
# Log entries

What the library tells its logs: a level, the logger that speaks, a message, named extra
attributes, and the kind of the failure at hand, if any.
-/

set_option autoImplicit false

namespace SqlComposer.Log

/-- How serious a log entry is. -/
inductive Level where
  | notSet
  | debug
  | info
  | warning
  | error
  | critical
  deriving DecidableEq, Repr

/-- The number by which levels are compared. -/
def Level.rank : Level → Nat
  | .notSet => 0
  | .debug => 10
  | .info => 20
  | .warning => 30
  | .error => 40
  | .critical => 50

/-- The name of a level in a log line. -/
def Level.name : Level → String
  | .notSet => "NOTSET"
  | .debug => "DEBUG"
  | .info => "INFO"
  | .warning => "WARNING"
  | .error => "ERROR"
  | .critical => "CRITICAL"

/-- The level with a name. `FATAL` and `WARN` are other names of two of the levels. -/
def Level.ofName? : String → Option Level
  | "NOTSET" => some .notSet
  | "DEBUG" => some .debug
  | "INFO" => some .info
  | "WARN" => some .warning
  | "WARNING" => some .warning
  | "ERROR" => some .error
  | "FATAL" => some .critical
  | "CRITICAL" => some .critical
  | _ => none

/-- One entry of the library's own log. -/
structure Entry where
  level : Level
  /-- The logger's name. -/
  logger : String
  message : String
  /-- Named attributes in addition to the message. -/
  extra : List (String × Value)
  /-- The kind of the failure that the entry is about. -/
  failure : Option String

end SqlComposer.Log
