import SqlComposer.Failure.Fault
import SqlComposer.Log.Entry
import SqlComposer.Record.Issue
import SqlComposer.Text.Trim

/-!
# Query errors

The errors of the library itself. An error has a code out of a fixed list, a message, named
details, the fault that caused it and a mark that says whether another attempt may help. The
message never shows the cause unless the error is made to.

Every error is logged when it is made: `QueryError.entry` is that entry.
-/

set_option autoImplicit false

namespace SqlComposer

/-- What an error is about. -/
inductive ErrorCode where
  | configuration
  | configurationMissing
  | validation
  | invalidIdentifier
  | dangerousPattern
  | placeholderMismatch
  | connection
  | timeout
  | execution
  | queryExecution
  | transaction
  | retryable
  deriving DecidableEq, Repr

namespace ErrorCode

/-- All codes. -/
def all : List ErrorCode :=
  [.configuration, .configurationMissing, .validation, .invalidIdentifier, .dangerousPattern,
    .placeholderMismatch, .connection, .timeout, .execution, .queryExecution, .transaction,
    .retryable]

/-- The code as text: a category and a number. -/
def text : ErrorCode → String
  | .configuration => "CONFIG_001"
  | .configurationMissing => "CONFIG_002"
  | .validation => "VALIDATION_001"
  | .invalidIdentifier => "VALIDATION_004"
  | .dangerousPattern => "VALIDATION_005"
  | .placeholderMismatch => "VALIDATION_006"
  | .connection => "CONNECTION_001"
  | .timeout => "CONNECTION_003"
  | .execution => "EXECUTION_001"
  | .queryExecution => "EXECUTION_002"
  | .transaction => "EXECUTION_006"
  | .retryable => "RETRY_001"

/-- The name of a code. -/
def name : ErrorCode → String
  | .configuration => "CONFIG_ERROR"
  | .configurationMissing => "CONFIG_MISSING"
  | .validation => "VALIDATION_ERROR"
  | .invalidIdentifier => "INVALID_IDENTIFIER"
  | .dangerousPattern => "DANGEROUS_PATTERN"
  | .placeholderMismatch => "PLACEHOLDER_MISMATCH"
  | .connection => "CONNECTION_ERROR"
  | .timeout => "TIMEOUT_ERROR"
  | .execution => "EXECUTION_ERROR"
  | .queryExecution => "QUERY_EXECUTION_ERROR"
  | .transaction => "TRANSACTION_ERROR"
  | .retryable => "RETRYABLE_ERROR"

/-- The code with a text. -/
def ofText? (s : String) : Option ErrorCode := all.find? (·.text == s)

/-- Whether the code says that a statement was rejected before the database saw it. -/
def isValidation : ErrorCode → Bool
  | .validation | .invalidIdentifier | .dangerousPattern | .placeholderMismatch => true
  | _ => false

/-- Whether another attempt may help, unless the error says otherwise. -/
def usuallyRetryable : ErrorCode → Bool
  | .timeout | .retryable => true
  | _ => false

end ErrorCode

/-- An error of the library. -/
structure QueryError where
  message : String
  code : ErrorCode
  details : List (String × Value)
  cause : Option Fault
  retryable : Bool

/-- What a caller can add to an error. -/
structure ErrorContext where
  details : List (String × Value)
  cause : Option Fault
  retryable : Bool

/-- Nothing added. -/
def ErrorContext.empty : ErrorContext := ⟨[], none, false⟩

/-- Only details added. -/
def ErrorContext.ofDetails (details : List (String × Value)) : ErrorContext :=
  ⟨details, none, false⟩

/-- Records a text under a name, unless it is absent or empty. -/
def noteText (name : String) (text : Option String) (details : List (String × Value)) :
    List (String × Value) :=
  match text with
  | none => details
  | some s => if s.isEmpty then details else put name (.text s) details

namespace QueryError

/-- An error with a given code. -/
def make (code : ErrorCode) (message : String) (context : ErrorContext) : QueryError :=
  ⟨message, code, context.details, context.cause, context.retryable⟩

/-- An error about the configuration, naming the key at fault. -/
def configuration (code : ErrorCode) (message : String) (key : Option String)
    (context : ErrorContext) : QueryError :=
  make code message { context with details := noteText "config_key" key context.details }

/-- An error about something rejected before it reached the database, naming the field and
showing the value. -/
def validation (code : ErrorCode) (message : String) (field : Option String) (value : Value)
    (context : ErrorContext) : QueryError :=
  let details := noteText "field" field context.details
  let details := if value.isNull then details else put "value" (.text value.display) details
  make code message { context with details := details }

/-- What is said of a fragment in which a dangerous pattern was found. -/
def dangerMessage (label : String) : String :=
  "Invalid " ++ label ++ ": potentially dangerous pattern detected"

/-- The number of characters of a fragment that its details keep. -/
def longestFragment : Nat := 200

/-- An error about a fragment in which a dangerous pattern was found. -/
def dangerous (label fragment pattern : String) : QueryError :=
  make .dangerousPattern (dangerMessage label)
    (.ofDetails [("fragment", .text (Text.firstChars longestFragment fragment)),
      ("pattern", .text pattern)])

/-- An error about a connection that could not be made. -/
def connection (message : String) (service host : Option String) (context : ErrorContext) :
    QueryError :=
  let details := noteText "host" host (noteText "service" service context.details)
  make .connection message { context with details := details }

/-- What is said in place of a fault's own text. -/
def genericReason : String := "Database error occurred"

/-- The number of characters of a statement that its details keep. -/
def longestStatement : Nat := 500

/-- What is kept of a statement, with dots if there is more. -/
def statementExcerpt (sql : String) : String :=
  if longestStatement < sql.length then Text.firstChars longestStatement sql ++ "..." else sql

/-- An error about a statement that the database refused. The fault's own text is shown only if
`revealing`. -/
def execution (what : String) (fault : Fault) (sql : Option String) (revealing : Bool)
    (context : ErrorContext) : QueryError :=
  let reason := if revealing then fault.text else genericReason
  make .queryExecution (what ++ ": " ++ reason)
    { context with
      details := noteText "query" (sql.map statementExcerpt) context.details
      cause := some fault }

/-- An error about the life of a transaction. -/
def transaction (message : String) (context : ErrorContext) : QueryError :=
  make .transaction message context

/-- The error as a reader sees it. -/
def text (e : QueryError) : String := "[" ++ e.code.text ++ "] " ++ e.message

/-- The logger of errors. -/
def logger : String := "querycraft.common.exceptions"

/-- The entry that is logged when the error is made. -/
def entry (e : QueryError) : Log.Entry :=
  { level := .error
    logger := logger
    message := e.message
    extra :=
      [("error_code", .text e.code.text), ("details", .dict e.details),
        ("is_retryable", .bool e.retryable)]
    failure := e.cause.map (·.kind.name) }

end QueryError

/-- The ways an operation can fail. -/
inductive Failure where
  /-- The library's own rules were broken, or it wraps a fault. -/
  | error (e : QueryError)
  /-- Something outside failed. -/
  | fault (f : Fault)
  /-- Values did not make a record of a kind. -/
  | refusal (title : String) (issues : List Issue)

/-- The name under which a failure is reported. -/
def Failure.name : Failure → String
  | .error _ => "QueryCraftError"
  | .fault f => f.kind.name
  | .refusal .. => "ValidationError"

/-- The name of a failure with what it belongs to, where that is told. -/
def Failure.fullName : Failure → String
  | .error e => "querycraft.common.exceptions." ++ (Failure.error e).name
  | .fault f => f.kind.fullName
  | .refusal title issues => (Failure.refusal title issues).name

/-- The text of a failure. -/
def Failure.text : Failure → String
  | .error e => e.text
  | .fault f => f.text
  | .refusal title issues =>
    "\n".intercalate ((counted issues.length "validation error" ++ " for " ++ title)
      :: issues.map fun i => "  " ++ i.complaint.text)

/-- Whether failure handlers deal with it. -/
def Failure.handled : Failure → Bool
  | .error _ => true
  | .fault f => f.handled
  | .refusal .. => true

/-- A failure that handlers deal with. -/
def HandledFailure : Type := { f : Failure // f.handled = true }

/-- The entries logged because the failure was made. -/
def Failure.entries : Failure → List Log.Entry
  | .error e => [e.entry]
  | .fault _ => []
  | .refusal .. => []

end SqlComposer
