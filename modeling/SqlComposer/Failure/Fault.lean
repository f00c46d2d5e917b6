import SqlComposer.Value.Text

/-!
# Faults

Failures that come from outside the library's own rules: a driver that reports a lost
connection, a callback that gives up, a value of a type that cannot be written. A fault has a
kind and a text. Only the kinds matter to the library: the operational kind is worth another
attempt, and a cancellation is never handled as a failure.
-/

set_option autoImplicit false

namespace SqlComposer

/-- The kinds of faults. -/
inductive FaultKind where
  /-- A value is not acceptable. -/
  | value
  /-- Something went wrong at run time. -/
  | runtime
  /-- A key is missing. -/
  | key
  /-- A value has a type that cannot be used. -/
  | type
  /-- A key or an index is missing. -/
  | lookup
  /-- An index is out of range. -/
  | index
  /-- A value does not have the attribute asked for. -/
  | attribute
  /-- The database could not be reached or broke off. -/
  | operational
  /-- The database interface was given something it cannot use. -/
  | programming
  /-- Settings could not be read. -/
  | settings
  /-- The task was cancelled. -/
  | cancelled
  /-- A driver that is not installed. -/
  | noSuchModule
  /-- A driver that cannot be used for this purpose. -/
  | invalidRequest
  /-- A module that is not installed. -/
  | moduleNotFound
  /-- A malformed driver name. -/
  | argument
  /-- A number out of range. -/
  | overflow
  /-- A decimal number that cannot be worked with. -/
  | invalidNumber
  /-- A decimal number beyond all bounds. -/
  | decimalOverflow
  /-- Something does not fit into memory. -/
  | memory
  /-- The operating system refused something. -/
  | system
  /-- A file stands where a folder is to be made. -/
  | fileExists
  /-- A file stands where a folder is to be. -/
  | notFolder
  /-- A folder stands where a file is to be. -/
  | isFolder
  deriving DecidableEq, Repr

/-- The name under which a kind is reported. -/
def FaultKind.name : FaultKind → String
  | .value => "ValueError"
  | .runtime => "RuntimeError"
  | .key => "KeyError"
  | .type => "TypeError"
  | .lookup => "LookupError"
  | .index => "IndexError"
  | .attribute => "AttributeError"
  | .operational => "OperationalError"
  | .programming => "ProgrammingError"
  | .settings => "SettingsError"
  | .cancelled => "CancelledError"
  | .noSuchModule => "NoSuchModuleError"
  | .invalidRequest => "InvalidRequestError"
  | .moduleNotFound => "ModuleNotFoundError"
  | .argument => "ArgumentError"
  | .overflow => "OverflowError"
  | .invalidNumber => "InvalidOperation"
  | .decimalOverflow => "Overflow"
  | .memory => "MemoryError"
  | .system => "OSError"
  | .fileExists => "FileExistsError"
  | .notFolder => "NotADirectoryError"
  | .isFolder => "IsADirectoryError"

/-- The name of a kind with what it belongs to, where that is told. -/
def FaultKind.fullName : FaultKind → String
  | .cancelled => "asyncio.exceptions." ++ FaultKind.cancelled.name
  | kind => kind.name

/-- All kinds of faults. -/
def FaultKind.all : List FaultKind :=
  [.value, .runtime, .key, .type, .lookup, .index, .attribute, .operational, .programming,
    .settings, .cancelled, .noSuchModule, .invalidRequest, .moduleNotFound, .argument, .overflow,
    .invalidNumber, .decimalOverflow, .memory, .system, .fileExists, .notFolder, .isFolder]

/-- The kind that is reported under a name. -/
def FaultKind.ofName? (name : String) : Option FaultKind := all.find? (·.name == name)

/-- The kinds that count as a kind, apart from itself: a missing key or index is a failed lookup. -/
def FaultKind.special : FaultKind → List FaultKind
  | .lookup => [.key, .index]
  | .system => [.fileExists, .notFolder, .isFolder]
  | .value => [.settings]
  | .argument => [.noSuchModule]
  | _ => []

/-- Whether a fault of the first kind counts as one of the second. -/
def FaultKind.isA (kind general : FaultKind) : Bool :=
  kind == general || general.special.contains kind

/-- A failure from outside: its kind and its text. -/
structure Fault where
  kind : FaultKind
  text : String
  deriving DecidableEq, Repr

/-- The fault of a key that is missing. Its text shows the key. -/
def Fault.ofKey (key : Value) : Fault := ⟨.key, key.inspect⟩

/-- A fault that says something. What is said of a missing key is shown in quotes. -/
def Fault.saying (kind : FaultKind) (message : Value) : Fault :=
  match kind with
  | .key => .ofKey message
  | _ => ⟨kind, message.display⟩

/-- Whether failure handlers deal with the fault. A cancellation passes through them. -/
def Fault.handled (f : Fault) : Bool := f.kind != .cancelled

end SqlComposer
