import SqlComposer.Failure.QueryError
import SqlComposer.Log.Moment
import SqlComposer.Log.Template
import SqlComposer.Value.Json
import SqlComposer.Value.Sequence

/-!
# Log records

A log record is what a log writes down: when something was said, how serious it is, who said it,
a message, named attributes, and the failure that it is about. A record is written in one of two
forms: as a line of text, or as a JSON object on one line.

In the JSON object the attributes come first, and then the record's own entries, which win over
attributes of the same name. Some names are never written, because they stand for parts of the
record itself. An attribute of such a name replaces that part, whatever its value is; a record
with a part that cannot be used is not written.
-/

set_option autoImplicit false

namespace SqlComposer.Log

/-- A log record. -/
structure Record where
  /-- Seconds since the start of 1970. -/
  moment : Value
  /-- The name of the level. -/
  level : Value
  logger : Value
  /-- The message, in which what goes with it is still to be filled. -/
  template : Value
  arguments : Value
  attributes : List (String × Value)
  /-- The line about the failure that the record is about, if it is about one. -/
  failure : Except Fault (Option String)

/-- Where the program is when a record is made. -/
structure Scope where
  /-- The operation at hand. -/
  operation : Option String
  /-- The numbers of the trace and of the span that are being recorded. -/
  trace : Option (Nat × Nat)

/-- Nowhere in particular. -/
def Scope.outside : Scope := ⟨none, none⟩

/-- The name of this library in its records. -/
def libraryName : String := "querycraft"

/-- The version of this library. -/
def libraryVersion : String := "0.1.0"

/-- A number in so many hexadecimal digits. -/
def hexText (width n : Nat) : String := String.ofList (hex width n)

/-- What a scope adds to a record. -/
def Scope.attributes (s : Scope) : List (String × Value) :=
  [("operation", .ofText? s.operation),
    ("trace_id", .ofText? (s.trace.map fun t => hexText 32 t.1)),
    ("span_id", .ofText? (s.trace.map fun t => hexText 16 t.2)),
    ("sdk_name", .text libraryName), ("sdk_version", .text libraryVersion)]

/-- The names of attributes that stand for parts of a record. -/
def reservedNames : List String :=
  ["name", "msg", "args", "levelname", "levelno", "pathname", "filename", "module", "exc_info",
    "exc_text", "stack_info", "lineno", "funcName", "created", "msecs", "relativeCreated",
    "thread", "threadName", "processName", "process", "asctime", "message"]

/-- The failure as it stands in a log: its kind and its text. -/
def failureLine (f : Failure) : String :=
  if f.text.isEmpty then f.fullName else f.fullName ++ ": " ++ f.text

/-- The line about what stands in the place of a failure: nothing for what is empty, and that
there is none for a sequence whose second and third elements are null. -/
def failureLineOf (v : Value) : Except Fault (Option String) :=
  if !v.truthy then .ok none
  else do
    match ← v.item 2, ← v.item 1 with
    | .null, .null => return some "NoneType: None"
    | _, _ => throw ⟨.attribute, ""⟩

namespace Record

/-- A record of something said at a moment. Its milliseconds are worked out at once, so that a
moment without whole seconds is at fault. -/
def make (moment : Float) (level logger : String) (template : Value) (values : List Value)
    (failure : Option Failure) : Except Fault Record := do
  let _ ← (Value.float moment).toWhole
  return {
    moment := .float moment
    level := .text (((Level.ofName? level).map Level.name).getD level)
    logger := .text logger
    template := template
    arguments := argumentsOf values
    attributes := []
    failure := .ok (failure.map failureLine) }

/-- The record with one attribute more. An attribute that stands for a part of the record
replaces that part. -/
def withAttribute (r : Record) (name : String) (v : Value) : Record :=
  let noted := { r with attributes := put name v r.attributes }
  match name with
  | "name" => { noted with logger := v }
  | "levelname" => { noted with level := v }
  | "msg" => { noted with template := v }
  | "args" => { noted with arguments := v }
  | "created" => { noted with moment := v }
  | "exc_info" => { noted with failure := failureLineOf v }
  | _ => noted

/-- The record with several attributes more, one after another. -/
def withAttributes (r : Record) (attributes : List (String × Value)) : Record :=
  attributes.foldl (fun r e => r.withAttribute e.1 e.2) r

/-- The record with what its scope adds. -/
def tagged (r : Record) (s : Scope) : Record :=
  { r with attributes := putAll r.attributes s.attributes }

/-- The name by which a record is asked for its message. -/
def messageName : String := "getMessage"

/-- The message with its values filled in. -/
def filled (r : Record) : Except Fault String := do fill (← r.template.displayed) r.arguments

/-- The message as the record tells it. An attribute that stands in its way is at fault. -/
def message (r : Record) : Except Fault String :=
  if (lookup? messageName r.attributes).isSome then .error ⟨.type, ""⟩ else r.filled

/-- The attributes that a line shows. -/
def shownAttributes (r : Record) : List (String × Value) :=
  putAll [] (r.attributes.filter fun e => !reservedNames.contains e.1)

/-- The entries by which another tool names the trace, under this library's names. -/
def traceEntries (r : Record) : List (String × Value) :=
  let rename (name shown : String) : List (String × Value) :=
    match lookup? name r.attributes with
    | some v => [(shown, v)]
    | none => []
  rename "otelTraceID" "trace_id" ++ rename "otelSpanID" "span_id"

/-- The entries of the JSON object, given the date, the message and the line about a failure. -/
def fields (r : Record) (date : DateTime) (message : String) (failure : Option String) :
    List (String × Value) :=
  putAll r.shownAttributes
    ([("timestamp", .text date.momentText), ("level", r.level), ("logger", r.logger),
      ("message", .text message)]
      ++ r.traceEntries
      ++ (match failure with
        | some line => [("exception", .text line)]
        | none => []))

/-- The record as a JSON object on one line. -/
def jsonLine (r : Record) : Except Fault String := do
  let date ← dated r.moment
  let message ← r.message
  (Value.dict (r.fields date message (← r.failure))).json

end Record

/-- A text and, on the next line, the line about the failure it is about. -/
def withFailure (text : String) : Option String → String
  | none => text
  | some line => (if text.endsWith "\n" then text else text ++ "\n") ++ line

/-- The record as text. -/
def Record.textLine (r : Record) : Except Fault String := do
  let message ← r.message
  let moment := (r.moment.amount?.map (·.toFloat)).getD 0.0
  let level ← r.level.displayed
  let logger ← r.logger.displayed
  return withFailure
    (lineMomentText moment ++ " " ++ level ++ " " ++ logger ++ ": " ++ message) (← r.failure)

end SqlComposer.Log
