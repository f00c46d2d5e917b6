import SqlComposer.Log.Record
import SqlComposer.Text.Casing

/-!
# The console log

The console writes the records from a level upwards, each in one form: as JSON or as text. Every
record is tagged with its scope before it is written. What goes with a record as extra attributes
must not stand for a part of it.
-/

set_option autoImplicit false

namespace SqlComposer.Log

/-- The console. -/
structure Console where
  /-- The least serious level that is written. -/
  level : Level
  /-- Whether records are written as JSON. -/
  json : Bool

/-- The fault of a level that the console cannot have. -/
def noSuchLevel {α : Type} : Except Fault α :=
  .error ⟨.value, "Unable to configure handler 'console'"⟩

/-- The console for a level given by its name, in upper or lower case. -/
def Console.ofLevelName (name : Value) (json : Bool) : Except Fault Console :=
  match name with
  | .text name => match Level.ofName? (Text.upper name) with
    | some level => .ok ⟨level, json⟩
    | none => noSuchLevel
  | .bytes _ => noSuchLevel
  | _ => .error ⟨.attribute, ""⟩

/-- The console that named arguments ask for: JSON from the level `INFO` upwards unless they say
otherwise. -/
def Console.ofArguments (arguments : List (String × Value)) : Except Fault Console :=
  if arguments.all fun e => ["level", "json_output"].contains e.1 then
    Console.ofLevelName ((lookup? "level" arguments).getD (.text Level.info.name))
      (((lookup? "json_output" arguments).getD (.bool true)).truthy)
  else .error ⟨.type, ""⟩

/-- The name of the logger above all others. -/
def rootLogger : String := "root"

/-- The name of the logger that a name stands for. -/
def loggerName (name : String) : String := if name.isEmpty then rootLogger else name

/-- The record with extra attributes. -/
def Record.withExtra (r : Record) (extra : List (String × Value)) : Except Fault Record :=
  match extra.find? fun e => reservedNames.contains e.1 with
  | some e =>
    .error (.ofKey (.text ("Attempt to overwrite " ++ inspectText e.1 ++ " in LogRecord")))
  | none => .ok (r.withAttributes extra)

/-- Whether the console looks at records of a level. Those without a level are passed over. -/
def Console.takes (c : Console) (level : Level) : Bool :=
  level != .notSet && c.level.rank ≤ level.rank

/-- The text that the console writes for a record with extra attributes, if it writes any. A
record that cannot be written is passed over. -/
def Console.write (c : Console) (s : Scope) (level : Level) (r : Record)
    (extra : List (String × Value)) : Except Fault (Option String) :=
  if c.takes level then do
    let r := (← r.withExtra extra).tagged s
    return (if c.json then r.jsonLine else r.textLine).toOption
  else .ok none

end SqlComposer.Log
