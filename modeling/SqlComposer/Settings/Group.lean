import SqlComposer.Record.Validate
import SqlComposer.Settings.EnvFile

/-!
# Groups of settings

A group of settings is a record whose fields are read from named variables. The name of a
variable begins with the group's lead and goes on with the name of the field; some fields have
other names besides, which come first. Upper and lower case do not matter in the names of
variables.

A value that is given directly wins over the environment, the environment wins over the
environment file, and a field that nobody gives has its default.
-/

set_option autoImplicit false

namespace SqlComposer.Settings

open SqlComposer.Text

/-- Texts under names in small letters. A name can stand without a text. -/
abbrev Variables := List Binding

/-- Variables from bindings whose names are in any case; of two that differ in case only the
later counts. -/
def Variables.ofBindings (bindings : List Binding) : Variables :=
  putAll [] (bindings.map fun b => (lower b.1, b.2))

/-- The text of a variable. -/
def valueOf? (vars : Variables) (name : String) : Option String :=
  (lookup? (lower name) vars).join

/-- Where settings come from besides what is given directly. -/
structure Sources where
  environment : Variables
  file : Variables

/-- The sources of an environment and the text of an environment file. -/
def Sources.ofTexts (environment : List (String × String)) (file : Option String) : Sources :=
  ⟨.ofBindings (environment.map fun e => (e.1, some e.2)),
    .ofBindings ((file.map (readEnvFile environment)).getD [])⟩

/-- The sources, the one that wins first. -/
def Sources.layers (s : Sources) : List Variables := [s.environment, s.file]

/-- A group of settings. -/
structure Group where
  kind : RecordKind
  /-- What the names of its variables begin with. -/
  lead : String
  /-- Other names of some fields, for each the preferred one first. -/
  aliases : List (String × List String)

namespace Group

/-- The connection to the database. -/
def database : Group := ⟨.databaseSettings, "DB_", [("password", ["DB_PASS", "DB_PASSWORD"])]⟩

/-- The query log. -/
def queryLog : Group :=
  ⟨.queryLogSettings, "QUERY_LOG_",
    [("enabled", ["QUERY_LOGGING_ENABLED"]),
      ("slow_query_threshold_ms", ["SLOW_QUERY_THRESHOLD"])]⟩

/-- What belongs to no other group. -/
def app : Group := ⟨.appSettings, "", []⟩

/-- The other names of a field. -/
def aliasesOf (g : Group) (field : String) : List String := (lookup? field g.aliases).getD []

/-- The last value that is given directly under a name, in whatever case. -/
def argument? (args : List (String × Value)) (name : String) : Option Value :=
  (args.reverse.find? fun e => lower e.1 == lower name).map (·.2)

/-- The value given directly for a field, and the name it goes by: the preferred one of its other
names, if it was given under one of these, or else its own. -/
def ofArguments? (g : Group) (args : List (String × Value)) (field : String) :
    Option (String × Value) :=
  let aliases := g.aliasesOf field
  match aliases.findSome? (argument? args), aliases with
  | some v, preferred :: _ => some (preferred, v)
  | _, _ => (argument? args field).map (field, ·)

/-- The text that the variables give for a field, and the name it goes by. -/
def ofVariables? (g : Group) (sources : Sources) (field : String) : Option (String × Value) :=
  let aliases := g.aliasesOf field
  let byAlias := sources.layers.findSome? fun vars => aliases.findSome? (valueOf? vars)
  match byAlias, aliases with
  | some text, preferred :: _ => some (preferred, .text text)
  | _, _ =>
    (sources.layers.findSome? fun vars => valueOf? vars (g.lead ++ field)).map
      fun text => (field, .text text)

/-- What is given for a field, from whichever side. -/
def find? (g : Group) (sources : Sources) (args : List (String × Value)) (field : String) :
    Option (String × Value) :=
  (g.ofArguments? args field).or (g.ofVariables? sources field)

/-- One field of a group. -/
def readField (g : Group) (sources : Sources) (args : List (String × Value)) (d : FieldDef) :
    Checked (String × Value) :=
  match g.find? sources args d.name with
  | some (name, v) =>
    Checked.under (.name name) ((d.judge (d.type.validate mostNested v)).map (d.name, ·))
  | none => match d.default with
    | some v => .ok (d.name, v)
    | none => Checked.under (.name d.name) (complain .missing)

/-- The record of a group. -/
def read (g : Group) (sources : Sources) (args : List (String × Value)) : Checked Value :=
  match gather (g.kind.fields.map (g.readField sources args)) with
  | .ok fields =>
    .ok (.record g.kind fields
      ((g.kind.fields.map (·.name)).filter fun n => (g.find? sources args n).isSome))
  | .error issues => .error issues

/-- The spelling of a name that the group knows in another case; any other name as it is. -/
def spelling (g : Group) (name : String) : String :=
  let names := g.kind.fields.flatMap fun d =>
    match g.aliasesOf d.name with
    | [] => [d.name]
    | aliases => aliases
  (names.find? fun n => lower n == lower name).getD name

end Group

end SqlComposer.Settings
