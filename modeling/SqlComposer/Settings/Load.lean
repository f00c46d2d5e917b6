import SqlComposer.Settings.Basic
import SqlComposer.Failure.QueryError
import SqlComposer.Value.Json

/-!
# Loading all settings

All settings are read at once. Each group reads its own variables. Besides, a variable with the
name of a group can hold some of its values as a JSON object, and a variable whose name is the
name of the group, two underscores and the name of a field can hold one; these win over the
group's own variables.
-/

set_option autoImplicit false

namespace SqlComposer.Settings

open SqlComposer.Text

mutual

/-- The first value laid over the second: two dictionaries are joined, and otherwise the first
stands. -/
def overlay : (upper lower : Value) → Value
  | .dict es, .dict bs => .dict (overlayEntries es bs)
  | v, _ => v

/-- All entries laid over a dictionary. -/
def overlayEntries : (upper lower : List (String × Value)) → List (String × Value)
  | [], bs => bs
  | (k, v) :: es, bs => overlayEntries es (put k (overlay v ((lookup? k bs).getD .null)) bs)

end

/-- Puts a value where a path of keys leads, through dictionaries that are made on the way. A
path that leads through something else leads nowhere. -/
def putAt : List String → Value → List (String × Value) → List (String × Value)
  | [], _, es => es
  | [key], v, es => put key v es
  | key :: path, v, es =>
    match lookup? key es with
    | none => put key (.dict (putAt path v [])) es
    | some (.dict inner) => put key (.dict (putAt path v inner)) es
    | some _ => es

/-- What stands between a name and the name of a part of it. -/
def partMark : String := "__"

/-- The values of the parts of a name: of the variables that go on after it with the mark. -/
def partsOf (vars : Variables) (name : String) : List (String × Value) :=
  let lead := (name ++ partMark).toList
  vars.foldl
    (fun es b =>
      if lead.isPrefixOf b.1.toList then
        let path := (String.ofList (b.1.toList.drop lead.length)).splitOn partMark
        putAt path (.ofText? b.2) es
      else es) []

/-- Names as the group spells them. -/
def respelled (g : Group) : Value → Value
  | .dict es => .dict (putAll [] (es.map fun e => (g.spelling e.1, e.2)))
  | v => v

/-- What one source says of a group by its name, if anything. -/
def namedValue? (g : Group) (name : String) (source : String) (vars : Variables) :
    Except Fault (Option Value) :=
  match valueOf? vars name with
  | none =>
    let es := partsOf vars name
    .ok (if es.isEmpty then none else some (respelled g (.dict es)))
  | some text =>
    match Value.ofJson? text with
    | none =>
      .error ⟨.settings,
        "error parsing value for field \"" ++ name ++ "\" from source \"" ++ source ++ "\""⟩
    | some .null => .ok none
    | some (.dict es) =>
      .ok (some (respelled g (.dict (overlayEntries (partsOf vars name) es))))
    | some v => .ok (some v)

/-- The groups that can be given by name. -/
def namedGroups : List (String × Group) := [("database", .database), ("query_log", .queryLog)]

/-- What one source says of all groups by name. -/
def namedValues (source : String) (vars : Variables) : Except Fault (List (String × Value)) := do
  let found ← namedGroups.mapM fun (name, g) => do
    return (name, ← namedValue? g name source vars)
  return found.filterMap fun (name, v) => v.map (name, ·)

/-- How a group turned out. -/
inductive GroupOutcome where
  | good (record : Value)
  /-- What was given for it by name is at fault. -/
  | badPart (issues : List Issue)
  /-- Its own variables are at fault. -/
  | bad (g : Group) (issues : List Issue)

/-- The group under a name, of which `given` was said by name. -/
def readNamed (g : Group) (name : String) (sources : Sources) (given : Option Value) :
    GroupOutcome :=
  match given with
  | none => match g.read sources [] with
    | .ok r => .good r
    | .error issues => .bad g issues
  | some v =>
    let part := match v with
      | .dict args => g.read sources args
      | _ => complain (.notRecord g.kind.name)
    match part with
    | .ok r => .good r
    | .error issues => .badPart (issues.map (Issue.under (.name name)))

/-- The issues of what was given by name. -/
def GroupOutcome.issues : GroupOutcome → List Issue
  | .badPart issues => issues
  | _ => []

/-- The record of a group that turned out well. -/
def GroupOutcome.record : GroupOutcome → Value
  | .good r => r
  | _ => .null

/-- The failure of a group whose own variables are at fault. -/
def GroupOutcome.failure? : GroupOutcome → Option Failure
  | .bad g issues => some (.refusal g.kind.name issues)
  | _ => none

/-- Loads all settings. -/
def load (sources : Sources) : Except Failure Settings := do
  let upper ← (namedValues "EnvSettingsSource" sources.environment).mapError Failure.fault
  let lower ← (namedValues "DotEnvSettingsSource" sources.file).mapError Failure.fault
  let named := overlayEntries upper lower
  let app := Group.app.read sources []
  let database := readNamed .database "database" sources (lookup? "database" named)
  let queryLog := readNamed .queryLog "query_log" sources (lookup? "query_log" named)
  if let some f := database.failure?.or queryLog.failure? then throw f
  let issues := database.issues ++ queryLog.issues
  match app with
  | .error more => throw (.refusal RecordKind.settings.name (more ++ issues))
  | .ok r =>
    if issues.isEmpty then
      return ⟨.ofRecord r, .ofRecord database.record, .ofRecord queryLog.record⟩
    else throw (.refusal RecordKind.settings.name issues)

end SqlComposer.Settings
