import SqlComposer.Record.Validate
import SqlComposer.Failure.QueryError
import SqlComposer.Value.Sequence

/-!
# Changing records

A field of a record can be assigned: the new value is validated like a given one, and the field
counts as given from then on. A record can also be copied with changed fields; then nothing is
validated, and the copy may hold anything. Records inside records are reached by paths.
-/

set_option autoImplicit false

namespace SqlComposer

/-- The name added to those given, unless it is among them. -/
def addGiven (given : List String) (name : String) : List String :=
  if given.contains name then given else given ++ [name]

/-- The names that a kind of records answers to besides its fields. They cannot be assigned. -/
def RecordKind.derived : RecordKind → List String
  | .queryConfig => ["tables", "group_by_columns"]
  | .createTableConfig => ["primary_key_columns"]
  | .columnOptions => ["has_default"]
  | _ => []

/-- The names that every record answers to besides its fields. They cannot be assigned. -/
def commonNames : List String := ["model_fields_set", "model_extra"]

/-- A text as the only one, or what another value yields. -/
def listed : Value → Except Fault Value
  | .text s => .ok (.list [.text s])
  | v => v.elements.map .list

/-- What a record answers to besides its fields. A copy may hold what cannot be listed. -/
def Value.derivedFields : Value → Except Fault (List (String × Value))
  | .record .queryConfig fields _ => do
    let tables ← listed ((lookup? "table" fields).getD .null)
    let groups ← (match (lookup? "group_by" fields).getD .null with
      | .null => .ok (.list [])
      | v => listed v)
    return [("tables", tables), ("group_by_columns", groups)]
  | .record .createTableConfig fields _ => do
    return [("primary_key_columns", ← listed ((lookup? "primary_key" fields).getD .null))]
  | .record .columnOptions _ given => .ok [("has_default", .bool (given.contains "default"))]
  | _ => .ok []

/-- The declared fields of a record, in order. -/
def Value.declaredFields : Value → List (String × Value)
  | .record kind fields _ => kind.fields.map fun d => (d.name, (lookup? d.name fields).getD .null)
  | _ => []

/-- What a record has under a name. -/
def Value.attribute (v : Value) (name : String) : Except Fault Value :=
  match v with
  | .record _ fields _ =>
    match lookup? name fields with
    | some w => .ok w
    | none => do
      match lookup? name (← v.derivedFields) with
      | some w => .ok w
      | none => .error ⟨.attribute, ""⟩
  | _ => .error ⟨.attribute, ""⟩

/-- Whether a name is private: it can be assigned to any record and changes nothing. -/
def isPrivate (name : String) : Bool := name.toList.head? == some '_'

/-- What came of an assignment: the record as it is now, and why it failed, if it did. -/
structure Assignment where
  record : Value
  failure : Option Failure

/-- What is wrong with a record as a whole after an assignment. A copy may hold a type that is no
name of one, or something else in place of the options of a column. -/
def RecordKind.failureOnAll (kind : RecordKind) (fields : List (String × Value)) : Option Failure :=
  let type := (lookup? "type" fields).getD .null
  let options := (lookup? "options" fields).getD .null
  match kind, options with
  | .columnSpec, .record .columnOptions .. =>
    if type.canBeKey then refusal else some (.fault ⟨.type, ""⟩)
  | .columnSpec, _ =>
    if !type.canBeKey then some (.fault ⟨.type, ""⟩)
    else if takesValues type then some (.fault ⟨.attribute, ""⟩)
    else none
  | _, _ => refusal
where
  /-- The refusal by the rule on the whole. -/
  refusal : Option Failure :=
    (kind.ruleOnAll fields).map fun r => .refusal kind.name [.here (.unacceptable r)]

/-- Assigns a field. A refused value leaves the record as it was, except that the rule on the
record as a whole looks at the changed record, which stays changed. -/
def Value.assign (v : Value) (name : String) (new : Value) : Except Fault Assignment :=
  match v with
  | .record kind fields given =>
    match kind.fields.find? (·.name == name) with
    | none =>
      if isPrivate name then .ok ⟨v, none⟩
      else if (kind.derived ++ commonNames).contains name then .error ⟨.attribute, ""⟩
      else .ok ⟨v, some (.refusal kind.name [⟨[.name name], .unknownField name⟩])⟩
    | some d =>
      match Checked.under (.name name) (d.judge (d.type.validate (kind.roomInside mostNested) new))
        with
      | .error issues => .ok ⟨v, some (.refusal kind.name issues)⟩
      | .ok w =>
        let changed := put name w fields
        .ok ⟨.record kind changed (addGiven given name), kind.failureOnAll changed⟩
  | _ => .error ⟨.attribute, ""⟩

/-- A copy of a record with some fields changed. Nothing is validated. -/
def Value.copyWith (update : List (String × Value)) : Value → Value
  | .record kind fields given =>
    .record kind (putAll fields update) ((update.map (·.1)).foldl addGiven given)
  | v => v

/-- A step into a value. -/
inductive Inward where
  /-- To the entry of a dictionary or the field of a record. -/
  | name (name : String)
  /-- To an element by its position; a negative one counts from the end. -/
  | index (i : Int)
  deriving DecidableEq, Repr

/-- The value a step away. -/
def Value.inward (v : Value) : Inward → Except Fault Value
  | .index i => v.item i
  | .name n =>
    match v with
    | .dict entries => match lookup? n entries with
      | some w => .ok w
      | none => .error (.ofKey (.text n))
    | v => v.attribute n

/-- A value in which what is a step away has been replaced. Only dictionaries, records, lists and
tuples can change that way. -/
def Value.replaced (v : Value) (step : Inward) (new : Value) : Value :=
  let exchanged (items : List Value) (i : Int) : List Value :=
    match position? items.length i with
    | some k => items.set k new
    | none => items
  match step, v with
  | .name n, .dict entries => .dict (put n new entries)
  | .name n, .record kind fields given =>
    if (lookup? n fields).isSome then .record kind (put n new fields) given else v
  | .index i, .list items => .list (exchanged items i)
  | .index i, .tuple items => .tuple (exchanged items i)
  | _, _ => v

/-- Assigns a field of the record that a path leads to. -/
def Value.assignAt (v : Value) (name : String) (new : Value) : List Inward → Except Fault Assignment
  | [] => v.assign name new
  | step :: path => do
    let inner ← (← v.inward step).assignAt name new path
    return { inner with record := v.replaced step inner.record }

end SqlComposer
