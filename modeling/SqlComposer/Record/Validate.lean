import SqlComposer.Record.Issue
import SqlComposer.Record.Schema
import SqlComposer.Number.Reading
import SqlComposer.Value.Text

/-!
# Validation

`FieldType.validate` turns a value into one of a type, or says what is wrong with it. It is
lenient where nothing is lost: a text of digits is a number, a one is a boolean, a dictionary is
a record. All issues of a value are found, not only the first.

Where several types are allowed, an exact fit wins. Among types that fit otherwise, the record
that takes in more of the given fields wins, and then the earlier one. If none fits, the issues
of all of them are told.
-/

set_option autoImplicit false

namespace SqlComposer

open SqlComposer.Text SqlComposer.Number

/-- The outcome of looking at a value. -/
abbrev Checked (α : Type) := Except (List Issue) α

/-- A single issue of the value at hand. -/
def complain {α : Type} (complaint : Complaint) : Checked α := .error [.here complaint]

/-- Outcomes one step further away. -/
def Checked.under {α : Type} (step : Step) : Checked α → Checked α
  | .ok a => .ok a
  | .error issues => .error (issues.map (Issue.under step))

/-- All results, or all issues of all outcomes. -/
def gather {α : Type} : List (Checked α) → Checked (List α)
  | [] => .ok []
  | .ok a :: rest => match gather rest with
    | .ok as => .ok (a :: as)
    | .error issues => .error issues
  | .error issues :: rest => match gather rest with
    | .ok _ => .error issues
    | .error more => .error (issues ++ more)

/-- The texts that stand for true. -/
def truthWords : List String := ["1", "on", "t", "true", "y", "yes"]

/-- The texts that stand for false. -/
def falsehoodWords : List String := ["0", "off", "f", "false", "n", "no"]

/-- The text that octets encode. -/
def decodedText? (octets : List UInt8) : Option String := String.fromUTF8? ⟨octets.toArray⟩

/-- A value as a text. -/
def readText : Value → Checked String
  | .text s => .ok s
  | .bytes bs => match decodedText? bs with
    | some s => .ok s
    | none => complain .unreadableText
  | _ => complain .notText

/-- A text or octets as a text, something else as nothing, and octets that encode no text as a
complaint. -/
def asReadable (unreadable : Complaint) : Value → Checked (Option String)
  | .text s => .ok (some s)
  | .bytes bs => match decodedText? bs with
    | some s => .ok (some s)
    | none => complain unreadable
  | _ => .ok none

/-- The whole numbers that are told from numbers in general lie within this magnitude. -/
def wordLimit : Nat := twoTo 63

/-- A double as a whole number. -/
def wholeOfFloat (x : Float) : Checked Int :=
  match Binary.ofFloat? x with
  | none => complain .notFinite
  | some b =>
    if !b.isWhole then complain .fractionalInteger
    else if b.truncate.natAbs < wordLimit then .ok b.truncate
    else complain .integerTooLong

/-- A decimal as a whole number. -/
def wholeOfDecimal (d : Decimal) : Checked Int :=
  match d.truncate? with
  | none => complain .notFinite
  | some n => if d.isWhole then .ok n else complain .fractionalInteger

/-- A number as a boolean. What is no whole number of ordinary size does not even look like
one. -/
def truthOfFloat (x : Float) : Checked Bool :=
  match wholeOfFloat x with
  | .ok n => if n = 0 then .ok false else if n = 1 then .ok true else complain .unreadableBoolean
  | .error _ => complain .notBoolean

/-- A text as a boolean. -/
def truthOfText (s : String) : Checked Bool :=
  let word := lowerAscii s
  if truthWords.contains word then .ok true
  else if falsehoodWords.contains word then .ok false
  else complain .unreadableBoolean

/-- A value as a boolean. -/
def readBoolean (v : Value) : Checked Bool :=
  match asReadable .unreadableBoolean v with
  | .error issues => .error issues
  | .ok (some s) => truthOfText s
  | .ok none => match v with
    | .bool b => .ok b
    | .int n =>
      if n = 0 then .ok false
      else if n = 1 then .ok true
      else if -(wordLimit : Int) ≤ n && n < wordLimit then complain .unreadableBoolean
      else complain .notBoolean
    | .float x => truthOfFloat x
    | .decimal d => match d.toFloat? with
      | some x => truthOfFloat x
      | none => complain .notBoolean
    | _ => complain .notBoolean

/-- A value as a whole number. -/
def readInteger (v : Value) : Checked Int :=
  match asReadable .unreadableInteger v with
  | .error issues => .error issues
  | .ok (some s) => match readInt s with
    | .ok n => .ok n
    | .error .malformed => complain .unreadableInteger
    | .error .tooLong => complain .integerTooLong
  | .ok none => match v with
    | .bool b => .ok (if b then 1 else 0)
    | .int n => .ok n
    | .float x => wholeOfFloat x
    | .decimal d => wholeOfDecimal d
    | _ => complain .notInteger

/-- A value as a double. A whole number beyond the doubles is none. -/
def readNumber (v : Value) : Checked Float :=
  match asReadable .unreadableNumber v with
  | .error issues => .error issues
  | .ok (some s) => match readLooseFloat? s with
    | some x => .ok x
    | none => complain .unreadableNumber
  | .ok none => match v with
    | .bool b => .ok (if b then 1.0 else 0.0)
    | .int n => if isFinite (ofInt n) then .ok (ofInt n) else complain .notNumber
    | .float x => .ok x
    | .decimal d => match d.toFloat? with
      | some x => .ok x
      | none => complain .notNumber
    | _ => complain .notNumber

/-- A whole number within bounds. -/
def withinBounds (least most : Option Int) (n : Int) : Checked Int :=
  match least, most with
  | some lo, some hi =>
    if n < lo then complain (.below lo) else if hi < n then complain (.above hi) else .ok n
  | some lo, none => if n < lo then complain (.below lo) else .ok n
  | none, some hi => if hi < n then complain (.above hi) else .ok n
  | none, none => .ok n

/-- A double that is not below a bound. What is not a number is. -/
def notBelow (least : Option Int) (x : Float) : Checked Float :=
  match least with
  | some lo => if ofInt lo ≤ x then .ok x else complain (.below lo)
  | none => .ok x

/-- The name that a value stands for: a text in form, or octets as the text they encode, which is
left as it is. -/
def Tidying.applyTo (tidying : Tidying) : Value → Option String
  | .text s => some (tidying.apply s)
  | .bytes bs => decodedText? bs
  | _ => none

/-- How well a value goes with a type that it can be read as: 2 if it has the type exactly, 1 if
it is a number for a type of numbers, 0 otherwise. -/
def FieldType.closeness : FieldType → Value → Nat
  | .text _, .text _ => 2
  | .integer _ _, .int _ => 2
  | .number _, .float _ => 2
  | .boolean, .bool _ => 2
  | .number _, .decimal _ => 1
  | _, _ => 0

/-- The number of fields that a record was given. -/
def givenCount : Value → Nat
  | .record _ _ given => given.length
  | _ => 0

/-- Of two results the one that was given more fields; the first of equals. -/
def fuller (a b : Value) : Value := if givenCount a < givenCount b then b else a

/-- Chooses among the outcomes of several types, each with its label. -/
def chooseMember (v : Value) (outcomes : List (String × FieldType × Checked Value)) :
    Checked Value :=
  let ofCloseness (n : Nat) := outcomes.find? fun o => o.2.1.closeness v == n && o.2.2.isOk
  let results := outcomes.filterMap fun o => o.2.2.toOption
  match (ofCloseness 2).or (ofCloseness 1), results with
  | some o, _ => o.2.2
  | none, first :: rest => .ok (rest.foldl fuller first)
  | none, [] => .error (outcomes.flatMap fun o => match o.2.2 with
    | .ok _ => []
    | .error issues => issues.map (Issue.under (.name o.1)))

/-- Whether a text is digits, or digits, a comma with any blanks around it, and digits. -/
def isLength (text : String) : Bool :=
  let cs := trimBy isBlank text.toList
  let first := cs.takeWhile isDigit
  let rest := cs.dropWhile isDigit
  !first.isEmpty && (rest.isEmpty || match rest.dropWhile isBlank with
    | ',' :: more =>
      let second := more.dropWhile isBlank
      !second.isEmpty && second.all isDigit
    | _ => false)

/-- A text without its spaces. -/
def withoutSpaces (s : String) : String := String.ofList (s.toList.filter (· != ' '))

/-- Applies a rule to a value that has the right type. -/
def FieldRule.apply : FieldRule → Value → Except String Value
  | .anything, v => .ok v
  | .tables, .text s => if s.isEmpty then .error "table cannot be empty" else .ok (.text s)
  | .tables, .list xs =>
    if xs.isEmpty || xs.any (!·.truthy) then
      .error "table list must contain at least one non-empty name"
    else .ok (.list xs)
  | .tables, v => .ok v
  | .fields, v =>
    if v.truthy then .ok v else .error "fields must define at least one output column"
  | .finite, .float x =>
    if isFinite x then .ok (.float x) else .error "limit and offset must be finite numbers"
  | .finite, v => .ok v
  | .length, .int n => if n ≤ 0 then .error "length must be positive" else .ok (.int n)
  | .length, .text s =>
    if isLength s then .ok (.text (withoutSpaces s))
    else .error ("Invalid length '" ++ s ++ "'. Expected 'n' or 'precision,scale'.")
  | .length, v => .ok v
  | .primaryKey, v => if v.truthy then .ok v else .error "primary_key cannot be empty"
  | .logLevel, .text s =>
    let level := upper s
    if ["DEBUG", "INFO", "WARNING", "ERROR", "CRITICAL"].contains level then .ok (.text level)
    else .error ("Invalid log level '" ++ s ++ "'")
  | .logLevel, v => .ok v

/-- Applies the rule of a field to the outcome of its type. -/
def FieldDef.judge (d : FieldDef) : Checked Value → Checked Value
  | .ok v => match d.rule.apply v with
    | .ok w => .ok w
    | .error reason => complain (.unacceptable reason)
  | .error issues => .error issues

/-- Whether a value is the name of a column type that takes a list of values. -/
def takesValues (type : Value) : Bool :=
  type.text?.any fun name => ColumnType.all.any fun t => t.hasValues && t.name == name

/-- The rule on a record as a whole: a column whose type takes a list of values has one. -/
def RecordKind.ruleOnAll (kind : RecordKind) (fields : List (String × Value)) : Option String :=
  match kind with
  | .columnSpec =>
    let type := (lookup? "type" fields).getD .null
    let name := (lookup? "name" fields).getD .null
    let values := ((lookup? "options" fields).bind (Value.get? "enum")).getD .null
    if takesValues type && !values.truthy then
      some ("Column '" ++ name.display ++ "' of type " ++ type.display
        ++ " requires options.enum values")
    else none
  | _ => none

/-- A record of the given fields, if the rule on the whole allows it. -/
def finishRecord (kind : RecordKind) (fields : List (String × Value)) (given : List String) :
    Checked Value :=
  match kind.ruleOnAll fields with
  | some reason => complain (.unacceptable reason)
  | none => .ok (.record kind fields given)

/-- The value under a key is smaller than the dictionary. -/
theorem sizeOf_lookup? {key : String} {entries : List (String × Value)} {v : Value}
    (h : lookup? key entries = some v) : sizeOf v < sizeOf entries := by
  induction entries with
  | nil => simp [lookup?] at h
  | cons e rest ih =>
    obtain ⟨k, a⟩ := e
    simp only [lookup?] at h
    split at h
    · cases h; simp; omega
    · have := ih h; simp; omega

/-- The most records of one kind that may stand inside one another. -/
def mostNested : Nat := 255

/-- How many more records may stand inside a record for which there is room. -/
def RecordKind.roomInside (kind : RecordKind) (room : Nat) : Nat :=
  if kind.nests then room - 1 else room

/-- Turns a value into one of the type. `room` says how many records of a kind that nests may
still stand inside one another. -/
def FieldType.validate (t : FieldType) (room : Nat) (v : Value) : Checked Value :=
  match t with
  | .any => .ok v
  | .text least => match readText v with
    | .ok s => if s.length < least then complain (.textTooShort least) else .ok (.text s)
    | .error issues => .error issues
  | .integer least most => match readInteger v with
    | .ok n => (withinBounds least most n).map .int
    | .error issues => .error issues
  | .number least => match readNumber v with
    | .ok x => (notBelow least x).map .float
    | .error issues => .error issues
  | .boolean => (readBoolean v).map .bool
  | .choice tidying names => match tidying.applyTo v with
    | some name => if names.contains name then .ok (.text name) else complain (.notAmong names)
    | none => complain (.notAmong names)
  | .fragments => match v, v.listItems? with
    | .text s, _ => .ok (.list [.text s])
    | _, some xs =>
      (gather (xs.mapIdx fun i x => Checked.under (.index i) ((readText x).map Value.text))).map
        .list
    | _, none => complain .notList
  | .list least item => match _h : v.listItems? with
    | some xs =>
      let outcomes := xs.attach.map fun x => item.validate room x.1
      match gather (outcomes.mapIdx fun i r => r.under (.index i)) with
      | .ok ys =>
        if ys.length < least then complain (.listTooShort least ys.length) else .ok (.list ys)
      | .error issues => .error issues
    | none => complain .notList
  | .dict item => match v with
    | .dict es =>
      (gather (es.map fun e =>
        ((item.validate room e.2).under (.name e.1)).map fun w => (e.1, w))).map .dict
    | _ => complain .notDict
  | .optional item => if v.isNull then .ok .null else item.validate room v
  | .union members =>
    chooseMember v (members.map fun m => (m.1, m.2, m.2.validate room v))
  | .record kind =>
    if kind.nests && room == 0 then complain .tooDeep
    else match v with
    | .record k fields given =>
      if k = kind then .ok (.record k fields given) else complain (.notRecord kind.name)
    | .dict es =>
      let outcomes := kind.fields.map fun d =>
        Checked.under (.name d.name) <|
          match _h : lookup? d.name es with
          | some w => (d.judge (d.type.validate (kind.roomInside room) w)).map fun x => (d.name, x)
          | none => match d.default with
            | some x => .ok (d.name, x)
            | none => complain .missing
      match gather outcomes with
      | .ok fields =>
        finishRecord kind fields
          ((kind.fields.map (·.name)).filter fun n => (lookup? n es).isSome)
      | .error issues => .error issues
    | _ => complain (.notRecord kind.name)
  termination_by (sizeOf v, sizeOf t)
  decreasing_by
    all_goals simp_wf
    · have := Value.sizeOf_lt_of_mem_listItems? _h x.2
      exact Prod.Lex.left _ _ (by omega)
    · have := List.sizeOf_lt_of_mem ‹e ∈ es›
      obtain ⟨k, w⟩ := e
      simp only [Prod.mk.sizeOf_spec] at this
      exact Prod.Lex.left _ _ (by simp only; omega)
    · exact Prod.Lex.right _ (by omega)
    · have := List.sizeOf_lt_of_mem ‹m ∈ members›
      obtain ⟨k, w⟩ := m
      simp only [Prod.mk.sizeOf_spec] at this
      exact Prod.Lex.right _ (by simp only; omega)
    · have := sizeOf_lookup? _h
      exact Prod.Lex.left _ _ (by omega)

/-- Makes a record of a kind from named values. -/
def RecordKind.construct (kind : RecordKind) (data : List (String × Value)) : Checked Value :=
  (FieldType.record kind).validate mostNested (.dict data)

end SqlComposer
