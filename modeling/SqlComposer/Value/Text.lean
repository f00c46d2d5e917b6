import SqlComposer.Value
import SqlComposer.Text.Classes

/-!
# The text of a value

A value has two texts. `Value.display` is what a reader sees: the bare characters of a text,
the ISO form of a date. `Value.inspect` is what shows the type as well, and is used for the
items of a list and the entries of a dictionary: a text is quoted there.

These are the texts of values that can be written. A whole number may have so many digits and no
more; a value with a longer one in it has no text (`Value.isWritable`).
-/

set_option autoImplicit false

namespace SqlComposer

open SqlComposer.Text SqlComposer.Number

/-- `n` in base sixteen with small letters and at least `width` digits. -/
def hex (width n : Nat) : List Char :=
  let ds := Nat.toDigits 16 n
  List.replicate (width - ds.length) '0' ++ ds

/-- One character between quotes of the kind `quote`. -/
def inspectChar (quote c : Char) : List Char :=
  if c == quote || c == '\\' then ['\\', c]
  else if c == '\n' then ['\\', 'n']
  else if c == '\r' then ['\\', 'r']
  else if c == '\t' then ['\\', 't']
  else if isPrintable c then [c]
  else if c.toNat < 0x100 then '\\' :: 'x' :: hex 2 c.toNat
  else if c.toNat < 0x10000 then '\\' :: 'u' :: hex 4 c.toNat
  else '\\' :: 'U' :: hex 8 c.toNat

/-- The text in quotes: single ones, unless it holds single quotes and no double ones. -/
def inspectText (s : String) : String :=
  let cs := s.toList
  let quote := if cs.contains '\'' && !cs.contains '"' then '"' else '\''
  String.ofList (quote :: (cs.flatMap (inspectChar quote) ++ [quote]))

/-- Octets in quotes, those that are not visible ASCII as escapes. -/
def inspectBytes (bs : List UInt8) : String :=
  let cs := bs.map fun b => Char.ofNat b.toNat
  let quote := if cs.contains '\'' && !cs.contains '"' then '"' else '\''
  let one (c : Char) : List Char :=
    if c.toNat < 128 then inspectChar quote c else '\\' :: 'x' :: hex 2 c.toNat
  String.ofList ('b' :: quote :: (cs.flatMap one ++ [quote]))

/-- Numbers with commas between them. -/
def commaNumbers (ns : List Nat) : String := ", ".intercalate (ns.map toString)

/-- The numbers of a time of day; seconds and microseconds are left out where they are zero. -/
def timeNumbers (t : TimeOfDay) : List Nat :=
  if t.microsecond != 0 then [t.hour, t.minute, t.second, t.microsecond]
  else if t.second != 0 then [t.hour, t.minute, t.second]
  else [t.hour, t.minute]

/-- The parts of a length of time that are not zero, by name. -/
def spanParts (d : TimeSpan) : String :=
  let parts :=
    (if d.days != 0 then ["days=" ++ toString d.days] else [])
      ++ (if d.seconds != 0 then ["seconds=" ++ toString d.seconds] else [])
      ++ (if d.microseconds != 0 then ["microseconds=" ++ toString d.microseconds] else [])
  if parts.isEmpty then "0" else ", ".intercalate parts

/-- The type of the choice that a field of a kind of records has if none is given. -/
def RecordKind.choiceType? (kind : RecordKind) (field : String) : Option String :=
  match kind, field with
  | .joinClause, "type" => some "JoinType"
  | .generatedColumn, "type" => some "GeneratedColumnType"
  | _, _ => none

namespace Value

mutual

/-- The text that shows a value together with its type. -/
def inspect : Value → String
  | .null => "None"
  | .bool true => "True"
  | .bool false => "False"
  | .int n => toString n
  | .float x => floatText x
  | .text s => inspectText s
  | .bytes bs => inspectBytes bs
  | .decimal d => "Decimal('" ++ d.text ++ "')"
  | .date d => "datetime.date(" ++ commaNumbers [d.year, d.month, d.day] ++ ")"
  | .dateTime t =>
    "datetime.datetime("
      ++ commaNumbers ([t.date.year, t.date.month, t.date.day] ++ timeNumbers t.time) ++ ")"
  | .time t => "datetime.time(" ++ commaNumbers (timeNumbers t) ++ ")"
  | .span d => "datetime.timedelta(" ++ spanParts d ++ ")"
  | .list xs => "[" ++ ", ".intercalate (inspectItems xs) ++ "]"
  | .tuple [x] => "(" ++ inspect x ++ ",)"
  | .tuple xs => "(" ++ ", ".intercalate (inspectItems xs) ++ ")"
  | .dict es => "\x7b" ++ ", ".intercalate (inspectEntries es) ++ "\x7d"
  | .record kind fs given =>
    kind.name ++ "(" ++ ", ".intercalate (inspectFields kind given fs) ++ ")"

/-- The texts of all items. -/
def inspectItems : List Value → List String
  | [] => []
  | v :: vs => inspect v :: inspectItems vs

/-- The texts of all entries, with a colon after the key. -/
def inspectEntries : List (String × Value) → List String
  | [] => []
  | (k, v) :: es => (inspectText k ++ ": " ++ inspect v) :: inspectEntries es

/-- The texts of all fields of a record, with an equals sign after the name. A choice that was
not given is shown with its type. -/
def inspectFields (kind : RecordKind) (given : List String) : List (String × Value) → List String
  | [] => []
  | (k, v) :: es =>
    let shown := match kind.choiceType? k with
      | some type =>
        if given.contains k then inspect v
        else "<" ++ type ++ "." ++ (v.text?).getD "" ++ ": " ++ inspect v ++ ">"
      | none => inspect v
    (k ++ "=" ++ shown) :: inspectFields kind given es

end

/-- The text of a value as a reader sees it. A record is shown as its fields. -/
def display : Value → String
  | .text s => s
  | .decimal d => d.text
  | .date d => d.text
  | .dateTime t => t.text " "
  | .time t => t.text
  | .span d => d.text
  | .record kind fs given => " ".intercalate (inspectFields kind given fs)
  | v => v.inspect

@[simp] theorem display_text (s : String) : (Value.text s).display = s := rfl

@[simp] theorem display_int (n : Int) : (Value.int n).display = toString n := rfl

end Value

/-- The most digits that a whole number is read from or written with. -/
def mostDigits : Nat := 4300

/-- Whether a whole number has few enough digits to be written. -/
def fewDigits (n : Int) : Bool := (Nat.toDigits 10 n.natAbs).length ≤ mostDigits

namespace Value

mutual

/-- Whether a value can be written: every whole number in it has few enough digits. -/
def isWritable : Value → Bool
  | .int n => fewDigits n
  | .list xs => itemsWritable xs
  | .tuple xs => itemsWritable xs
  | .dict es => entriesWritable es
  | .record _ fs _ => entriesWritable fs
  | _ => true

/-- Whether all items can be written. -/
def itemsWritable : List Value → Bool
  | [] => true
  | v :: vs => isWritable v && itemsWritable vs

/-- Whether the values of all entries can be written. -/
def entriesWritable : List (String × Value) → Bool
  | [] => true
  | (_, v) :: es => isWritable v && entriesWritable es

end

theorem itemsWritable_iff {items : List Value} :
    itemsWritable items = true ↔ ∀ v ∈ items, v.isWritable = true := by
  induction items with
  | nil => simp [itemsWritable]
  | cons v items ih => simp [itemsWritable, ih]

theorem entriesWritable_iff {entries : List (String × Value)} :
    entriesWritable entries = true ↔ ∀ e ∈ entries, e.2.isWritable = true := by
  induction entries with
  | nil => simp [entriesWritable]
  | cons e entries ih => simp [entriesWritable, ih]

@[simp] theorem isWritable_text (s : String) : (Value.text s).isWritable = true := rfl

@[simp] theorem isWritable_list {items : List Value} :
    (Value.list items).isWritable = true ↔ ∀ v ∈ items, v.isWritable = true := by
  rw [isWritable, itemsWritable_iff]

@[simp] theorem isWritable_dict {entries : List (String × Value)} :
    (Value.dict entries).isWritable = true ↔ ∀ e ∈ entries, e.2.isWritable = true := by
  rw [isWritable, entriesWritable_iff]

end Value

end SqlComposer
