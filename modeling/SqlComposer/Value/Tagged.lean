import SqlComposer.Value.Real

/-!
# Tagged values

JSON has no form of its own for doubles, octets, decimals, dates and times. A tagged value stands
for one of them as a dictionary with a single entry, whose name is the tag and whose value holds
the parts. `Value.tag?` and `Value.untag?` look at one value only; lists and dictionaries are
walked by whoever reads or writes them. A tag whose content stands for no value is a fault.
-/

set_option autoImplicit false

namespace SqlComposer

open SqlComposer.Text SqlComposer.Number

/-- The value of a hexadecimal digit. -/
def hexDigit? (c : Char) : Option Nat :=
  if isAsciiDigit c then some (c.toNat - 48)
  else if 'a' ≤ asciiLower c && asciiLower c ≤ 'f' then some ((asciiLower c).toNat - 87)
  else none

/-- The fault of a character that is missing or no hexadecimal digit. -/
def notHex (place : Nat) : Fault :=
  ⟨.value, "non-hexadecimal number found in fromhex() arg at position " ++ toString place⟩

/-- The octets that hexadecimal digits stand for, two for each. Blanks may stand between them.
The digits begin in the given place of a text. -/
def octetsOfHex (place : Nat) : List Char → Except Fault (List UInt8)
  | [] => .ok []
  | [c] =>
    if isWhiteSpace c then .ok []
    else .error (notHex (if (hexDigit? c).isSome then place + 1 else place))
  | c :: d :: rest =>
    if isWhiteSpace c then octetsOfHex (place + 1) (d :: rest)
    else match hexDigit? c, hexDigit? d with
      | none, _ => .error (notHex place)
      | some _, none => .error (notHex (place + 1))
      | some a, some b => do
        return UInt8.ofNat (16 * a + b) :: (← octetsOfHex (place + 2) rest)

/-- The octets that a text of hexadecimal digits stands for. A character beyond ASCII is refused
before the digits are read. -/
def octetsOfText (text : String) : Except Fault (List UInt8) :=
  match text.toList.findIdx? (128 ≤ ·.toNat) with
  | some place => .error (notHex place)
  | none => octetsOfHex 0 text.toList

namespace Value

/-- Whole numbers as a list. -/
def ofNats (ns : List Nat) : Value := .list (ns.map fun n : Nat => .int n)

/-- The whole number in a place of a list; zero if there is none. -/
def intAt (v : Value) (i : Nat) : Int :=
  match v.items.getD i .null with
  | .int n => n
  | _ => 0

/-- The natural number in a place of a list. -/
def natAt (v : Value) (i : Nat) : Nat := (v.intAt i).toNat

/-- The numbers of a day. -/
def dateNats (d : Date) : List Nat := [d.year, d.month, d.day]

/-- The numbers of a time of day, all of them. -/
def timeNats (t : TimeOfDay) : List Nat := [t.hour, t.minute, t.second, t.microsecond]

/-- The number in a place of a list, which has to lie below a limit. -/
def part (v : Value) (i limit : Nat) (name : String) : Except Fault Nat :=
  let n := v.intAt i
  if 0 ≤ n && n < limit then .ok n.toNat
  else .error ⟨.value, name ++ " must be in 0.." ++ toString (limit - 1)⟩

/-- The day whose numbers begin a list. -/
def dateIn (v : Value) : Except Fault Date :=
  let year := v.intAt 0
  let month := v.intAt 1
  let day := v.intAt 2
  if v.items.length < 3 then .error ⟨.type, ""⟩
  else if year < 1 || 9999 < year then
    .error ⟨.value, "year " ++ toString year ++ " is out of range"⟩
  else if month < 1 || 12 < month then .error ⟨.value, "month must be in 1..12"⟩
  else if day < 1 || daysInMonth year month.toNat < day then
    .error ⟨.value, "day is out of range for month"⟩
  else .ok ⟨year.toNat, month.toNat, day.toNat⟩

/-- The time of day whose numbers begin in a place of a list. -/
def timeIn (v : Value) (i : Nat) : Except Fault TimeOfDay := do
  return ⟨← v.part i 24 "hour", ← v.part (i + 1) 60 "minute", ← v.part (i + 2) 60 "second",
    ← v.part (i + 3) 1000000 "microsecond"⟩

/-- The length of time whose days, seconds and microseconds a list holds. -/
def spanIn (v : Value) : Except Fault TimeSpan :=
  let span := TimeSpan.ofMicroseconds ((v.intAt 0 * 86400 + v.intAt 1) * 1000000 + v.intAt 2)
  if TimeSpan.mostDays < span.days.natAbs then .error ⟨.overflow, ""⟩ else .ok span

/-- The decimal that a text or a whole number is. -/
def decimalIn : Value → Except Fault Decimal
  | .int n => .ok (.finite (n < 0) n.natAbs 0)
  | .text s =>
    match Decimal.ofText? s with
    | some d => .ok d
    | none => .error ⟨.invalidNumber, ""⟩
  | _ => .error ⟨.type, ""⟩

/-- The tagged form of a value that needs one. -/
def tag? : Value → Option Value
  | .float x => some (.dict [("$float", .text (floatText x))])
  | .bytes bs =>
    some (.dict [("$bytes", .text (String.ofList (bs.flatMap fun b => hex 2 b.toNat)))])
  | .decimal d => some (.dict [("$decimal", .text d.text)])
  | .date d => some (.dict [("$date", ofNats (dateNats d))])
  | .dateTime t => some (.dict [("$datetime", ofNats (dateNats t.date ++ timeNats t.time))])
  | .time t => some (.dict [("$time", ofNats (timeNats t))])
  | .span d =>
    some (.dict [("$timedelta", .list [.int d.days, .int d.seconds, .int d.microseconds])])
  | _ => none

/-- The value that a tag and its content stand for; nothing for other names than tags. -/
def untag? (tag : String) (content : Value) : Option (Except Fault Value) :=
  match tag with
  | "$float" => some (content.toReal.map .float)
  | "$bytes" => some ((octetsOfText (content.text?.getD "")).map .bytes)
  | "$decimal" => some (content.decimalIn.map .decimal)
  | "$date" => some (content.dateIn.map .date)
  | "$datetime" => some do return .dateTime ⟨← content.dateIn, ← content.timeIn 3⟩
  | "$time" => some ((content.timeIn 0).map .time)
  | "$timedelta" => some (content.spanIn.map .span)
  | _ => none

end Value

end SqlComposer
