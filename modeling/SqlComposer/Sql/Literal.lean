import SqlComposer.Failure.QueryError
import SqlComposer.Value.Written

/-!
# Literals and JSON constructors

Scalars written into SQL text. A text goes between single quotes; the characters that could end
it or confuse a reader are escaped with a backslash. Lists and dictionaries are no literals, but
`jsonObject` and `jsonArray` write them as calls of the server's JSON constructors.

Of the escaping of scalars it is assumed that a whole number is written in decimal digits, however
many there are.
-/

set_option autoImplicit false

namespace SqlComposer.Sql

open SqlComposer.Number SqlComposer.Text

/-- One character of a text literal. -/
def literalChar (c : Char) : List Char :=
  if c == '\x00' then ['\\', '0']
  else if c == '\\' then ['\\', '\\']
  else if c == '\n' then ['\\', 'n']
  else if c == '\r' then ['\\', 'r']
  else if c == '\x1a' then ['\\', 'Z']
  else if c == '"' then ['\\', '"']
  else if c == '\'' then ['\\', '\'']
  else [c]

/-- A text between single quotes. -/
def quoteText (s : String) : String :=
  String.ofList ('\'' :: (s.toList.flatMap literalChar ++ ['\'']))

/-- The fault of a number that SQL has no form for. -/
def noSuchNumber (text : String) : Failure :=
  .fault ⟨.programming, text ++ " can not be used with MySQL"⟩

/-- The fault of a value that is no scalar. -/
def notScalar (type : String) : Failure :=
  .fault ⟨.type, type ++ " can not be used as parameter"⟩

/-- A double always carries an exponent, so that it is not read as an exact number. -/
def floatLiteral (x : Float) : Except Failure String :=
  let text := floatText x
  if isFinite x then .ok (if text.toList.contains 'e' then text else text ++ "e0")
  else .error (noSuchNumber text)

/-- A length of time in hours, minutes and seconds; the days count as hours. -/
def spanLiteral (d : TimeSpan) : String :=
  let total := d.total
  let micros := total.natAbs
  let seconds := micros / 1000000
  "'" ++ (if total < 0 then "-" else "") ++ padded 2 (seconds / 3600) ++ ":"
    ++ padded 2 (seconds / 60 % 60) ++ ":" ++ padded 2 (seconds % 60)
    ++ (if micros % 1000000 == 0 then "" else "." ++ padded 6 (micros % 1000000)) ++ "'"

/-- A scalar as a literal. A record is written as the text that shows it. -/
def literal : Value → Except Failure String
  | .null => .ok "NULL"
  | .bool b => .ok (if b then "1" else "0")
  | .int n => .ok (toString n)
  | .float x => floatLiteral x
  | .text s => .ok (quoteText s)
  | .bytes bs => .ok ("_binary X'" ++ String.ofList (bs.flatMap fun b => hex 2 b.toNat) ++ "'")
  | .decimal d => match d.plain? with
    | some text => .ok text
    | none => .error (noSuchNumber (lower d.text))
  | .date d => .ok ("'" ++ d.text ++ "'")
  | .dateTime t => .ok ("'" ++ t.text " " ++ "'")
  | .time t => .ok ("'" ++ t.text ++ "'")
  | .span d => .ok (spanLiteral d)
  | .list _ => .error (notScalar "list")
  | .tuple _ => .error (notScalar "tuple")
  | .dict _ => .error (notScalar "dict")
  | .record kind fields given =>
    ((Value.record kind fields given).displayed.map quoteText).mapError .fault

mutual

/-- A value as an expression that builds it on the server. -/
def jsonValue : Value → Except Failure String
  | .list xs => do return "JSON_ARRAY(" ++ ", ".intercalate (← jsonValues xs) ++ ")"
  | .tuple xs => do return "JSON_ARRAY(" ++ ", ".intercalate (← jsonValues xs) ++ ")"
  | .dict es => do return "JSON_OBJECT(" ++ ", ".intercalate (← jsonPairs es) ++ ")"
  | v => literal v

/-- The items of an array. -/
def jsonValues : List Value → Except Failure (List String)
  | [] => .ok []
  | v :: vs => do
    let text ← jsonValue v
    return text :: (← jsonValues vs)

/-- The keys and values of an object, each pair as one text. -/
def jsonPairs : List (String × Value) → Except Failure (List String)
  | [] => .ok []
  | (k, v) :: es => do
    let text ← jsonValue v
    return (quoteText k ++ ", " ++ text) :: (← jsonPairs es)

end

/-- A dictionary as a call of `JSON_OBJECT`. -/
def jsonObject (entries : List (String × Value)) : Except Failure String :=
  jsonValue (.dict entries)

/-- Items as a call of `JSON_ARRAY`. -/
def jsonArray (items : List Value) : Except Failure String := jsonValue (.list items)

end SqlComposer.Sql
