import SqlComposer.Number.Reading
import SqlComposer.Value.Written

/-!
# Values as JSON

`Value.toJson` is the text of a value on one line of ASCII: a space after every comma and colon,
every character outside visible ASCII as an escape, a value that JSON has no form for as the string
of its text. `Value.json` writes it. `Value.ofJson?` reads a JSON text. A key that is given twice
keeps its first place and its last value.
-/

set_option autoImplicit false

namespace SqlComposer

open SqlComposer.Text SqlComposer.Number

/-- One unit of an escape, with four hexadecimal digits. -/
def jsonUnit (n : Nat) : List Char := '\\' :: 'u' :: hex 4 n

/-- One character inside a JSON string. Beyond the first 65536 code points a character takes two
units. -/
def jsonChar (c : Char) : List Char :=
  if c == '"' then ['\\', '"']
  else if c == '\\' then ['\\', '\\']
  else if c == '\n' then ['\\', 'n']
  else if c == '\r' then ['\\', 'r']
  else if c == '\t' then ['\\', 't']
  else if c == '\x08' then ['\\', 'b']
  else if c == '\x0c' then ['\\', 'f']
  else if 32 ≤ c.toNat && c.toNat < 127 then [c]
  else if c.toNat < 0x10000 then jsonUnit c.toNat
  else
    let n := c.toNat - 0x10000
    jsonUnit (0xD800 + n / 1024) ++ jsonUnit (0xDC00 + n % 1024)

/-- A JSON string. -/
def jsonString (s : String) : String :=
  String.ofList ('"' :: (s.toList.flatMap jsonChar ++ ['"']))

/-- Doubles in JSON; the three that are no numbers have names of their own. -/
def jsonLayout : Number.Layout := { Number.Layout.plain with nan := "NaN", infinity := "Infinity" }

namespace Value

mutual

/-- The value as JSON text. -/
def toJson : Value → String
  | .null => "null"
  | .bool true => "true"
  | .bool false => "false"
  | .int n => toString n
  | .float x => jsonLayout.text x
  | .text s => jsonString s
  | .list xs => "[" ++ ", ".intercalate (jsonItems xs) ++ "]"
  | .tuple xs => "[" ++ ", ".intercalate (jsonItems xs) ++ "]"
  | .dict es => "\x7b" ++ ", ".intercalate (jsonEntries es) ++ "\x7d"
  | v => jsonString v.display

/-- The JSON texts of all items. -/
def jsonItems : List Value → List String
  | [] => []
  | v :: vs => toJson v :: jsonItems vs

/-- The JSON texts of all entries. -/
def jsonEntries : List (String × Value) → List String
  | [] => []
  | (k, v) :: es => (jsonString k ++ ": " ++ toJson v) :: jsonEntries es

end

/-- The value written as JSON. -/
def json (v : Value) : Except Fault String := v.written v.toJson

end Value

/-- A blank of JSON. -/
def isJsonBlank (c : Char) : Bool := c == ' ' || c == '\t' || c == '\n' || c == '\r'

/-- The value of a hexadecimal digit. -/
def hexValue? (c : Char) : Option Nat :=
  if isAsciiDigit c then some (c.toNat - 48)
  else if 'a' ≤ c && c ≤ 'f' then some (c.toNat - 87)
  else if 'A' ≤ c && c ≤ 'F' then some (c.toNat - 55)
  else none

/-- The number written by four hexadecimal digits. -/
def readUnit? : List Char → Option (Nat × List Char)
  | a :: b :: c :: d :: rest => do
    let a ← hexValue? a
    let b ← hexValue? b
    let c ← hexValue? c
    let d ← hexValue? d
    some (4096 * a + 256 * b + 16 * c + d, rest)
  | _ => none

/-- The character that a backslash and a letter stand for. -/
def escaped? : Char → Option Char
  | '"' => some '"'
  | '\\' => some '\\'
  | '/' => some '/'
  | 'b' => some '\x08'
  | 'f' => some '\x0c'
  | 'n' => some '\n'
  | 'r' => some '\r'
  | 't' => some '\t'
  | _ => none

/-- The inside of a JSON string up to its closing quote, and what follows. `fuel` bounds the
number of characters. -/
def readJsonString? (acc : List Char) : Nat → List Char → Option (String × List Char)
  | 0, _ => none
  | _ + 1, [] => none
  | _ + 1, '"' :: rest => some (String.ofList acc.reverse, rest)
  | fuel + 1, '\\' :: 'u' :: rest => do
    let (high, rest) ← readUnit? rest
    let pair : Option (Nat × List Char) :=
      if 0xD800 ≤ high && high < 0xDC00 then
        match rest with
        | '\\' :: 'u' :: more => match readUnit? more with
          | some (low, after) =>
            if 0xDC00 ≤ low && low < 0xE000 then
              some (0x10000 + (high - 0xD800) * 1024 + (low - 0xDC00), after)
            else none
          | none => none
        | _ => none
      else none
    match pair with
    | some (n, after) => readJsonString? (Char.ofNat n :: acc) fuel after
    | none =>
      let c := if 0xD800 ≤ high && high < 0xE000 then '\uFFFD' else Char.ofNat high
      readJsonString? (c :: acc) fuel rest
  | fuel + 1, '\\' :: c :: rest => do
    let e ← escaped? c
    readJsonString? (e :: acc) fuel rest
  | fuel + 1, c :: rest =>
    if c.toNat < 32 then none else readJsonString? (c :: acc) fuel rest

/-- The digits at the front of a text. -/
def spanDigits (cs : List Char) : List Char × List Char :=
  (cs.takeWhile isAsciiDigit, cs.dropWhile isAsciiDigit)

/-- A JSON number at the front of a text. It is a whole number if it has neither a fraction nor
an exponent, and then it may not have too many digits. -/
def readJsonNumber? (cs : List Char) : Option (Value × List Char) :=
  let (negative, body) : Bool × List Char := match cs with
    | '-' :: rest => (true, rest)
    | rest => (false, rest)
  let (whole, rest) := match body with
    | '0' :: rest => (['0'], rest)
    | rest => spanDigits rest
  if whole.isEmpty then none
  else
    let (fraction, afterFraction) := match rest with
      | '.' :: more =>
        let (ds, after) := spanDigits more
        if ds.isEmpty then ([], rest) else (ds, after)
      | _ => ([], rest)
    let (exponent, after) : Option Int × List Char := match afterFraction with
      | e :: more =>
        if e == 'e' || e == 'E' then
          let (down, ds) := takeSign more
          let (ds, after) := spanDigits ds
          if ds.isEmpty then (none, afterFraction)
          else (some (if down then -(ofDigits ds : Int) else ofDigits ds), after)
        else (none, afterFraction)
      | [] => (none, afterFraction)
    if fraction.isEmpty && exponent.isNone then
      if mostDigits < whole.length then none
      else
        let n : Int := ofDigits whole
        some (.int (if negative then -n else n), after)
    else
      let x := scaleTen (ofDigits (whole ++ fraction)) (exponent.getD 0 - fraction.length)
      some (.float (signed negative x), after)

/-- What follows `word`, if the text begins with it. -/
def afterWord? (word : String) (cs : List Char) : Option (List Char) :=
  if word.toList.isPrefixOf cs then some (cs.drop word.length) else none

mutual

/-- A JSON value at the front of a text without leading blanks. `fuel` bounds the nesting and
the length. -/
def readJsonValue? : Nat → List Char → Option (Value × List Char)
  | 0, _ => none
  | fuel + 1, cs =>
    match cs with
    | '"' :: rest => (readJsonString? [] (fuel + 1) rest).map fun r => (.text r.1, r.2)
    | '[' :: rest =>
      match rest.dropWhile isJsonBlank with
      | ']' :: after => some (.list [], after)
      | body => (readJsonItems? [] fuel body).map fun r => (.list r.1, r.2)
    | '\x7b' :: rest =>
      match rest.dropWhile isJsonBlank with
      | '\x7d' :: after => some (.dict [], after)
      | body => (readJsonEntries? [] fuel body).map fun r => (.dict (putAll [] r.1), r.2)
    | _ =>
      match afterWord? "null" cs, afterWord? "true" cs, afterWord? "false" cs with
      | some rest, _, _ => some (.null, rest)
      | _, some rest, _ => some (.bool true, rest)
      | _, _, some rest => some (.bool false, rest)
      | none, none, none =>
        match afterWord? "NaN" cs, afterWord? "Infinity" cs, afterWord? "-Infinity" cs with
        | some rest, _, _ => some (.float (0.0 / 0.0), rest)
        | _, some rest, _ => some (.float (1.0 / 0.0), rest)
        | _, _, some rest => some (.float (-1.0 / 0.0), rest)
        | none, none, none => readJsonNumber? cs

/-- The items of a JSON array up to its closing bracket. -/
def readJsonItems? (acc : List Value) : Nat → List Char → Option (List Value × List Char)
  | 0, _ => none
  | fuel + 1, cs => do
    let (v, rest) ← readJsonValue? fuel cs
    match rest.dropWhile isJsonBlank with
    | ',' :: more => readJsonItems? (v :: acc) fuel (more.dropWhile isJsonBlank)
    | ']' :: after => some ((v :: acc).reverse, after)
    | _ => none

/-- The entries of a JSON object up to its closing brace. -/
def readJsonEntries? (acc : List (String × Value)) :
    Nat → List Char → Option (List (String × Value) × List Char)
  | 0, _ => none
  | fuel + 1, cs =>
    match cs with
    | '"' :: rest => do
      let (key, rest) ← readJsonString? [] (fuel + 1) rest
      match rest.dropWhile isJsonBlank with
      | ':' :: more =>
        let (v, rest) ← readJsonValue? fuel (more.dropWhile isJsonBlank)
        match rest.dropWhile isJsonBlank with
        | ',' :: more => readJsonEntries? ((key, v) :: acc) fuel (more.dropWhile isJsonBlank)
        | '\x7d' :: after => some (((key, v) :: acc).reverse, after)
        | _ => none
      | _ => none
    | _ => none

end

/-- Reads a whole text as one JSON value. -/
def Value.ofJson? (s : String) : Option Value :=
  let cs := s.toList.dropWhile isJsonBlank
  match readJsonValue? (cs.length + 1) cs with
  | some (v, rest) => if rest.all isJsonBlank then some v else none
  | none => none

end SqlComposer
