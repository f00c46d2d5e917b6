import SqlComposer.Failure.Fault
import SqlComposer.Number.Fixed
import SqlComposer.Value.Amount
import SqlComposer.Value.Whole

/-!
# Message templates

A log message can be a template: text with conversions, each of which begins with a percent sign
and takes one of the values that go with the message. A conversion says how its value is written:
its flags, the width to fill, the precision, and a letter for the form. Instead of taking values
in turn, conversions can name entries of a single dictionary.

A template is read into pieces once. Filling it walks over the pieces and fails at the first one
that does not go with its value or cannot be read; of the latter, what it asks for before it
breaks off is still taken.
-/

set_option autoImplicit false

namespace SqlComposer.Log

open SqlComposer.Number

/-- A width or a precision: absent, written out, or taken from the values. -/
inductive Measure where
  | absent
  | fixed (n : Nat)
  | taken

/-- What a conversion asks for before it takes its value. -/
structure Asks where
  /-- The entry it names. -/
  key : Option String
  width : Measure
  precision : Measure

/-- A conversion. -/
structure Conversion where
  asks : Asks
  flags : List Char
  letter : Char
  /-- Where in the template the letter stands. -/
  position : Nat

/-- A piece of a template. -/
inductive Piece where
  | literal (c : Char)
  | conversion (c : Conversion)
  /-- A key that does not end. -/
  | openKey
  /-- What breaks off after it has asked for something. -/
  | broken (asks : Asks) (fault : Fault)

/-- The key in parentheses that may open a conversion, without them. Parentheses inside are
counted. -/
def readKey? : (depth : Nat) → (key : List Char) → List Char → Option (List Char × List Char)
  | _, _, [] => none
  | depth, key, c :: cs =>
    if c == ')' then
      match depth with
      | 0 => some (key.reverse, cs)
      | depth + 1 => readKey? depth (c :: key) cs
    else readKey? (if c == '(' then depth + 1 else depth) (c :: key) cs

/-- A number or a star. -/
def readMeasure (cs : List Char) : Measure × List Char :=
  match cs with
  | '*' :: rest => (.taken, rest)
  | _ =>
    match cs.takeWhile Char.isDigit with
    | [] => (.absent, cs)
    | ds => (.fixed (ofDigitChars ds), cs.dropWhile Char.isDigit)
where
  /-- The number with the given digits. -/
  ofDigitChars (ds : List Char) : Nat := ds.foldl (fun n d => 10 * n + (d.toNat - 48)) 0

/-- The precision that a point opens; a point alone stands for zero. -/
def readPrecision (cs : List Char) : Measure × List Char :=
  match cs with
  | '.' :: rest =>
    match readMeasure rest with
    | (.absent, rest) => (.fixed 0, rest)
    | r => r
  | _ => (.absent, cs)

/-- Whether a character is a flag. -/
def isFlag (c : Char) : Bool := c == '-' || c == '+' || c == ' ' || c == '#' || c == '0'

/-- The largest width. -/
def widthLimit : Nat := 9223372036854775807

/-- The largest precision. -/
def precisionLimit : Nat := 2147483647

/-- Whether a written measure is beyond a limit. -/
def Measure.exceeds (limit : Nat) : Measure → Bool
  | .fixed n => limit < n
  | _ => false

/-- The characters without a size letter at their start. -/
def dropSize : List Char → List Char
  | c :: cs => if c == 'h' || c == 'l' || c == 'L' then cs else c :: cs
  | [] => []

/-- A template that ends inside a conversion. -/
def incomplete (what : String) : Fault := ⟨.value, "incomplete format" ++ what⟩

/-- The conversion after a percent sign and after its key, if it has one, and what follows it.
`total` is the length of the whole template. -/
def readConversion (total : Nat) (key : Option String) (cs : List Char) : Piece × List Char :=
  let (width, rest) := readMeasure (cs.dropWhile isFlag)
  if width.exceeds widthLimit then
    (.broken ⟨key, .absent, .absent⟩ ⟨.value, "width too big"⟩, [])
  else
    let (precision, rest) := readPrecision rest
    if precision.exceeds precisionLimit then
      (.broken ⟨key, width, .absent⟩ ⟨.value, "precision too big"⟩, [])
    else
      match dropSize rest with
      | letter :: after =>
        (.conversion
          ⟨⟨key, width, precision⟩, cs.takeWhile isFlag, letter, total - after.length - 1⟩, after)
      | [] => (.broken ⟨key, width, precision⟩ (incomplete ""), [])

/-- What follows a percent sign, up to the end of the conversion. -/
def readPiece (total : Nat) (cs : List Char) : Piece × List Char :=
  match cs with
  | '(' :: rest =>
    match readKey? 0 [] rest with
    | some (key, rest) => readConversion total (some (String.ofList key)) rest
    | none => (.openKey, [])
  | _ => readConversion total none cs

/-- The pieces of a template; `fuel` bounds their number. Two percent signs stand for one. -/
def piecesFrom (total : Nat) : (fuel : Nat) → List Char → List Piece
  | 0, _ => []
  | _, [] => []
  | fuel + 1, '%' :: '%' :: cs => .literal '%' :: piecesFrom total fuel cs
  | fuel + 1, '%' :: cs =>
    let (piece, rest) := readPiece total cs
    piece :: piecesFrom total fuel rest
  | fuel + 1, c :: cs => .literal c :: piecesFrom total fuel cs

/-- The pieces of a template. -/
def pieces (template : String) : List Piece :=
  piecesFrom template.length template.length template.toList

/-- Fills up to a width with blanks, on the left unless the flags say otherwise. -/
def fillBlanks (left : Bool) (width : Nat) (cs : List Char) : List Char :=
  let blanks := List.replicate (width - cs.length) ' '
  if left then cs ++ blanks else blanks ++ cs

/-- The sign of a number as the flags want it. -/
def signChars (flags : List Char) (negative : Bool) : List Char :=
  if negative then ['-'] else if flags.contains '+' then ['+']
  else if flags.contains ' ' then [' '] else []

/-- A number from its sign, its mark and its digits, filled with zeros if the flags say so. -/
def fillNumber (flags : List Char) (width : Nat) (sign mark ds : List Char) : List Char :=
  if flags.contains '0' && !flags.contains '-' then
    sign ++ mark ++ List.replicate (width - (sign ++ mark ++ ds).length) '0' ++ ds
  else fillBlanks (flags.contains '-') width (sign ++ mark ++ ds)

/-- The text of a value that is not ASCII, with escapes for what is not. -/
def asciiChar (c : Char) : List Char :=
  if c.toNat < 128 then [c]
  else if c.toNat < 0x100 then '\\' :: 'x' :: hex 2 c.toNat
  else if c.toNat < 0x10000 then '\\' :: 'u' :: hex 4 c.toNat
  else '\\' :: 'U' :: hex 8 c.toNat

/-- The largest precision of a whole number. -/
def digitLimit : Nat := 2147483644

/-- A text of at most this width fits into memory. -/
def memoryLimit : Nat := 70368744177664

/-- A whole number in a base. -/
def wholeChars (flags : List Char) (width : Nat) (precision : Option Nat) (letter : Char)
    (n : Int) : List Char :=
  let (base, mark) :=
    if letter == 'o' then (8, ['0', 'o'])
    else if letter == 'x' then (16, ['0', 'x'])
    else if letter == 'X' then (16, ['0', 'X'])
    else (10, [])
  let plain := Nat.toDigits base n.natAbs
  let ds := List.replicate (precision.getD 0 - plain.length) '0' ++ plain
  fillNumber flags width (signChars flags (n < 0)) (if flags.contains '#' then mark else [])
    (if letter == 'X' then ds.map Char.toUpper else ds)

/-- The exact value of a positive double rounded to `count` digits: the digits, and where the
point stands after the first of them. -/
def roundedDigits (b : Binary) (count : Nat) : Nat × Int :=
  let (num, den) := b.quotient
  let lead : Int := b.magnitude - 1
  let at_ (power : Int) : Nat :=
    if 0 ≤ power then roundHalfEven (num * tenTo power.toNat) den
    else roundHalfEven num (den * tenTo (-power).toNat)
  let k := at_ (count - 1 - lead)
  if tenTo count ≤ k then (at_ (count - 1 - (lead + 1)), lead + 1)
  else if k < tenTo (count - 1) then (at_ (count - 1 - (lead - 1)), lead - 1)
  else (k, lead)

/-- Digits with the point after the first of them, and the exponent. -/
def exponentChars (ds : List Char) (e : Int) (pointed : Bool) : List Char :=
  let body := match ds with
    | d :: rest => if rest.isEmpty && !pointed then [d] else d :: '.' :: rest
    | [] => []
  body ++ Layout.plain.exponentText e

/-- Without the zeros at the end of a fraction. -/
def dropFractionZeros (cs : List Char) : List Char :=
  ((cs.reverse.dropWhile (· == '0')).dropWhile (· == '.')).reverse

/-- The magnitude of a finite double in one of the three forms. -/
def realChars (letter : Char) (alternate : Bool) (places : Nat) (b : Binary) : List Char :=
  if letter == 'f' then
    let (num, den) := b.quotient
    Number.pointed (roundHalfEven (num * tenTo places) den) places
      ++ (if alternate && places == 0 then ['.'] else [])
  else
    let count := if letter == 'e' then places + 1 else max places 1
    let (k, e) := if b.significand == 0 then (0, 0) else roundedDigits b count
    let ds := (padded count k).toList
    if letter == 'e' then exponentChars ds e alternate
    else if -4 ≤ e && e < count then
      let cs := if e < 0 then '0' :: '.' :: (List.replicate (-e - 1).toNat '0' ++ ds)
        else
          let whole := ds.take (e.toNat + 1)
          let rest := ds.drop (e.toNat + 1)
          if rest.isEmpty && !alternate then whole else whole ++ '.' :: rest
      if alternate || !cs.contains '.' then cs else dropFractionZeros cs
    else if alternate then exponentChars ds e true
    else
      let short := (ds.reverse.dropWhile (· == '0')).reverse
      exponentChars (if short.isEmpty then ['0'] else short) e false

/-- A double in one of the forms `e`, `f` and `g`, or in capitals. -/
def doubleChars (flags : List Char) (width : Nat) (precision : Option Nat) (letter : Char)
    (x : Float) : List Char :=
  let body := match Binary.ofFloat? x with
    | some b => realChars letter.toLower (flags.contains '#') (precision.getD 6) b
    | none => if x.isNaN then "nan".toList else "inf".toList
  fillNumber flags width (signChars flags (signBit x && !x.isNaN)) []
    (if letter.isUpper then body.map Char.toUpper else body)

/-- The name of a value's type in a complaint about it. -/
def typeName : Value → String
  | .null => "NoneType"
  | .bool _ => "bool"
  | .int _ => "int"
  | .float _ => "float"
  | .text _ => "str"
  | .bytes _ => "bytes"
  | .decimal _ => "Decimal"
  | .date _ => "date"
  | .dateTime _ => "datetime"
  | .time _ => "time"
  | .span _ => "timedelta"
  | .list _ => "list"
  | .tuple _ => "tuple"
  | .dict _ => "dict"
  | .record .. => "record"

/-- A complaint about the type of a value. -/
def wrongType (message : String) : Fault := ⟨.type, message⟩

/-- A whole number as a conversion wants it, unless it is to have too many digits. -/
def numberChars (flags : List Char) (width : Nat) (precision : Option Nat) (letter : Char)
    (n : Int) : Except Fault (List Char) :=
  if digitLimit < precision.getD 0 then .error ⟨.overflow, "precision too large"⟩
  else if letter == 'd' && !fewDigits n then .error tooManyDigits
  else .ok (wholeChars flags width precision letter n)

/-- One value as a conversion wants it. -/
def convert (c : Conversion) (width : Nat) (left : Bool) (precision : Option Nat) (v : Value) :
    Except Fault (List Char) :=
  let flags := if left then '-' :: c.flags else c.flags
  let text (s : List Char) : List Char :=
    fillBlanks (flags.contains '-') width (match precision with
      | some n => s.take n
      | none => s)
  let letter := String.singleton c.letter
  match c.letter with
  | 's' => v.displayed.map fun s => text s.toList
  | 'r' => v.inspected.map fun s => text s.toList
  | 'a' => v.inspected.map fun s => text (s.toList.flatMap asciiChar)
  | 'd' | 'i' | 'u' =>
    match v.whole?, v with
    | some n, _ => numberChars flags width precision 'd' n
    | none, .float _ | none, .decimal _ => v.toWhole.bind (numberChars flags width precision 'd')
    | none, _ =>
      .error (wrongType
        ("%" ++ letter ++ " format: a real number is required, not " ++ typeName v))
  | 'o' | 'x' | 'X' =>
    match v.whole? with
    | some n => numberChars flags width precision c.letter n
    | none =>
      .error (wrongType ("%" ++ letter ++ " format: an integer is required, not " ++ typeName v))
  | 'e' | 'E' | 'f' | 'F' | 'g' | 'G' =>
    match v.whole?, v with
    | some n, _ =>
      let x := ofInt n
      if isFinite x then .ok (doubleChars flags width precision c.letter x)
      else .error ⟨.overflow, "int too large to convert to float"⟩
    | none, .float x => .ok (doubleChars flags width precision c.letter x)
    | none, .decimal d =>
      match d.toFloat? with
      | some x => .ok (doubleChars flags width precision c.letter x)
      | none => .error ⟨.value, "cannot convert signaling NaN to float"⟩
    | none, _ => .error (wrongType ("must be real number, not " ++ typeName v))
  | 'c' =>
    match v.whole?, v with
    | some n, _ =>
      if 0 ≤ n && n < 0x110000 then
        .ok (fillBlanks (flags.contains '-') width [Char.ofNat n.toNat])
      else .error ⟨.overflow, "%c arg not in range(0x110000)"⟩
    | none, .text s =>
      if s.length == 1 then .ok (fillBlanks (flags.contains '-') width s.toList)
      else .error (wrongType "%c requires int or char")
    | none, _ => .error (wrongType "%c requires int or char")
  | other =>
    let shown := if 31 ≤ other.toNat && other.toNat < 127 then other else '?'
    .error ⟨.value, "unsupported format character '" ++ String.singleton shown ++ "' (0x"
      ++ String.ofList (Nat.toDigits 16 other.toNat) ++ ") at index " ++ toString c.position⟩

/-- The values that have not been taken yet. -/
structure Supply where
  /-- What conversions can name entries of, if there is such a thing. -/
  source : Option Value
  /-- Values in turn. -/
  queue : List Value

/-- What goes with a message as a supply: the items of a tuple in turn, or any other value alone.
A list and octets could be asked for entries, too, but have none under names. -/
def Supply.ofValue : Value → Supply
  | .tuple vs => ⟨none, vs⟩
  | .dict es => ⟨some (.dict es), [.dict es]⟩
  | .list xs => ⟨some (.list xs), [.list xs]⟩
  | .bytes bs => ⟨some (.bytes bs), [.bytes bs]⟩
  | v => ⟨none, [v]⟩

/-- Takes the next value. -/
def Supply.take (s : Supply) : Except Fault (Value × Supply) :=
  match s.queue with
  | v :: vs => .ok (v, { s with queue := vs })
  | [] => .error (wrongType "not enough arguments for format string")

/-- What conversions name entries of. -/
def Supply.named (s : Supply) : Except Fault Value :=
  match s.source with
  | some source => .ok source
  | none => .error (wrongType "format requires a mapping")

/-- Turns to an entry, which is the next and only value to be taken then. -/
def Supply.turnTo (key : String) (s : Supply) : Except Fault Supply := do
  match ← s.named with
  | .dict es =>
    match lookup? key es with
    | some v => return { s with queue := [v] }
    | none => throw (.ofKey (.text key))
  | _ => throw (wrongType "indices must be integers")

/-- The value of a measure, which takes a value if it is a star. -/
def Supply.measure (limit : Nat) (s : Supply) : Measure → Except Fault (Option Int × Supply)
  | .absent => .ok (none, s)
  | .fixed n => .ok (some n, s)
  | .taken =>
    match s.take with
    | .error f => .error f
    | .ok (v, s) =>
      match v.whole? with
      | some n =>
        if (limit : Int) < n || n < -(limit : Int) - 1 then .error ⟨.overflow, ""⟩
        else .ok (some n, s)
      | none => .error (wrongType "* wants int")

/-- The least width has no magnitude among widths and stands for none. -/
def heldWidth (width : Int) : Int := if widthLimit < width.natAbs then 0 else width

/-- What is asked for: the width and the precision. -/
def Supply.asked (s : Supply) (a : Asks) : Except Fault (Option Int × Option Int × Supply) := do
  let s ← match a.key with
    | some key => s.turnTo key
    | none => pure s
  let (width, s) ← s.measure widthLimit a.width
  let (precision, s) ← s.measure precisionLimit a.precision
  return (width, precision, s)

/-- Fills one conversion. -/
def fillConversion (c : Conversion) (s : Supply) : Except Fault (List Char × Supply) := do
  let (width, precision, s) ← s.asked c.asks
  let (v, s) ← s.take
  let width := heldWidth (width.getD 0)
  let filled (width : Nat) (left : Bool) : Except Fault (List Char) :=
    convert c width left (precision.map Int.toNat) v
  if memoryLimit < width.natAbs then
    let _ ← filled 0 false
    throw ⟨.memory, ""⟩
  return (← filled width.natAbs (width < 0), s)

/-- Fills the pieces one after another. Values that are left over are a fault, unless there are
entries to be named. -/
def fillPieces : List Piece → Supply → Except Fault (List Char)
  | [], s =>
    if s.source.isNone && !s.queue.isEmpty then
      .error (wrongType "not all arguments converted during string formatting")
    else .ok []
  | .openKey :: _, s =>
    match s.named with
    | .error f => .error f
    | .ok _ => .error (incomplete " key")
  | .broken asks f :: _, s =>
    match s.asked asks with
    | .error g => .error g
    | .ok _ => .error f
  | .literal c :: rest, s => (fillPieces rest s).map (c :: ·)
  | .conversion c :: rest, s =>
    match fillConversion c s with
    | .error f => .error f
    | .ok (cs, s) => (fillPieces rest s).map (cs ++ ·)

/-- What goes with a message that is given values: all of them, or a single dictionary with
entries in their place. -/
def argumentsOf : List Value → Value
  | [.dict (e :: es)] => .dict (e :: es)
  | vs => .tuple vs

/-- The message of a template with what goes with it. Without anything, the template is the
message. -/
def fill (template : String) (arguments : Value) : Except Fault String :=
  if arguments.truthy then
    (fillPieces (pieces template) (.ofValue arguments)).map String.ofList
  else .ok template

end SqlComposer.Log
