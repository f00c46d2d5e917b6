import SqlComposer.Number.Binary
import SqlComposer.Text.Casing
import SqlComposer.Text.Trim

/-!
# Reading numbers

Two readers of decimal text. `readFloat?` reads the usual notations of a double, with `inf` and
`nan`. `readInt` reads a whole number as configuration files write it: with blanks around it, a
sign, zeros in front, single underscores between its digits and a fraction of zeros.
-/

set_option autoImplicit false

namespace SqlComposer.Number

open SqlComposer.Text

/-- The number written by a list of ASCII digits. -/
def ofDigits (cs : List Char) : Nat := cs.foldl (fun n c => 10 * n + (c.toNat - 48)) 0

/-- A sign, if there is one, and what follows it. -/
def takeSign : List Char → Bool × List Char
  | '-' :: cs => (true, cs)
  | '+' :: cs => (false, cs)
  | cs => (false, cs)

/-- `mantissa · 10 ^ exponent` as a double. Exponents far beyond the range of doubles are
answered without computing the power. -/
def scaleTen (mantissa : Nat) (exponent : Int) : Float :=
  if mantissa == 0 then 0.0
  else
    let size := exponent + (Nat.toDigits 10 mantissa).length
    if 400 < size then 1.0 / 0.0
    else if size < -400 then 0.0
    else if exponent < 0 then Float.ofScientific mantissa true exponent.natAbs
    else Float.ofScientific mantissa false exponent.natAbs

/-- Negates a double when asked to. -/
def signed (negative : Bool) (x : Float) : Float := if negative then -x else x

/-- The exponent part of a number, up to the end of the text. -/
def readExponent? : List Char → Option Int
  | [] => some 0
  | c :: cs =>
    if c == 'e' || c == 'E' then
      let (negative, ds) := takeSign cs
      if ds.isEmpty || !ds.all isAsciiDigit then none
      else some (if negative then -(ofDigits ds : Int) else ofDigits ds)
    else none

/-- A double in decimal notation, without blanks. -/
def readFloat? (cs : List Char) : Option Float :=
  let (negative, body) := takeSign cs
  let word := body.map asciiLower
  if word == "inf".toList || word == "infinity".toList then some (signed negative (1.0 / 0.0))
  else if word == "nan".toList then some (0.0 / 0.0)
  else
    let whole := body.takeWhile isAsciiDigit
    let afterWhole := body.dropWhile isAsciiDigit
    let (fraction, rest) := match afterWhole with
      | '.' :: cs => (cs.takeWhile isAsciiDigit, cs.dropWhile isAsciiDigit)
      | cs => ([], cs)
    if whole.isEmpty && fraction.isEmpty then none
    else (readExponent? rest).map fun e =>
      signed negative (scaleTen (ofDigits (whole ++ fraction)) (e - fraction.length))

/-- Whether underscores may be left out of the text: they are neither at its ends nor doubled. -/
def underscoresBetween (cs : List Char) : Bool :=
  cs.head? != some '_' && cs.getLast? != some '_' && !hasInfix ['_', '_'] cs

/-- A double as configuration text: blanks around it are ignored, and so are single underscores
inside it, but not both. -/
def readLooseFloat? (s : String) : Option Float :=
  match readFloat? (trimBy isWhiteSpace s.toList) with
  | some x => some x
  | none =>
    let cs := s.toList
    if cs.contains '_' && underscoresBetween cs then readFloat? (cs.filter (· != '_')) else none

/-- Why a text is not read as a whole number. -/
inductive Unread where
  /-- It is not written like one. -/
  | malformed
  /-- It has too many digits. -/
  | tooLong
  deriving DecidableEq, Repr

/-- The number of characters that a whole number may have as text. -/
def longestNumber : Nat := 4300

/-- What is left of a number after its first zero once more zeros, and underscores among them,
are skipped. The last of them stays if nothing follows it or a point does. -/
def afterZeros (last : Char) : List Char → Option (List Char)
  | [] => some [last]
  | c :: cs =>
    if c == '0' || c == '_' then afterZeros c cs
    else if isAsciiDigit c || c == '-' then some (c :: cs)
    else if c == '.' then some (last :: c :: cs)
    else none

/-- A number without zeros in front. Nothing is left if it begins like no number. -/
def dropZeros : List Char → Option (List Char)
  | [] => none
  | c :: cs =>
    if c == '0' then afterZeros '0' cs
    else if isAsciiDigit c || c == '-' then some (c :: cs)
    else none

/-- A number without a plus in front. A plus before a minus is no sign. -/
def dropPlus : List Char → Option (List Char)
  | '+' :: '-' :: _ => none
  | '+' :: cs => some cs
  | cs => some cs

/-- The text without a fraction that consists of zeros only. -/
def dropZeroFraction (cs : List Char) : List Char :=
  match cs.dropWhile (· != '.') with
  | '.' :: '0' :: zeros => if zeros.all (· == '0') then cs.takeWhile (· != '.') else cs
  | _ => cs

/-- A whole number in plain notation: a minus, if any, and digits, of which the first is no zero
unless it is the only one. -/
def readPlainInt (cs : List Char) : Except Unread Int :=
  let (negative, ds) := match cs with
    | '-' :: ds => (true, ds)
    | ds => (false, ds)
  let run := ds.takeWhile isAsciiDigit
  if run.isEmpty || (run.head? == some '0' && 1 < run.length) then .error .malformed
  else if longestNumber < run.length + (if negative then 1 else 0) then .error .tooLong
  else if run.length < ds.length then .error .malformed
  else .ok (if negative then -(ofDigits run : Int) else ofDigits run)

/-- A whole number as configuration text. -/
def readInt (s : String) : Except Unread Int :=
  match (dropPlus (trimBy isWhiteSpace s.toList)).bind dropZeros with
  | none => .error .malformed
  | some cs =>
    let cs := dropZeroFraction cs
    readPlainInt (if underscoresBetween cs then cs.filter (· != '_') else cs)

end SqlComposer.Number
