import SqlComposer.Number.Fixed
import SqlComposer.Number.Reading

/-!
# Decimal numbers

A decimal keeps the digits it was written with: `1.50` and `1.5` are two decimals of one value.
It has two texts. `text` turns to an exponent when the number would need many zeros; `plain`
never does.
-/

set_option autoImplicit false

namespace SqlComposer.Number

open SqlComposer.Text

/-- A decimal number. -/
inductive Decimal where
  /-- `± coefficient · 10 ^ exponent`, with the digits of the coefficient as they stand. -/
  | finite (negative : Bool) (coefficient : Nat) (exponent : Int)
  | infinite (negative : Bool)
  /-- Not a number. A signalling one fails where a quiet one is passed on; both can carry a
  number along. -/
  | notNumber (negative signalling : Bool) (payload : Nat)
  deriving DecidableEq, Repr

/-- Puts a minus before the text of a negative number. -/
def withSign (negative : Bool) (cs : List Char) : String :=
  String.ofList (if negative then '-' :: cs else cs)

/-- Digits of any script as ASCII digits. -/
def asciiDigit (c : Char) : Char :=
  match digitValue? c with
  | some d => Char.ofNat (48 + d)
  | none => c

/-- What a decimal that is not a number carries along. -/
def payload? (cs : List Char) : Option Nat :=
  if cs.all isAsciiDigit then some (ofDigits cs) else none

/-- A decimal by a word: infinity, or one that is not a number with its payload. -/
def Decimal.ofWord? (negative : Bool) (word : List Char) : Option Decimal :=
  match word.map asciiLower with
  | ['i', 'n', 'f'] | ['i', 'n', 'f', 'i', 'n', 'i', 't', 'y'] => some (.infinite negative)
  | 'n' :: 'a' :: 'n' :: rest => (payload? rest).map (.notNumber negative false)
  | 's' :: 'n' :: 'a' :: 'n' :: rest => (payload? rest).map (.notNumber negative true)
  | _ => none

/-- Reads the text of a decimal. Blanks around it and underscores in it do not count. -/
def Decimal.ofText? (s : String) : Option Decimal :=
  let cs := ((trimBy isBlank s.toList).filter (· != '_')).map asciiDigit
  let (negative, body) := takeSign cs
  let whole := body.takeWhile isAsciiDigit
  let afterWhole := body.dropWhile isAsciiDigit
  let (fraction, rest) := match afterWhole with
    | '.' :: cs => (cs.takeWhile isAsciiDigit, cs.dropWhile isAsciiDigit)
    | cs => ([], cs)
  if whole.isEmpty && fraction.isEmpty then Decimal.ofWord? negative body
  else (readExponent? rest).map fun e =>
    .finite negative (ofDigits (whole ++ fraction)) (e - fraction.length)

/-- Digits with the point after the first `point` of them, zeros filled in where needed. -/
def placePoint (ds : List Char) (point : Int) : List Char :=
  if point ≤ 0 then '0' :: '.' :: (List.replicate (-point).toNat '0' ++ ds)
  else if ds.length ≤ point.toNat then ds ++ List.replicate (point.toNat - ds.length) '0'
  else ds.take point.toNat ++ '.' :: ds.drop point.toNat

/-- The text of a decimal, with an exponent where the point is far from the digits. -/
def Decimal.text : Decimal → String
  | .infinite negative => withSign negative "Infinity".toList
  | .notNumber negative signalling payload =>
    withSign negative ((if signalling then ['s'] else []) ++ "NaN".toList
      ++ (if payload == 0 then [] else digits payload))
  | .finite negative k e =>
    let ds := digits k
    let point := e + ds.length
    if e ≤ 0 && -6 < point then withSign negative (placePoint ds point)
    else
      let power := point - 1
      withSign negative <| placePoint ds 1 ++
        'E' :: (if power < 0 then '-' else '+') :: digits power.natAbs

/-- The text of a decimal without an exponent; nothing for a value that is not finite. -/
def Decimal.plain? : Decimal → Option String
  | .infinite _ | .notNumber .. => none
  | .finite negative k e =>
    if k == 0 && 0 < e then some (withSign negative ['0'])
    else some (withSign negative (placePoint (digits k) (e + (digits k).length)))

/-- Whether the value is zero. -/
def Decimal.isZero : Decimal → Bool
  | .infinite _ | .notNumber .. => false
  | .finite _ k _ => k == 0

/-- The value rounded towards zero; nothing for a value that is not finite. -/
def Decimal.truncate? : Decimal → Option Int
  | .infinite _ | .notNumber .. => none
  | .finite negative k e =>
    let n : Int := if 0 ≤ e then (k * tenTo e.toNat : Nat) else (k / tenTo (-e).toNat : Nat)
    some (if negative then -n else n)

/-- Whether the value is a whole number. -/
def Decimal.isWhole : Decimal → Bool
  | .infinite _ | .notNumber .. => false
  | .finite _ k e => 0 ≤ e || k % tenTo (-e).toNat == 0

/-- Whether the value is a given whole number. -/
def Decimal.equalsInt (d : Decimal) (n : Int) : Bool := d.isWhole && d.truncate? == some n

/-- The nearest double. A value that signals has none. -/
def Decimal.toFloat? : Decimal → Option Float
  | .infinite negative => some (signed negative (1.0 / 0.0))
  | .notNumber _ signalling _ => if signalling then none else some (0.0 / 0.0)
  | .finite negative k e => some (signed negative (scaleTen k e))

/-- The number of digits that arithmetic on decimals keeps. -/
def Decimal.precision : Nat := 28

/-- The most digits before the point that arithmetic on decimals copes with. -/
def Decimal.mostPlaces : Nat := 1000000

/-- The magnitude, rounded to the digits that arithmetic keeps. -/
def Decimal.magnitude : Decimal → Decimal
  | .finite _ k e =>
    let excess := (digits k).length - precision
    .finite false (roundHalfEven k (tenTo excess)) (e + excess)
  | .infinite _ => .infinite false
  | .notNumber _ signalling payload => .notNumber false signalling payload

end SqlComposer.Number
