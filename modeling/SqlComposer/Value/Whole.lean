import SqlComposer.Number.Reading
import SqlComposer.Value.Written

/-!
# Whole numbers of values

A count that a database returns need not be an integer. `Value.toWhole` takes every number
towards zero and reads text as decimal digits, of any script, with a sign in front and single
underscores between them. Octets are read as ASCII text. A number may have so many digits and no
more, zeros in front counted.
-/

set_option autoImplicit false

namespace SqlComposer

open SqlComposer.Text SqlComposer.Number

/-- What a text is read as. -/
inductive WholeReading where
  | number (n : Int)
  | malformed
  /-- More digits than are read. -/
  | tooLong (count : Nat)
  deriving DecidableEq, Repr

/-- A character that can stand among the digits of a whole number. -/
def isDigitOrMark (c : Char) : Bool := c == '_' || isDigit c

/-- The whole number that a text spells, blanks around it and a sign in front of it allowed. -/
def readWhole (cs : List Char) : WholeReading :=
  let (negative, body) := takeSign (cs.dropWhile isWhiteSpace)
  let run := body.takeWhile isDigitOrMark
  let ds := run.filterMap digitValue?
  if ds.isEmpty || !underscoresBetween run then .malformed
  else if mostDigits < ds.length then .tooLong ds.length
  else if (body.drop run.length).any (!isWhiteSpace ·) then .malformed
  else
    let n : Nat := ds.foldl (fun n d => 10 * n + d) 0
    .number (if negative then -(n : Int) else n)

/-- Octets as characters; those beyond ASCII stand for nothing that is read. -/
def asciiChars (octets : List UInt8) : List Char :=
  octets.map fun b => if b < 128 then Char.ofNat b.toNat else '?'

/-- The most characters of a text that a fault shows. -/
def mostShown : Nat := 200

/-- What comes of reading a text that is shown in a certain way. -/
def WholeReading.outcome (shown : String) : WholeReading → Except Fault Int
  | .number n => .ok n
  | .malformed =>
    .error ⟨.value, "invalid literal for int() with base 10: " ++ firstChars mostShown shown⟩
  | .tooLong count =>
    .error (beyondDigits (": value has " ++ toString count ++ " digits"))

/-- The whole number of a value: numbers are cut off, texts are read. -/
def Value.toWhole (v : Value) : Except Fault Int :=
  match v with
  | .bool b => .ok (if b then 1 else 0)
  | .int n => .ok n
  | .float x =>
    match Binary.ofFloat? x with
    | some b => .ok b.truncate
    | none =>
      .error (if x.isNaN then ⟨.value, "cannot convert float NaN to integer"⟩
        else ⟨.overflow, "cannot convert float infinity to integer"⟩)
  | .decimal d =>
    match d.truncate? with
    | some n => .ok n
    | none =>
      .error (match d with
        | .notNumber .. => ⟨.value, "cannot convert NaN to integer"⟩
        | _ => ⟨.overflow, "cannot convert Infinity to integer"⟩)
  | .text s => (readWhole s.toList).outcome (inspectText s)
  | .bytes bs => (readWhole (asciiChars bs)).outcome (inspectBytes bs)
  | _ => .error ⟨.type, ""⟩

end SqlComposer
