import SqlComposer.Failure.Fault

/-!
# Moments of log records

The moment of a log record is a number of seconds since the start of 1970. Where another value
stands in its place, or a number for which there is no date, the record cannot be written. Years
are counted from 1900 in words of 32 bits before they are counted from 1, so that a year beyond
these words fails in another way than one that is only beyond four digits.
-/

set_option autoImplicit false

namespace SqlComposer.Log

open SqlComposer.Number (twoTo)

/-- The fault of a moment beyond all that can be counted. -/
def uncountable {α : Type} : Except Fault α :=
  .error ⟨.overflow, "timestamp out of range for platform time_t"⟩

/-- Whether a whole number fits into a word of so many bits. -/
def fitsWord (bits : Nat) (n : Int) : Bool :=
  -(twoTo (bits - 1) : Int) ≤ n && n < (twoTo (bits - 1) : Int)

/-- The whole seconds of a value that stands for a moment, and the microseconds after them. -/
def secondsOf (v : Value) : Except Fault (Int × Nat) :=
  let counted (seconds : Int × Nat) : Except Fault (Int × Nat) :=
    if fitsWord 64 seconds.1 then .ok seconds else uncountable
  match v with
  | .float x =>
    if x.isNaN then .error ⟨.value, "Invalid value NaN (not a number)"⟩
    else if !Number.isFinite x then uncountable
    else counted (wholeSeconds x)
  | .int n => counted (n, 0)
  | .bool b => .ok (if b then 1 else 0, 0)
  | _ => .error ⟨.type, ""⟩

/-- The last year that is dated. -/
def lastYear : Int := 9999

/-- The date and time of a value that stands for a moment. -/
def dated (v : Value) : Except Fault DateTime := do
  let (seconds, micros) ← secondsOf v
  let year := (civil (seconds / 86400)).1
  if !fitsWord 32 (year - 1900) then throw ⟨.system, ""⟩
  let told := year.bmod (twoTo 32)
  if told < 1 || lastYear < told then
    throw ⟨.value, "year " ++ toString told ++ " is out of range"⟩
  return .ofSeconds seconds micros

end SqlComposer.Log
