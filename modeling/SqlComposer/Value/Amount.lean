import SqlComposer.Failure.Fault
import SqlComposer.Number.Amount

/-!
# Amounts among values

Numbers of all sorts, booleans among them, are amounts. Amounts are compared and written with a
fixed number of places; other values are at fault when that is tried.
-/

set_option autoImplicit false

namespace SqlComposer

open SqlComposer.Number

namespace Value

/-- The amount that a value is. -/
def amount? : Value → Option Amount
  | .int n => some (.whole n)
  | .bool b => some (.whole (if b then 1 else 0))
  | .float x => some (.real x)
  | .decimal d => some (.decimal d)
  | _ => none

/-- The whole number that a value is; a boolean is one. -/
def whole? : Value → Option Int
  | .int n => some n
  | .bool b => some (if b then 1 else 0)
  | _ => none

/-- Whether the first value is less than the second. Amounts are compared with amounts and texts
with texts. -/
def less (v w : Value) : Except Fault Bool :=
  match v.amount?, w.amount?, v, w with
  | some a, some b, _, _ =>
    if a.comparable b then .ok (a.less b) else .error ⟨.invalidNumber, ""⟩
  | _, _, .text s, .text t => .ok (s < t)
  | _, _, _, _ => .error ⟨.type, ""⟩

/-- Whether a value is more than zero. -/
def isPositive (v : Value) : Except Fault Bool := (Value.int 0).less v

/-- A value with two digits after the point. -/
def cents (v : Value) : Except Fault String :=
  match v, v.amount? with
  | .text _, _ => .error ⟨.value, "Unknown format code 'f' for object of type 'str'"⟩
  | _, some (.decimal d) => .ok (d.fixed 2)
  | _, some (.real x) => .ok (fixedText 2 x)
  | _, some (.whole n) =>
    if isFinite (ofInt n) then .ok (fixedText 2 (ofInt n))
    else .error ⟨.overflow, "int too large to convert to float"⟩
  | _, none => .error ⟨.type, ""⟩

end Value

end SqlComposer
