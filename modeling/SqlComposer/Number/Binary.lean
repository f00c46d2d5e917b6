/-!
# Binary numbers, exactly

A finite double is a whole number times a power of two. `Binary.ofFloat?` reads both off the
bits of the double, and everything that prints or rounds a double works on them in `Nat` and
`Int`, so no digit depends on rounded arithmetic.
-/

set_option autoImplicit false

namespace SqlComposer.Number

/-- A power of two. -/
def twoTo (n : Nat) : Nat := Nat.pow 2 n

/-- A power of ten. -/
def tenTo (n : Nat) : Nat := Nat.pow 10 n

/-- The exact value of a finite double: `± significand · 2 ^ exponent`. -/
structure Binary where
  /-- Whether the sign bit is set; a zero can have it too. -/
  negative : Bool
  /-- The whole number that is scaled. -/
  significand : Nat
  /-- The power of two it is scaled by. -/
  exponent : Int
  deriving DecidableEq, Repr

/-- The sign bit of a double. -/
def signBit (x : Float) : Bool := twoTo 63 ≤ x.toBits.toNat

/-- The exact value of a double, unless it is infinite or not a number. -/
def Binary.ofFloat? (x : Float) : Option Binary :=
  let bits := x.toBits.toNat
  let biased : Nat := bits / twoTo 52 % twoTo 11
  let fraction : Nat := bits % twoTo 52
  if biased == 2047 then none
  else if biased == 0 then some ⟨signBit x, fraction, -1074⟩
  else some ⟨signBit x, fraction + twoTo 52, (biased : Int) - 1075⟩

/-- The magnitude as a quotient of two natural numbers. -/
def Binary.quotient (b : Binary) : Nat × Nat :=
  if 0 ≤ b.exponent then (b.significand * twoTo b.exponent.toNat, 1)
  else (b.significand, twoTo (-b.exponent).toNat)

/-- The largest whole number that is not above the magnitude. -/
def Binary.floor (b : Binary) : Nat := b.quotient.1 / b.quotient.2

/-- Whether the value is a whole number. -/
def Binary.isWhole (b : Binary) : Bool := b.quotient.1 % b.quotient.2 == 0

/-- The value rounded towards zero. -/
def Binary.truncate (b : Binary) : Int := if b.negative then -(b.floor : Int) else b.floor

/-- The quotient `num / den` rounded to the nearest whole number, a half to the even one. -/
def roundHalfEven (num den : Nat) : Nat :=
  let whole := num / den
  let rest := num % den
  if 2 * rest < den then whole
  else if den < 2 * rest then whole + 1
  else whole + whole % 2

/-- A double that is neither infinite nor not a number. -/
def isFinite (x : Float) : Bool := (Binary.ofFloat? x).isSome

/-- The double nearest to a whole number. -/
def ofInt (n : Int) : Float :=
  if n < 0 then -(Float.ofScientific n.natAbs false 0) else Float.ofScientific n.natAbs false 0

/-- `floor |x|` of a finite double. -/
def floorAbs (x : Float) : Nat := ((Binary.ofFloat? x).map Binary.floor).getD 0

end SqlComposer.Number
