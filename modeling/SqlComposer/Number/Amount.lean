import SqlComposer.Number.Decimal

/-!
# Amounts

An amount is a whole number, a double or a decimal, as it was given. Amounts of all sorts are
compared by their exact values.
-/

set_option autoImplicit false

namespace SqlComposer.Number

/-- A whole number, a double or a decimal. -/
inductive Amount where
  | whole (n : Int)
  | real (x : Float)
  | decimal (d : Decimal)

/-- The exact value of an amount. -/
inductive Magnitude where
  /-- A numerator over a denominator. -/
  | ratio (num : Int) (den : Nat)
  | infinite (negative : Bool)
  | notNumber
  deriving DecidableEq, Repr

/-- A natural number with a sign. -/
def signedInt (negative : Bool) (n : Nat) : Int := if negative then -(n : Int) else n

/-- Whether the first value is less than the second. What is not a number is not less, and nothing
is less than it. -/
def Magnitude.less : Magnitude → Magnitude → Bool
  | .ratio a b, .ratio c d => a * d < c * b
  | .ratio _ _, .infinite negative => !negative
  | .infinite negative, .ratio _ _ => negative
  | .infinite a, .infinite b => a && !b
  | .notNumber, _ => false
  | _, .notNumber => false

/-- The exact value of a double. -/
def magnitudeOfFloat (x : Float) : Magnitude :=
  match Binary.ofFloat? x with
  | some b =>
    let (num, den) := b.quotient
    .ratio (signedInt b.negative num) den
  | none => if x.isNaN then .notNumber else .infinite (x < 0.0)

/-- The exact value of a decimal. -/
def Decimal.exactly : Decimal → Magnitude
  | .finite negative k e =>
    if 0 ≤ e then .ratio (signedInt negative (k * tenTo e.toNat)) 1
    else .ratio (signedInt negative k) (tenTo (-e).toNat)
  | .infinite negative => .infinite negative
  | .notNumber .. => .notNumber

/-- A finite decimal with so many digits after the point; the text of any other. -/
def Decimal.fixed (places : Nat) : Decimal → String
  | .finite negative k e =>
    let scaled := if 0 ≤ e + places then k * tenTo (e + places).toNat
      else roundHalfEven k (tenTo (-(e + places)).toNat)
    withSign negative (pointed scaled places)
  | d => d.text

namespace Amount

/-- The exact value of an amount. -/
def magnitude : Amount → Magnitude
  | .whole n => .ratio n 1
  | .real x => magnitudeOfFloat x
  | .decimal d => d.exactly

/-- The amount as a double. -/
def toFloat : Amount → Float
  | .whole n => ofInt n
  | .real x => x
  | .decimal d => d.toFloat?.getD (0.0 / 0.0)

/-- Whether the first amount is less than the second. -/
def less (a b : Amount) : Bool := a.magnitude.less b.magnitude

/-- The product of two amounts. Whole numbers stay whole; anything else becomes a double. -/
def times : Amount → Amount → Amount
  | .whole a, .whole b => .whole (a * b)
  | a, b => .real (a.toFloat * b.toFloat)

instance : Mul Amount := ⟨times⟩

instance : LT Amount := ⟨fun a b => a.less b = true⟩

instance : DecidableLT Amount := fun a b => inferInstanceAs (Decidable (a.less b = true))

/-- Whether two amounts can be compared. A decimal cannot be compared with what is not a number. -/
def comparable (a b : Amount) : Bool :=
  match a, b with
  | .decimal _, _ => a.magnitude != .notNumber && b.magnitude != .notNumber
  | _, .decimal _ => a.magnitude != .notNumber && b.magnitude != .notNumber
  | _, _ => true

end Amount

end SqlComposer.Number
