import SqlComposer.Number.Binary

/-!
# The shortest text of a double

A double stands for all reals that round to it. Of the decimals in that interval the text takes
one with the fewest digits, and of those the nearest to the double. `shortest` finds it by
trying one digit, two digits and so on, comparing in natural numbers only; seventeen digits
always suffice. `Layout` holds the decisions that the digits leave open, such as where
positional notation ends.
-/

set_option autoImplicit false

namespace SqlComposer.Number

/-- The decimal digits of a natural number. -/
def digits (n : Nat) : List Char := Nat.toDigits 10 n

/-- A magnitude and the ends of its rounding interval over a common denominator, next to the
unit of a decimal grid over the same denominator. -/
structure Grid where
  low : Nat
  value : Nat
  high : Nat
  unit : Nat
  /-- Whether the ends of the interval round to the double themselves. -/
  closed : Bool

/-- The magnitude `b` laid out against the multiples of `10 ^ power`. -/
def Grid.ofBinary (b : Binary) (power : Int) : Grid :=
  let below := if b.significand == twoTo 52 && b.exponent != -1074 then 1 else 2
  let scale := b.exponent - 2
  let up := twoTo scale.toNat * tenTo (-power).toNat
  { low := (4 * b.significand - below) * up
    value := 4 * b.significand * up
    high := (4 * b.significand + 2) * up
    unit := tenTo power.toNat * twoTo (-scale).toNat
    closed := b.significand % 2 == 0 }

/-- Whether the `k`-th point of the grid rounds to the double. -/
def Grid.hits (g : Grid) (k : Nat) : Bool :=
  let point := k * g.unit
  if g.closed then g.low ≤ point && point ≤ g.high else g.low < point && point < g.high

/-- The point of the grid that stands for the double, if one of the two neighbours of its value
does; of two that do, the nearer, and of two equally near the even one. -/
def Grid.pick? (g : Grid) : Option Nat :=
  let k := g.value / g.unit
  match g.hits k, g.hits (k + 1) with
  | false, false => none
  | true, false => some k
  | false, true => some (k + 1)
  | true, true =>
    let rest := g.value % g.unit
    if 2 * rest < g.unit then some k
    else if g.unit < 2 * rest then some (k + 1)
    else some (k + k % 2)

/-- The number of digits before the point of a positive magnitude, counted negatively for the
zeros that follow the point of a smaller one. -/
def Binary.magnitude (b : Binary) : Int :=
  let (num, den) := b.quotient
  if den ≤ num then ((digits (num / den)).length : Int)
  else 1 - ((digits ((den - 1) / num)).length : Int)

/-- Tries grids of growing fineness; `left` bounds the number of them. -/
def shortestFrom (b : Binary) (point : Int) (count : Nat) : Nat → Nat × Int
  | 0 => (0, 0)
  | left + 1 =>
    let power := point - count
    match (Grid.ofBinary b power).pick? with
    | some k => (k, power)
    | none => shortestFrom b point (count + 1) left

/-- The shortest decimal `k · 10 ^ p` that rounds to the positive magnitude. -/
def shortest (b : Binary) : Nat × Int := shortestFrom b b.magnitude 1 17

/-- The digits without the zeros at their end, which only scale them. -/
def significant (k : Nat) : List Char :=
  let ds := ((digits k).reverse.dropWhile (· == '0')).reverse
  if ds.isEmpty then ['0'] else ds

/-- The decisions of a notation that the digits leave open. -/
structure Layout where
  /-- Decimals whose leading digit stands at or above ten to this power are positional. -/
  least : Int
  /-- Decimals whose leading digit stands below ten to this power are positional. -/
  limit : Int
  /-- The fewest digits of an exponent. -/
  exponentDigits : Nat
  /-- What is written for a value that is not a number. -/
  nan : String
  /-- What is written for infinity. -/
  infinity : String

/-- Positional from `0.0001` up to sixteen digits before the point, two digits in an exponent. -/
def Layout.plain : Layout := ⟨-4, 16, 2, "nan", "inf"⟩

/-- The exponent part: its sign is always written. -/
def Layout.exponentText (l : Layout) (e : Int) : List Char :=
  let ds := digits e.natAbs
  'e' :: (if e < 0 then '-' else '+') :: (List.replicate (l.exponentDigits - ds.length) '0' ++ ds)

/-- The text of digits whose point stands after the first `point` of them. A whole number keeps
`.0`, so that it is not read as an integer. -/
def Layout.write (l : Layout) (ds : List Char) (point : Int) : List Char :=
  if l.least ≤ point - 1 && point - 1 < l.limit then
    if point ≤ 0 then
      '0' :: '.' :: (List.replicate (-point).toNat '0' ++ ds)
    else
      let n := point.toNat
      if ds.length ≤ n then ds ++ List.replicate (n - ds.length) '0' ++ ['.', '0']
      else ds.take n ++ '.' :: ds.drop n
  else match ds with
    | [d] => d :: l.exponentText (point - 1)
    | d :: rest => d :: '.' :: (rest ++ l.exponentText (point - 1))
    | [] => []

/-- The text of a double in the given notation. -/
def Layout.text (l : Layout) (x : Float) : String :=
  match Binary.ofFloat? x with
  | none =>
    if x.isNaN then l.nan else if signBit x then "-" ++ l.infinity else l.infinity
  | some b =>
    let unsigned :=
      if b.significand == 0 then l.write ['0'] 1
      else
        let (k, p) := shortest b
        l.write (significant k) (p + (digits k).length)
    String.ofList (if b.negative then '-' :: unsigned else unsigned)

/-- The usual text of a double. -/
def floatText (x : Float) : String := Layout.plain.text x

end SqlComposer.Number
