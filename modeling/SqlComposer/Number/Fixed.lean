import SqlComposer.Number.Shortest

/-!
# A fixed number of places

Writing a double with a given number of places rounds its exact binary value once, a half to
the even neighbour.
-/

set_option autoImplicit false

namespace SqlComposer.Number

/-- `n` with `places` of its last digits after the point. -/
def pointed (n places : Nat) : List Char :=
  let ds := digits n
  let padded := List.replicate (places + 1 - ds.length) '0' ++ ds
  let whole := padded.take (padded.length - places)
  if places == 0 then whole else whole ++ '.' :: padded.drop (padded.length - places)

/-- The double with exactly `places` digits after the point. -/
def fixedText (places : Nat) (x : Float) : String :=
  match Binary.ofFloat? x with
  | none => floatText x
  | some b =>
    let (num, den) := b.quotient
    let body := pointed (roundHalfEven (num * tenTo places) den) places
    String.ofList (if b.negative then '-' :: body else body)

/-- A natural number with zeros in front up to `width` digits. -/
def padded (width n : Nat) : String :=
  let ds := digits n
  String.ofList (List.replicate (width - ds.length) '0' ++ ds)

end SqlComposer.Number
