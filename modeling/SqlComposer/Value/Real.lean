import SqlComposer.Value.Amount

/-!
# Real numbers of values

`Value.toReal` takes every amount as a double and reads text as one: in decimal notation, with
digits of any script, blanks around it and single underscores between digits.
-/

set_option autoImplicit false

namespace SqlComposer

open SqlComposer.Text SqlComposer.Number

/-- Whether each underscore stands between two digits; `afterDigit` tells what came before. -/
def marksBetweenDigits (afterDigit : Bool) : List Char → Bool
  | [] => true
  | c :: cs =>
    if c == '_' then
      afterDigit && cs.head?.any isAsciiDigit && marksBetweenDigits false cs
    else marksBetweenDigits (isAsciiDigit c) cs

/-- The double that a text spells. -/
def readReal? (cs : List Char) : Option Float :=
  let cs := (trimBy isWhiteSpace cs).map asciiDigit
  if marksBetweenDigits false cs then readFloat? (cs.filter (· != '_')) else none

/-- The double of a value: amounts are rounded to one, texts are read. -/
def Value.toReal (v : Value) : Except Fault Float :=
  match v, v.amount? with
  | .text s, _ =>
    match readReal? s.toList with
    | some x => .ok x
    | none => .error ⟨.value, "could not convert string to float: " ++ inspectText s⟩
  | .int n, _ =>
    if isFinite (ofInt n) then .ok (ofInt n)
    else .error ⟨.overflow, "int too large to convert to float"⟩
  | _, some a => .ok a.toFloat
  | _, none => .error ⟨.type, ""⟩

end SqlComposer
