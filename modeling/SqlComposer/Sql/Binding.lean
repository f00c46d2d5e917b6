import SqlComposer.Sql.Quoting
import SqlComposer.Sql.Rejection

/-!
# Binding values to placeholders

Statements are composed with anonymous placeholders, and the database layer below binds by
name. `bindPositional` replaces the question marks outside quotes by the names `:p0`, `:p1` and
so on, and gives each name its value. A colon that the layer below would take for the start of
a name is kept from it by a backslash.
-/

set_option autoImplicit false

namespace SqlComposer.Sql

open SqlComposer.Text

/-- A statement whose placeholders have names, with a value for each. -/
structure BoundStatement where
  statement : String
  params : List (String × Value)

/-- The name of the `i`-th placeholder. -/
def paramName (i : Nat) : String := "p" ++ toString i

/-- Whether a colon would be read as the start of a name: a word character follows. -/
def startsName (next : Option Char) : Bool :=
  match next with
  | some c => isWord c
  | none => false

/-- One character that is no placeholder, as it is written into the named statement. After a
backslash inside quotes nothing is changed. -/
def keptChar (r : Region) (c : Char) (next : Option Char) : List Char :=
  match r with
  | .escaped _ => [c]
  | _ => if c == ':' && startsName next then ['\\', ':'] else [c]

/-- The named form of a text, the values it takes by name, and the values left over; nothing if
it takes more than there are. `index` placeholders came before the text. -/
def bindFrom : Region → (index : Nat) → List Value → List Char →
    Option (List Char × List (String × Value) × List Value)
  | _, _, vs, [] => some ([], [], vs)
  | r, index, vs, c :: cs =>
    if r = .outside ∧ c = '?' then
      match vs with
      | [] => none
      | v :: vs => (bindFrom .outside (index + 1) vs cs).map fun (text, params, left) =>
          (':' :: ((paramName index).toList ++ text), (paramName index, v) :: params, left)
    else
      (bindFrom (r.step c) index vs cs).map fun (text, params, left) =>
        (keptChar r c cs.head? ++ text, params, left)

/-- Names the placeholders of a statement and gives them their values, one each in textual
order. -/
def bindPositional (sql : String) (values : List Value) : Except Rejection BoundStatement :=
  match bindFrom .outside 0 values sql.toList with
  | none => .error (.tooFewValues sql values.length)
  | some (text, params, []) => .ok ⟨String.ofList text, params⟩
  | some (_, _, left) => .error (.tooManyValues sql (values.length - left.length) values.length)

end SqlComposer.Sql
