import SqlComposer.Failure.Fault

/-!
# Values as sequences

Where several values are taken, most kinds of values will do: the items of a list, the characters
of a text, the octets of a byte string, the keys of a dictionary, the fields of a record. Not all
of them can be counted, and fewer can be asked for the item at a position.
-/

set_option autoImplicit false

namespace SqlComposer.Value

/-- The characters of a text, each as a text. -/
def characters (s : String) : List Value := s.toList.map fun c => .text (String.singleton c)

/-- What a value yields one after another, if it yields anything. -/
def elements? : Value → Option (List Value)
  | .list xs => some xs
  | .tuple xs => some xs
  | .text s => some (characters s)
  | .bytes bs => some (bs.map fun b => .int b.toNat)
  | .dict es => some (es.map fun e => .text e.1)
  | .record _ fields _ => some (pairs fields)
  | _ => none

/-- What a value yields one after another. -/
def elements (v : Value) : Except Fault (List Value) :=
  match v.elements? with
  | some xs => .ok xs
  | none => .error ⟨.type, ""⟩

/-- The elements that have positions. -/
def positions? : Value → Option (List Value)
  | .dict _ => none
  | .record .. => none
  | v => v.elements?

/-- How many elements a value has, if they can be counted. -/
def size? : Value → Option Nat
  | .record .. => none
  | v => v.elements?.map (·.length)

/-- How many elements a value has. -/
def size (v : Value) : Except Fault Nat :=
  match v.size? with
  | some n => .ok n
  | none => .error ⟨.type, ""⟩

/-- The position that an index means among so many; a negative one counts from the end. -/
def position? (size : Nat) (index : Int) : Option Nat :=
  let i := if index < 0 then index + size else index
  if 0 ≤ i ∧ i < size then some i.toNat else none

/-- The element at an index. A dictionary has no entry under a number. -/
def item (v : Value) (index : Int) : Except Fault Value :=
  match v, v.positions? with
  | .dict _, _ => .error (.ofKey (.int index))
  | _, some xs =>
    match (position? xs.length index).bind (xs[·]?) with
    | some x => .ok x
    | none => .error ⟨.index, ""⟩
  | _, none => .error ⟨.type, ""⟩

/-- The beginning of a value, with so many elements at most. -/
def firstElements (n : Nat) : Value → Except Fault Value
  | .text s => .ok (.text (Text.firstChars n s))
  | .bytes bs => .ok (.bytes (bs.take n))
  | .list xs => .ok (.list (xs.take n))
  | .tuple xs => .ok (.tuple (xs.take n))
  | _ => .error ⟨.type, ""⟩

mutual

/-- Whether a value can be a key. -/
def canBeKey : Value → Bool
  | .list _ => false
  | .dict _ => false
  | .record .. => false
  | .tuple xs => canAllBeKeys xs
  | v => !v.signals

/-- Whether all values of a list can be keys. -/
def canAllBeKeys : List Value → Bool
  | [] => true
  | v :: vs => canBeKey v && canAllBeKeys vs

end

/-- The key and the value that the `i`-th element of a sequence gives to a dictionary. -/
def keyAndValue (i : Nat) (v : Value) : Except Fault (Value × Value) :=
  match v.elements? with
  | some [k, x] => if k.canBeKey then .ok (k, x) else .error ⟨.type, ""⟩
  | some xs =>
    .error ⟨.value, "dictionary update sequence element #" ++ toString i ++ " has length "
      ++ toString xs.length ++ "; 2 is required"⟩
  | none => .error ⟨.type, ""⟩

/-- A name that a key is. -/
def keyName : Value → Except Fault String
  | .text s => .ok s
  | .bytes _ => .error ⟨.type, ""⟩
  | _ => .error ⟨.attribute, ""⟩

/-- The dictionary under names that a value makes: a dictionary itself, a record its fields, and
anything else one entry of each of its elements. -/
def asDict : Value → Except Fault (List (String × Value))
  | .dict es => .ok es
  | .record _ fields _ => .ok fields
  | v => do
    let found ← ((← v.elements).mapIdx keyAndValue).mapM id
    return putAll [] (← found.mapM fun e => do return (← e.1.keyName, e.2))

end SqlComposer.Value
