import SqlComposer.Value

/-!
# Issues

What can be wrong with a value that was meant to become a record. An issue has a place, which is
a path of field names, list positions and names of alternatives, and a complaint.
-/

set_option autoImplicit false

namespace SqlComposer

/-- One step of the path to an issue. -/
inductive Step where
  /-- A field, a dictionary key, or an alternative of a choice of types. -/
  | name (name : String)
  /-- A position in a list. -/
  | index (i : Nat)
  deriving DecidableEq, Repr

/-- What is wrong. -/
inductive Complaint where
  | missing
  | notText
  /-- Octets that are no text. -/
  | unreadableText
  | textTooShort (least : Nat)
  | notInteger
  | unreadableInteger
  /-- A number with too many digits, or a double beyond what is taken for a whole number. -/
  | integerTooLong
  | fractionalInteger
  | notFinite
  | notNumber
  | unreadableNumber
  | notBoolean
  | unreadableBoolean
  | notAmong (names : List String)
  | notList
  | listTooShort (least actual : Nat)
  | notDict
  | notRecord (name : String)
  | below (least : Int)
  | above (most : Int)
  | unacceptable (reason : String)
  | unknownField (name : String)
  /-- Records inside one another beyond measure. -/
  | tooDeep
  deriving DecidableEq, Repr

/-- A complaint and its place. -/
structure Issue where
  path : List Step
  complaint : Complaint
  deriving DecidableEq, Repr

/-- A noun in the plural, unless there is one of it. -/
def counted (n : Nat) (noun : String) : String :=
  toString n ++ " " ++ noun ++ (if n == 1 then "" else "s")

/-- Names in quotes, with `or` before the last. -/
def alternatives : List String → String
  | [] => ""
  | [a] => "'" ++ a ++ "'"
  | [a, b] => "'" ++ a ++ "' or '" ++ b ++ "'"
  | a :: rest => "'" ++ a ++ "', " ++ alternatives rest

namespace Complaint

/-- The code of a complaint. -/
def code : Complaint → String
  | .missing => "missing"
  | .notText => "string_type"
  | .unreadableText => "string_unicode"
  | .textTooShort _ => "string_too_short"
  | .notInteger => "int_type"
  | .unreadableInteger => "int_parsing"
  | .integerTooLong => "int_parsing_size"
  | .fractionalInteger => "int_from_float"
  | .notFinite => "finite_number"
  | .notNumber => "float_type"
  | .unreadableNumber => "float_parsing"
  | .notBoolean => "bool_type"
  | .unreadableBoolean => "bool_parsing"
  | .notAmong _ => "enum"
  | .notList => "list_type"
  | .listTooShort .. => "too_short"
  | .notDict => "dict_type"
  | .notRecord _ => "model_type"
  | .below _ => "greater_than_equal"
  | .above _ => "less_than_equal"
  | .unacceptable _ => "value_error"
  | .unknownField _ => "no_such_attribute"
  | .tooDeep => "recursion_depth_exceeded"

/-- A complaint in words. -/
def text : Complaint → String
  | .missing => "Field required"
  | .notText => "Input should be a valid string"
  | .unreadableText =>
    "Input should be a valid string, unable to parse raw data as a unicode string"
  | .textTooShort n => "String should have at least " ++ counted n "character"
  | .notInteger => "Input should be a valid integer"
  | .unreadableInteger =>
    "Input should be a valid integer, unable to parse string as an integer"
  | .integerTooLong => "Unable to parse input string as an integer, exceeded maximum size"
  | .fractionalInteger =>
    "Input should be a valid integer, got a number with a fractional part"
  | .notFinite => "Input should be a finite number"
  | .notNumber => "Input should be a valid number"
  | .unreadableNumber => "Input should be a valid number, unable to parse string as a number"
  | .notBoolean => "Input should be a valid boolean"
  | .unreadableBoolean => "Input should be a valid boolean, unable to interpret input"
  | .notAmong names => "Input should be " ++ alternatives names
  | .notList => "Input should be a valid list"
  | .listTooShort n actual =>
    "List should have at least " ++ counted n "item" ++ " after validation, not "
      ++ toString actual
  | .notDict => "Input should be a valid dictionary"
  | .notRecord name => "Input should be a valid dictionary or instance of " ++ name
  | .below n => "Input should be greater than or equal to " ++ toString n
  | .above n => "Input should be less than or equal to " ++ toString n
  | .unacceptable reason => "Value error, " ++ reason
  | .unknownField name => "Object has no attribute '" ++ name ++ "'"
  | .tooDeep => "Recursion error - maximum validation depth exceeded"

end Complaint

/-- The issue one step further away. -/
def Issue.under (step : Step) (i : Issue) : Issue := { i with path := step :: i.path }

/-- An issue of the value at hand. -/
def Issue.here (complaint : Complaint) : Issue := ⟨[], complaint⟩

end SqlComposer
