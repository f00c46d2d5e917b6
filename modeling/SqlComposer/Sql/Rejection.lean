import SqlComposer.Sql.Denylist
import SqlComposer.Value.Written

/-!
# Rejections

The reasons for which a statement is not composed or not bound. Each is a case of its own;
`Rejection.failure` says what the caller gets to see.
-/

set_option autoImplicit false

namespace SqlComposer.Sql

/-- A reason for not composing or not binding a statement. -/
inductive Rejection where
  /-- A fragment holds a sign of the denylist. -/
  | dangerous (kind : FragmentKind) (fragment : String) (sign : Sign)
  /-- A name that would be written bare has other characters than letters, digits and `_`. -/
  | badToken (option : String) (text : String)
  /-- A foreign key does not refer to `table(column)`. -/
  | badReference (text : String)
  /-- A statement has more placeholders than there are values. -/
  | tooFewValues (sql : String) (supplied : Nat)
  /-- A statement has fewer placeholders than there are values. -/
  | tooManyValues (sql : String) (found supplied : Nat)
  /-- A query takes another number of values from its caller than it was given. -/
  | callerValues (sql : String) (expected : Int) (supplied : Nat)
  /-- Nothing to write. -/
  | noData (statement : String)
  /-- No rows to write. -/
  | noRows
  /-- Rows without columns. -/
  | noColumns
  /-- A row whose columns are not those of the first. -/
  | otherColumns (row : Nat) (expected actual : List String)
  /-- A statement that would change every row. -/
  | noCondition (statement : String)
  /-- A text that is no sort direction. -/
  | unknownDirection (text : String)
  /-- A row limit that is infinite or not a number. -/
  | endlessBound (isNaN : Bool)
  /-- A whole number with too many digits to be written. -/
  | unwritable

/-- The length of the part of a statement that an error shows. -/
def excerptLength : Nat := 500

/-- The part of a statement that an error shows. -/
def excerpt (sql : String) : Value := .text (Text.firstChars excerptLength sql)

/-- An error about a number of values, showing a part of the statement. -/
def mismatch (message : String) (excerpt : Value) : Failure :=
  .error (.validation .placeholderMismatch message (some "values") .null
    (.ofDetails [("query", excerpt)]))

/-- What is said about a query that takes another number of values from its caller. -/
def callerMismatch (expected : String) (supplied : Nat) : String :=
  "Query has " ++ expected ++ " caller placeholders but " ++ toString supplied
    ++ " values were supplied"

/-- An error about missing input. -/
def missing (message field : String) : Failure :=
  .error (.validation .validation message (some field) .null .empty)

/-- What the caller gets to see of a rejection. -/
def Rejection.failure : Rejection → Failure
  | .dangerous kind fragment sign => .error (.dangerous kind.label fragment sign.pattern)
  | .badToken option text =>
    .error (.validation .invalidIdentifier
      ("Invalid " ++ option ++ ": only letters, digits and underscores are allowed")
      (some option) (.text text) .empty)
  | .badReference text =>
    .error (.validation .invalidIdentifier "Invalid foreign key reference format"
      (some "reference") (.text text) .empty)
  | .tooFewValues sql supplied =>
    mismatch ("Statement has more placeholders than the " ++ toString supplied
      ++ " values supplied") (excerpt sql)
  | .tooManyValues sql found supplied =>
    mismatch ("Statement has " ++ toString found ++ " placeholders but " ++ toString supplied
      ++ " values were supplied") (excerpt sql)
  | .callerValues sql expected supplied =>
    mismatch (callerMismatch (toString expected) supplied) (excerpt sql)
  | .noData statement => missing ("Cannot build " ++ statement ++ " without data") "data"
  | .noRows => missing "Cannot build batch INSERT without rows" "rows"
  | .noColumns => missing "Cannot build batch INSERT from rows without columns" "rows"
  | .otherColumns row expected actual =>
    .error (.validation .validation
      ("Row " ++ toString row ++ " does not match the columns of the first row") (some "rows")
      .null
      (.ofDetails [("expected", .list (expected.map .text)), ("actual", .list (actual.map .text))]))
  | .noCondition statement =>
    missing ("Refusing to build " ++ statement ++ " without a WHERE condition") "where"
  | .unknownDirection text =>
    .fault ⟨.value, inspectText text ++ " is not a valid SortDirection"⟩
  | .endlessBound true => .fault ⟨.value, "cannot convert float NaN to integer"⟩
  | .endlessBound false => .fault ⟨.overflow, "cannot convert float infinity to integer"⟩
  | .unwritable => .fault tooManyDigits

/-- Accepts a fragment that holds no sign of the denylist, unchanged. -/
def checkFragment (kind : FragmentKind) (fragment : String) : Except Rejection String :=
  match dangerIn? fragment with
  | some sign => .error (.dangerous kind fragment sign)
  | none => .ok fragment

/-- Refuses a value that cannot be written. -/
def checkWritable (v : Value) : Except Rejection Unit :=
  if v.isWritable then .ok () else .error .unwritable

end SqlComposer.Sql
