import SqlComposer.Failure.Fault

/-!
# What is written of values

A value is written as one of its texts, unless a whole number in it has too many digits. Then it is
at fault, whichever text it was to be.
-/

set_option autoImplicit false

namespace SqlComposer

/-- The end of what is said of a number with too many digits. -/
def digitLimitAdvice : String :=
  "; use sys.set_int_max_str_digits() to increase the limit"

/-- The fault of a number with too many digits, and what is said about their number. -/
def beyondDigits (remark : String) : Fault :=
  ⟨.value, "Exceeds the limit (" ++ toString mostDigits
    ++ " digits) for integer string conversion" ++ remark ++ digitLimitAdvice⟩

/-- The fault of a number that has too many digits to be written. -/
def tooManyDigits : Fault := beyondDigits ""

namespace Value

/-- A text of a value, if the value can be written. -/
def written (v : Value) (text : String) : Except Fault String :=
  if v.isWritable then .ok text else .error tooManyDigits

/-- A value written as a reader sees it. -/
def displayed (v : Value) : Except Fault String := v.written v.display

/-- A value written so that its type is seen. -/
def inspected (v : Value) : Except Fault String := v.written v.inspect

theorem written_of_writable {v : Value} (h : v.isWritable = true) (text : String) :
    v.written text = .ok text := if_pos h

theorem written_eq_ok_iff {v : Value} {text written : String} :
    v.written text = .ok written ↔ v.isWritable = true ∧ written = text := by
  unfold Value.written
  cases v.isWritable <;> simp [eq_comm]

end Value

end SqlComposer
