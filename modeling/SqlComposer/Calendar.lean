import SqlComposer.Number.Fixed

/-!
# Dates and times

Calendar values without a time zone, the texts they are written in, and the moment at which a
log record was made. Moments are seconds since the start of 1970 as a double; a moment's
microseconds are rounded to the nearest, a half to the even one.
-/

set_option autoImplicit false

namespace SqlComposer

open SqlComposer.Number (padded)

/-- A day of the calendar. -/
structure Date where
  year : Nat
  month : Nat
  day : Nat
  deriving DecidableEq, Repr

/-- A time of day. -/
structure TimeOfDay where
  hour : Nat
  minute : Nat
  second : Nat
  microsecond : Nat
  deriving DecidableEq, Repr

/-- A day and a time on it. -/
structure DateTime where
  date : Date
  time : TimeOfDay
  deriving DecidableEq, Repr

/-- A length of time. Only the days of a normalised length can be negative. -/
structure TimeSpan where
  days : Int
  seconds : Nat
  microseconds : Nat
  deriving DecidableEq, Repr

/-- `2024-05-01` -/
def Date.text (d : Date) : String :=
  padded 4 d.year ++ "-" ++ padded 2 d.month ++ "-" ++ padded 2 d.day

/-- `10:00:00`, with six more digits unless the microseconds are zero. -/
def TimeOfDay.text (t : TimeOfDay) : String :=
  padded 2 t.hour ++ ":" ++ padded 2 t.minute ++ ":" ++ padded 2 t.second
    ++ (if t.microsecond == 0 then "" else "." ++ padded 6 t.microsecond)

/-- The date and the time with `separator` between them. -/
def DateTime.text (separator : String) (t : DateTime) : String :=
  t.date.text ++ separator ++ t.time.text

/-- All of a length of time in microseconds. -/
def TimeSpan.total (d : TimeSpan) : Int :=
  (d.days * 86400 + d.seconds) * 1000000 + d.microseconds

/-- The normalised length of so many microseconds. -/
def TimeSpan.ofMicroseconds (total : Int) : TimeSpan :=
  ⟨total / 86400000000, (total / 1000000 % 86400).toNat, (total % 1000000).toNat⟩

/-- The greatest number of days, forwards or backwards, that a length of time can have. -/
def TimeSpan.mostDays : Nat := 999999999

/-- Whether a year has a leap day. -/
def isLeapYear (year : Int) : Bool := year % 4 == 0 && (year % 100 != 0 || year % 400 == 0)

/-- The number of days of a month. -/
def daysInMonth (year : Int) (month : Nat) : Nat :=
  if month == 2 then (if isLeapYear year then 29 else 28)
  else if month == 4 || month == 6 || month == 9 || month == 11 then 30
  else 31

/-- `-1 day, 1:00:00.000005` -/
def TimeSpan.text (d : TimeSpan) : String :=
  let days :=
    if d.days == 0 then ""
    else toString d.days ++ (if d.days.natAbs == 1 then " day, " else " days, ")
  days ++ toString (d.seconds / 3600) ++ ":" ++ padded 2 (d.seconds / 60 % 60) ++ ":"
    ++ padded 2 (d.seconds % 60)
    ++ (if d.microseconds == 0 then "" else "." ++ padded 6 d.microseconds)

/-- The year, the month and the day of the day that lies `days` days after the first of January
1970. The count runs through eras of 400 years that begin in March, so that a leap day is the
last day of its year. -/
def civil (days : Int) : Int × Nat × Nat :=
  let z := days + 719468
  let era := z / 146097
  let dayOfEra := (z % 146097).toNat
  let yearOfEra :=
    (dayOfEra - dayOfEra / 1460 + dayOfEra / 36524 - dayOfEra / 146096) / 365
  let dayOfYear := dayOfEra - (365 * yearOfEra + yearOfEra / 4 - yearOfEra / 100)
  let monthFromMarch := (5 * dayOfYear + 2) / 153
  let month := if monthFromMarch < 10 then monthFromMarch + 3 else monthFromMarch - 9
  (era * 400 + yearOfEra + if month ≤ 2 then 1 else 0, month,
    dayOfYear - (153 * monthFromMarch + 2) / 5 + 1)

/-- The day that lies `days` days after the first of January 1970, from the year 0 on. -/
def Date.ofDays (days : Int) : Date :=
  let (year, month, day) := civil days
  ⟨year.toNat, month, day⟩

/-- The date and time so many whole seconds after the start of 1970. -/
def DateTime.ofSeconds (seconds : Int) (microsecond : Nat) : DateTime :=
  let rest := (seconds % 86400).toNat
  { date := Date.ofDays (seconds / 86400)
    time := ⟨rest / 3600, rest / 60 % 60, rest % 60, microsecond⟩ }

/-- A double rounded to the nearest whole number, a half to the even one. -/
def nearestInt (x : Float) : Int :=
  match Number.Binary.ofFloat? x with
  | none => 0
  | some b =>
    let n := Number.roundHalfEven b.quotient.1 b.quotient.2
    if b.negative then -(n : Int) else n

/-- A double rounded towards zero. -/
def truncated (x : Float) : Int :=
  ((Number.Binary.ofFloat? x).map Number.Binary.truncate).getD 0

/-- The part of a moment after its whole second, both with the sign of the moment. -/
def splitSecond (moment : Float) : Int × Float :=
  let whole := truncated moment
  (whole, moment - Number.ofInt whole)

/-- The whole seconds of a moment and the microseconds after them. -/
def wholeSeconds (moment : Float) : Int × Nat :=
  let (whole, rest) := splitSecond moment
  let micros := nearestInt (rest * 1000000.0)
  if micros < 0 then (whole - 1, (micros + 1000000).toNat)
  else if 1000000 ≤ micros then (whole + 1, (micros - 1000000).toNat)
  else (whole, micros.toNat)

/-- `2023-11-14T22:13:20.500000+00:00`, the form of a moment in structured logs. -/
def DateTime.momentText (t : DateTime) : String := t.text "T" ++ "+00:00"

/-- `2023-11-14 22:13:20,500`, the form of a moment in log lines: milliseconds are cut off. -/
def lineMomentText (moment : Float) : String :=
  let (whole, rest) := splitSecond moment
  let millis := (truncated (rest * 1000.0)).toNat
  (DateTime.ofSeconds whole 0).text " " ++ "," ++ padded 3 millis

end SqlComposer
