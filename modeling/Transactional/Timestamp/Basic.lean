import Transactional.Text.Numeral

/-!
# Timestamps

A calendar date and a time of day without a zone, to the nanosecond.

* `Timestamp` — the values, valid by construction: the date and the time exist.
* `Timestamp.text` — date and time as text, with a given character between them.
-/

namespace Transactional

namespace Timestamp

/-- Whether the year has a twenty-ninth of February. -/
def isLeapYear (year : Int) : Bool :=
  year % 4 = 0 && (year % 100 ≠ 0 || year % 400 = 0)

/-- The number of days in a month; none in a month that does not exist. -/
def daysInMonth (year : Int) (month : Nat) : Nat :=
  match month with
  | 1 | 3 | 5 | 7 | 8 | 10 | 12 => 31
  | 4 | 6 | 9 | 11 => 30
  | 2 => if isLeapYear year then 29 else 28
  | _ => 0

/-- The least year that a date can have. -/
def firstYear : Int := -262143

/-- The greatest year that a date can have. -/
def lastYear : Int := 262142

/-- The date exists in the calendar. -/
def IsDate (year : Int) (month day : Nat) : Prop :=
  firstYear ≤ year ∧ year ≤ lastYear ∧ 1 ≤ day ∧ day ≤ daysInMonth year month

/-- The time of day exists.  The nanoseconds run over two thousand million: from a thousand million
on they mean a leap second, which may follow any second. -/
def IsTime (hour minute second nanosecond : Nat) : Prop :=
  hour < 24 ∧ minute < 60 ∧ second < 60 ∧ nanosecond < 2000000000

instance (year : Int) (month day : Nat) : Decidable (IsDate year month day) := by
  unfold IsDate; infer_instance

instance (hour minute second nanosecond : Nat) :
    Decidable (IsTime hour minute second nanosecond) := by
  unfold IsTime; infer_instance

end Timestamp

/-- **A date and a time of day.** -/
structure Timestamp where
  year : Int
  month : Nat
  day : Nat
  hour : Nat
  minute : Nat
  second : Nat
  /-- The nanoseconds, a thousand million and more within a leap second. -/
  nanosecond : Nat
  isDate : Timestamp.IsDate year month day
  isTime : Timestamp.IsTime hour minute second nanosecond
deriving DecidableEq

namespace Timestamp

/-- The timestamp with these fields, if the date and the time exist. -/
def of? (year : Int) (month day hour minute second nanosecond : Nat) : Option Timestamp :=
  if isDate : IsDate year month day then
    if isTime : IsTime hour minute second nanosecond then
      some ⟨year, month, day, hour, minute, second, nanosecond, isDate, isTime⟩
    else none
  else none

/-- Whether the time falls into a leap second. -/
def isLeapSecond (t : Timestamp) : Bool :=
  1000000000 ≤ t.nanosecond

/-! ## Text -/

/-- A year: four places from 0 to 9999, otherwise a sign and at least four places. -/
def yearText (year : Int) : String :=
  if 0 ≤ year ∧ year ≤ 9999 then Text.padded 4 year.natAbs
  else (if year < 0 then "-" else "+") ++ Text.padded 4 year.natAbs

/-- The part of a second: nothing, or a point and three, six or nine places, as few of these as
show it exactly. -/
def fractionText (nanosecond : Nat) : String :=
  if nanosecond = 0 then ""
  else if nanosecond % 1000000 = 0 then "." ++ Text.padded 3 (nanosecond / 1000000)
  else if nanosecond % 1000 = 0 then "." ++ Text.padded 6 (nanosecond / 1000)
  else "." ++ Text.padded 9 nanosecond

/-- **Date, separator, time.**  A leap second shows as the second after, so that of the last second
of a minute shows as second 60. -/
def text (separator : String) (t : Timestamp) : String :=
  yearText t.year ++ "-" ++ Text.padded 2 t.month ++ "-" ++ Text.padded 2 t.day ++ separator
    ++ Text.padded 2 t.hour ++ ":" ++ Text.padded 2 t.minute ++ ":"
    ++ Text.padded 2 (if t.isLeapSecond then t.second + 1 else t.second)
    ++ fractionText (t.nanosecond % 1000000000)

/-- The text that statements and stored columns hold: a space between date and time. -/
def spaced (t : Timestamp) : String :=
  t.text " "

/-- The text of serialised data: a `T` between date and time. -/
def joined (t : Timestamp) : String :=
  t.text "T"

end Timestamp

end Transactional
