/-!
# Calendar dates

Dates of the proleptic Gregorian calendar and their day numbers, counted from 1970-01-01. Years are
taken to begin in March, so that the day added in a leap year is the last of its year. Four
hundred such years, an era, always have 146097 days. Assumed of the calendar in use.
-/

namespace TableQuery

structure Date where
  year : Int
  month : Nat
  day : Nat
  deriving DecidableEq

namespace Date

/-- Days of an era before its year `y`, for `y < 400`. -/
def daysBeforeYear (y : Nat) : Nat := 365 * y + y / 4 - y / 100

/-- Days before month `m` in a year that begins in March, which has number 0. -/
def daysBeforeMonth (m : Nat) : Nat := (153 * m + 2) / 5

/-- The year of an era that holds its day `d`, for `d < 146097`. -/
def yearOfEraDay (d : Nat) : Nat := (d - d / 1460 + d / 36524 - d / 146096) / 365

/-- The month that holds day `d` of a year, March being month 0. -/
def monthOfYearDay (d : Nat) : Nat := (5 * d + 2) / 153

/-- The day number of 1970-01-01, counted from the first day of era 0. -/
def epoch : Int := 719468

/-- Days since 1970-01-01, negative before it. -/
def dayNumber (d : Date) : Int :=
  let year := if d.month ≤ 2 then d.year - 1 else d.year
  let era := year / 400
  let yearOfEra := (year % 400).toNat
  let dayOfYear := daysBeforeMonth ((d.month + 9) % 12) + (d.day - 1)
  era * 146097 + (daysBeforeYear yearOfEra + dayOfYear : Nat) - epoch

def ofDayNumber (n : Int) : Date :=
  let era := (n + epoch) / 146097
  let dayOfEra := ((n + epoch) % 146097).toNat
  let yearOfEra := yearOfEraDay dayOfEra
  let dayOfYear := dayOfEra - daysBeforeYear yearOfEra
  let march := monthOfYearDay dayOfYear
  let month := if march < 10 then march + 3 else march - 9
  { year := era * 400 + yearOfEra + (if month ≤ 2 then 1 else 0)
    month
    day := dayOfYear - daysBeforeMonth march + 1 }

end Date

end TableQuery
