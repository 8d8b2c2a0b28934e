import TableQuery.Number.Decimal
import TableQuery.Assumed.Time.Date
/-!
# Instants

A point in time to the nanosecond. A leap second is the second before it with a billion or more
nanoseconds, so it is an instant of its own and is written as second 60.

Assumed of the library of dates and times: how a clock with an offset gives an instant, and the two ways in
which an instant is written. Which years have a literal is decided in `TableQuery.Literal`.
-/

namespace TableQuery

/-- Seconds since 1970 in UTC, and nanoseconds of that second or of the leap second after it. -/
structure Instant where
  seconds : Int
  nanos : Nat
  nanos_lt : nanos < 2000000000
  deriving DecidableEq

/-- What a calendar and a clock show at one place. -/
structure LocalTime where
  date : Date
  hour : Nat
  minute : Nat
  second : Nat
  nanos : Nat
  nanos_lt : nanos < 2000000000
  deriving DecidableEq

/-- Midnight of a date. -/
def Date.midnight (d : Date) : LocalTime := ⟨d, 0, 0, 0, 0, by decide⟩

/-- The instant at which a clock `offset` seconds ahead of UTC shows `t`. -/
def LocalTime.toInstant (t : LocalTime) (offset : Int) : Instant where
  seconds := t.date.dayNumber * 86400 + (t.hour * 3600 + t.minute * 60 + t.second : Nat) - offset
  nanos := t.nanos
  nanos_lt := t.nanos_lt

namespace Instant

def utc (t : Instant) : LocalTime :=
  let secondOfDay := (t.seconds % 86400).toNat
  { date := Date.ofDayNumber (t.seconds / 86400)
    hour := secondOfDay / 3600
    minute := secondOfDay / 60 % 60
    second := secondOfDay % 60
    nanos := t.nanos
    nanos_lt := t.nanos_lt }

/-- The year in UTC. -/
def year (t : Instant) : Int := t.utc.date.year

end Instant

namespace LocalTime

/-- The second as a clock shows it, 60 or more in a leap second. -/
def shownSecond (t : LocalTime) : Nat := t.second + t.nanos / 1000000000

/-- Nanoseconds of the shown second. -/
def fraction (t : LocalTime) : Nat := t.nanos % 1000000000

/-- At least four digits, with a sign outside years 0 to 9999. -/
def yearText (y : Int) : String :=
  if 0 ≤ y ∧ y ≤ 9999 then zeroPadded 4 y.toNat
  else (if y < 0 then "-" else "+") ++ zeroPadded 4 y.natAbs

def dateText (d : Date) : String :=
  yearText d.year ++ "-" ++ zeroPadded 2 d.month ++ "-" ++ zeroPadded 2 d.day

def clockText (t : LocalTime) : String :=
  zeroPadded 2 t.hour ++ ":" ++ zeroPadded 2 t.minute ++ ":" ++ zeroPadded 2 t.shownSecond

/-- A point and three, six or nine digits, as few as lose nothing; no text for zero. -/
def fractionText (n : Nat) : String :=
  if n = 0 then ""
  else if n % 1000000 = 0 then "." ++ zeroPadded 3 (n / 1000000)
  else if n % 1000 = 0 then "." ++ zeroPadded 6 (n / 1000)
  else "." ++ zeroPadded 9 n

end LocalTime

namespace Instant

/-- The stamp of an instant in a query, cut to whole milliseconds. -/
def stamp (t : Instant) : String :=
  LocalTime.dateText t.utc.date ++ "T" ++ t.utc.clockText ++ "." ++
    zeroPadded 3 (t.utc.fraction / 1000000) ++ "Z"

/-- The text of an instant in a message, nothing cut. -/
def text (t : Instant) : String :=
  LocalTime.dateText t.utc.date ++ " " ++ t.utc.clockText ++ LocalTime.fractionText t.utc.fraction ++
    " UTC"

end Instant

end TableQuery
