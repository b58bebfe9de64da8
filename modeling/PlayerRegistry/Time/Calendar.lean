/-!
# Calendar

Instants, and the proleptic Gregorian calendar. Days are counted from 1 January 1970; years may be
negative, with a year 0. Inside the calculation a year begins in March, so that the leap day is its
last day.
-/

namespace PlayerRegistry

/-- A point in time, in nanoseconds since the beginning of 1970. -/
structure Instant where
  nanos : Int
  deriving DecidableEq, Inhabited, Repr

namespace Instant

def ofSeconds (s : Int) : Instant := ⟨s * 1000000000⟩

def ofMillis (ms : Int) : Instant := ⟨ms * 1000000⟩

/-- The last whole second that is not later. -/
def seconds (t : Instant) : Int := t.nanos / 1000000000

/-- What is left beyond the whole second, in nanoseconds. -/
def fraction (t : Instant) : Nat := (t.nanos % 1000000000).toNat

def addSeconds (t : Instant) (s : Int) : Instant := ⟨t.nanos + s * 1000000000⟩

end Instant

namespace Time

structure Date where
  year : Int
  month : Nat
  day : Nat
  deriving DecidableEq, Repr

/-- Days from 1 March of year 0 to 1 January 1970. -/
def epochOffset : Int := 719468

/-- Days in 400 years. -/
def daysInEra : Int := 146097

/-- Year of the era (0 to 399, beginning in March) of a day of the era. -/
def yearOfEra (d : Int) : Int := (d - d / 1460 + d / 36524 - d / 146096) / 365

/-- First day of a year of the era. -/
def firstDayOf (y : Int) : Int := 365 * y + y / 4 - y / 100

/-- Month (0 for March) of a day of the year. -/
def monthOfYear (d : Int) : Int := (5 * d + 2) / 153

/-- First day of the year that lies in month `m`. -/
def firstDayOfMonth (m : Int) : Int := (153 * m + 2) / 5

def Date.ofDays (days : Int) : Date :=
  let z := days + epochOffset
  let era := z / daysInEra
  let dayOfEra := z % daysInEra
  let y := yearOfEra dayOfEra
  let dayOfYear := dayOfEra - firstDayOf y
  let m := monthOfYear dayOfYear
  { year := y + 400 * era + (if m < 10 then 0 else 1)
    month := (if m < 10 then m + 3 else m - 9).toNat
    day := (dayOfYear - firstDayOfMonth m + 1).toNat }

/-- Day of the week, 0 for Sunday. -/
def weekday (days : Int) : Nat := ((days + 4) % 7).toNat

structure TimeOfDay where
  hour : Nat
  minute : Nat
  second : Nat
  deriving DecidableEq, Repr

def TimeOfDay.ofSeconds (s : Nat) : TimeOfDay := ⟨s / 3600, s / 60 % 60, s % 60⟩

def secondsPerDay : Int := 86400

/-- The date of a count of seconds. -/
def dateOf (seconds : Int) : Date := Date.ofDays (seconds / secondsPerDay)

def timeOf (seconds : Int) : TimeOfDay := TimeOfDay.ofSeconds (seconds % secondsPerDay).toNat

end Time

end PlayerRegistry
