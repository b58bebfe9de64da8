import PlayerRegistry.Text.Decimal
import PlayerRegistry.Time.Calendar

/-!
# Written times

The date of an HTTP header (`Thu, 01 Jan 1970 00:00:00 GMT`), which has whole seconds, and the
time stamp (`1970-01-01T00:00:00Z`), which has a fraction of as few digits as are exact, in groups
of three.
-/

namespace PlayerRegistry.Time

def weekdayNames : List String := ["Sun", "Mon", "Tue", "Wed", "Thu", "Fri", "Sat"]

def monthNames : List String :=
  ["Jan", "Feb", "Mar", "Apr", "May", "Jun", "Jul", "Aug", "Sep", "Oct", "Nov", "Dec"]

/-- Four digits at least, with a sign outside the years 0 to 9999. -/
def yearText (year : Int) : String :=
  if year < 0 then "-" ++ Text.padded 4 year.natAbs
  else if 9999 < year then "+" ++ Text.padded 4 year.toNat
  else Text.padded 4 year.toNat

def clockText (t : TimeOfDay) : String :=
  Text.padded 2 t.hour ++ ":" ++ Text.padded 2 t.minute ++ ":" ++ Text.padded 2 t.second

def httpDate (t : Instant) : String :=
  let days := t.seconds / secondsPerDay
  let date := Date.ofDays days
  weekdayNames.getD (weekday days) "" ++ ", " ++ Text.padded 2 date.day ++ " "
    ++ monthNames.getD (date.month - 1) "" ++ " " ++ yearText date.year ++ " "
    ++ clockText (timeOf t.seconds) ++ " GMT"

def fractionText (nanos : Nat) : String :=
  if nanos = 0 then ""
  else if nanos % 1000000 = 0 then "." ++ Text.padded 3 (nanos / 1000000)
  else if nanos % 1000 = 0 then "." ++ Text.padded 6 (nanos / 1000)
  else "." ++ Text.padded 9 nanos

def timeStamp (t : Instant) : String :=
  let date := dateOf t.seconds
  yearText date.year ++ "-" ++ Text.padded 2 date.month ++ "-" ++ Text.padded 2 date.day
    ++ "T" ++ clockText (timeOf t.seconds) ++ fractionText t.fraction ++ "Z"

end PlayerRegistry.Time
