import FileCache.Text.Padded
import FileCache.Time.Timestamp

/-!
The two written forms of a time: the date of an HTTP header, and the timestamp
of a health report.
-/

namespace FileCache
namespace Time

open Text

/-- Four digits for the years 0 to 9999, and a sign in front of all others. -/
def writtenYear (year : Int) : String :=
  let digits := padded 4 year.natAbs
  if year < 0 then "-" ++ digits
  else if 9999 < year then "+" ++ digits
  else digits

def weekdayNames : List String := ["Sun", "Mon", "Tue", "Wed", "Thu", "Fri", "Sat"]

def monthNames : List String :=
  ["Jan", "Feb", "Mar", "Apr", "May", "Jun", "Jul", "Aug", "Sep", "Oct", "Nov", "Dec"]

/-- The fraction of a second in 0, 3, 6 or 9 digits, the fewest that are exact. -/
def writtenFraction (nanos : Nat) : String :=
  if nanos = 0 then ""
  else if nanos % 1000000 = 0 then "." ++ padded 3 (nanos / 1000000)
  else if nanos % 1000 = 0 then "." ++ padded 6 (nanos / 1000)
  else "." ++ padded 9 nanos

namespace Timestamp

def clockText (t : Timestamp) : String :=
  padded 2 t.hour ++ ":" ++ padded 2 t.minute ++ ":" ++ padded 2 t.second

/-- The date of an HTTP header, such as `Tue, 14 Nov 2023 22:13:20 GMT`.  The
fraction of the second is dropped. -/
def httpDate (t : Timestamp) : String :=
  weekdayNames.getD (weekday t.days) "" ++ ", " ++ padded 2 t.date.day ++ " " ++
    monthNames.getD (t.date.month - 1) "" ++ " " ++ writtenYear t.date.year ++ " " ++
    t.clockText ++ " GMT"

/-- The date and time in UTC, such as `2023-11-14T22:13:20.5+00:00`. -/
def utc (t : Timestamp) : String :=
  writtenYear t.date.year ++ "-" ++ padded 2 t.date.month ++ "-" ++ padded 2 t.date.day ++
    "T" ++ t.clockText ++ writtenFraction t.nanos ++ "+00:00"

end Timestamp
end Time
end FileCache
