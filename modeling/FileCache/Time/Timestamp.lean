import FileCache.Time.Calendar

/-!
Points in time, with the day and the time of day that they fall on in UTC.
-/

namespace FileCache
namespace Time

/-- A point in time: whole seconds from the epoch, and the nanoseconds that
follow that second. -/
structure Timestamp where
  seconds : Int
  nanos : Nat
deriving DecidableEq, Repr

namespace Timestamp

def epoch : Timestamp := { seconds := 0, nanos := 0 }

def addMillis (t : Timestamp) (ms : Nat) : Timestamp :=
  let nanos := t.nanos + ms % 1000 * 1000000
  { seconds := t.seconds + (ms / 1000 : Nat) + (nanos / 1000000000 : Nat),
    nanos := nanos % 1000000000 }

def days (t : Timestamp) : Int := t.seconds / 86400

def secondOfDay (t : Timestamp) : Nat := (t.seconds % 86400).toNat

def date (t : Timestamp) : Date := Date.ofDays t.days

def hour (t : Timestamp) : Nat := t.secondOfDay / 3600

def minute (t : Timestamp) : Nat := t.secondOfDay / 60 % 60

def second (t : Timestamp) : Nat := t.secondOfDay % 60

end Timestamp
end Time
end FileCache
