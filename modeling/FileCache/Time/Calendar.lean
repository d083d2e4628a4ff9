/-
The proleptic Gregorian calendar, counted in days from 1 January 1970.
-/
namespace FileCache
namespace Time

structure Date where
  year : Int
  month : Nat
  day : Nat
deriving DecidableEq, Repr

namespace Date

/-- Days from 1 March of year 0 to the epoch. -/
def epochOffset : Int := 719468

/-- The calendar repeats after 400 years. -/
def daysPerCycle : Int := 146097

/-- The date that lies `days` after 1 January 1970.  Years are counted from
1 March, so that the leap day is the last day of a year. -/
def ofDays (days : Int) : Date :=
  let shifted := days + epochOffset
  let cycle := shifted / daysPerCycle
  let inCycle := (shifted % daysPerCycle).toNat
  let yearOfCycle := (inCycle - inCycle / 1460 + inCycle / 36524 - inCycle / 146096) / 365
  let dayOfYear := inCycle - (365 * yearOfCycle + yearOfCycle / 4 - yearOfCycle / 100)
  let monthFromMarch := (5 * dayOfYear + 2) / 153
  let day := dayOfYear - (153 * monthFromMarch + 2) / 5 + 1
  let month := if monthFromMarch < 10 then monthFromMarch + 3 else monthFromMarch - 9
  let year := cycle * 400 + yearOfCycle
  { year := if month ≤ 2 then year + 1 else year, month, day }

end Date

/-- The day of the week, 0 for Sunday.  The epoch was a Thursday. -/
def weekday (days : Int) : Nat :=
  ((days + 4) % 7).toNat

end Time
end FileCache
