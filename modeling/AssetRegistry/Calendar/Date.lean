/-! # Calendar dates

Dates of the Gregorian calendar, extended to all years from `minYear` to
`maxYear`. -/

namespace AssetRegistry.Calendar

/-- The first year. -/
def minYear : Int := -262143

/-- The last year. -/
def maxYear : Int := 262142

/-- Whether a year has a 29 February. -/
def isLeapYear (year : Int) : Bool :=
  (year % 4 == 0 && year % 100 != 0) || year % 400 == 0

/-- The number of days of a month, and zero for a month that does not exist. -/
def daysInMonth (year : Int) (month : Nat) : Nat :=
  if [1, 3, 5, 7, 8, 10, 12].contains month then 31
  else if [4, 6, 9, 11].contains month then 30
  else if month = 2 then (if isLeapYear year then 29 else 28)
  else 0

/-- A day named by year, month and day of the month. -/
structure Date where
  year : Int
  month : Nat
  day : Nat
  deriving DecidableEq, Repr

namespace Date

/-- Whether the calendar has the day. -/
def isReal (d : Date) : Bool :=
  minYear ≤ d.year && d.year ≤ maxYear && 1 ≤ d.day && d.day ≤ daysInMonth d.year d.month

/-- The following day, unless that is beyond the calendar. -/
def next? (d : Date) : Option Date :=
  let following : Date :=
    if d.day < daysInMonth d.year d.month then { d with day := d.day + 1 }
    else if d.month < 12 then { d with month := d.month + 1, day := 1 }
    else { year := d.year + 1, month := 1, day := 1 }
  if following.isReal then some following else none

/-- The preceding day, unless that is beyond the calendar. -/
def previous? (d : Date) : Option Date :=
  let preceding : Date :=
    if 1 < d.day then { d with day := d.day - 1 }
    else if 1 < d.month then
      { d with month := d.month - 1, day := daysInMonth d.year (d.month - 1) }
    else { year := d.year - 1, month := 12, day := 31 }
  if preceding.isReal then some preceding else none

end Date

end AssetRegistry.Calendar
