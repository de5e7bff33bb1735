import AssetRegistry.Calendar.Date
import AssetRegistry.Text.Basic

/-! # Instants

An instant is a date and a time of day in universal time.  Its text has the
fewest of 0, 3, 6 or 9 fraction digits that lose nothing. -/

namespace AssetRegistry.Calendar

open Text

/-- A time of day.  Second 60 is a leap second. -/
structure TimeOfDay where
  hour : Nat
  minute : Nat
  second : Nat
  nanosecond : Nat
  deriving DecidableEq, Repr

/-- Whether a clock shows the time. -/
def TimeOfDay.isReal (t : TimeOfDay) : Bool :=
  t.hour ≤ 23 && t.minute ≤ 59 && t.second ≤ 60 && t.nanosecond < 1000000000

/-- A date and a time of day in universal time. -/
structure Instant where
  date : Date
  time : TimeOfDay
  deriving DecidableEq, Repr

/-- The instant at which a clock that is `offset` minutes ahead of universal
    time shows a date and a time. -/
def Instant.ofLocal? (date : Date) (time : TimeOfDay) (offset : Int) : Option Instant := do
  if !date.isReal || !time.isReal then none
  -- An offset is less than a day, so it moves the date by one at most.
  let minutes : Int := time.hour * 60 + time.minute - offset
  let date ←
    if minutes < 0 then date.previous?
    else if 1440 ≤ minutes then date.next?
    else some date
  let minutes := (minutes % 1440).toNat
  return ⟨date, { time with hour := minutes / 60, minute := minutes % 60 }⟩

/-- Four digits for the years 0 to 9999, a sign and at least four digits for
    others. -/
def yearText (year : Int) : List Char :=
  if 0 ≤ year ∧ year ≤ 9999 then padded 4 year.toNat
  else (if year < 0 then '-' else '+') :: padded 4 year.natAbs

/-- Nothing for a whole second, otherwise a point and 3, 6 or 9 digits. -/
def fractionText (nanosecond : Nat) : List Char :=
  if nanosecond = 0 then []
  else if nanosecond % 1000000 = 0 then '.' :: padded 3 (nanosecond / 1000000)
  else if nanosecond % 1000 = 0 then '.' :: padded 6 (nanosecond / 1000)
  else '.' :: padded 9 nanosecond

/-- The date, the letter `T`, the time and a zone. -/
def Instant.textWith (zone : List Char) (i : Instant) : List Char :=
  yearText i.date.year ++ '-' :: padded 2 i.date.month ++ '-' :: padded 2 i.date.day ++
    'T' :: padded 2 i.time.hour ++ ':' :: padded 2 i.time.minute ++
    ':' :: padded 2 i.time.second ++ fractionText i.time.nanosecond ++ zone

/-- The text of an instant, with the zone `Z`. -/
def Instant.text (i : Instant) : String :=
  String.ofList (i.textWith ['Z'])

/-- The text that instants are sorted by.  Its zone starts with a character that
    comes before every digit and before the point, so that a shorter fraction
    sorts before its extensions. -/
def Instant.sortText (i : Instant) : String :=
  String.ofList (i.textWith ['+', '0', '0', ':', '0', '0'])

end AssetRegistry.Calendar
