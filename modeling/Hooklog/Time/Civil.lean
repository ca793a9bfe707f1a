import Hooklog.Time.Instant

/-!
# The civil calendar

Dates of the proleptic Gregorian calendar, and the date and time of day of an instant in a
zone.  Years are counted from March, so that the day added in a leap year is the last.
-/

namespace Hooklog

/-- Day of the calendar. -/
structure Date where
  year : Int
  month : Nat
  day : Nat
  deriving DecidableEq, Repr

namespace Date

/-- Whether a year has a day more. -/
def isLeapYear (y : Int) : Bool := y % 4 = 0 && (y % 100 ≠ 0 || y % 400 = 0)

/-- Number of days of a month. -/
def daysIn (y : Int) (m : Nat) : Nat :=
  if m = 2 then (if isLeapYear y then 29 else 28)
  else if m = 4 ∨ m = 6 ∨ m = 9 ∨ m = 11 then 30 else 31

/-- Whether the month and the day exist. -/
def isValid (d : Date) : Bool :=
  1 ≤ d.month && d.month ≤ 12 && 1 ≤ d.day && d.day ≤ daysIn d.year d.month

/-- Days from 1 March of the year 0 to 1 January 1970. -/
def epochShift : Int := 719468

/-- Days since the epoch. -/
def toDays (d : Date) : Int :=
  let y : Int := if d.month ≤ 2 then d.year - 1 else d.year
  let m : Int := if d.month ≤ 2 then (d.month : Int) + 9 else (d.month : Int) - 3
  let era := y / 400
  let ofEra := y % 400
  let dayOfYear := (153 * m + 2) / 5 + (d.day : Int) - 1
  let dayOfEra := ofEra * 365 + ofEra / 4 - ofEra / 100 + dayOfYear
  era * 146097 + dayOfEra - epochShift

/-- Day that is some days after the epoch. -/
def ofDays (n : Int) : Date :=
  let z := n + epochShift
  let era := z / 146097
  let dayOfEra := z % 146097
  let ofEra := (dayOfEra - dayOfEra / 1460 + dayOfEra / 36524 - dayOfEra / 146096) / 365
  let dayOfYear := dayOfEra - (365 * ofEra + ofEra / 4 - ofEra / 100)
  let m := (5 * dayOfYear + 2) / 153
  let day := dayOfYear - (153 * m + 2) / 5 + 1
  let month := if m < 10 then m + 3 else m - 9
  let year := ofEra + era * 400
  ⟨if month ≤ 2 then year + 1 else year, month.toNat, day.toNat⟩

/-- Day of the year, from one. -/
def ordinal (d : Date) : Nat := (d.toDays - toDays ⟨d.year, 1, 1⟩ + 1).toNat

/-- Days since Sunday. -/
def daysFromSunday (d : Date) : Nat := ((d.toDays + 4) % 7).toNat

/-- Days since Monday. -/
def daysFromMonday (d : Date) : Nat := ((d.toDays + 3) % 7).toNat

/-- Year and number of the week that holds the day: weeks start on Monday and belong to the
year of their Thursday. -/
def isoWeek (d : Date) : Int × Nat :=
  let thursday := ofDays (d.toDays - (d.daysFromMonday : Int) + 3)
  (thursday.year, (thursday.ordinal - 1) / 7 + 1)

/-- Number of the week of the year, the days before its first start being week zero.  The
argument is the number of days since the day that starts a week. -/
def weekOfYear (d : Date) (sinceStart : Nat) : Nat := (d.ordinal + 6 - sinceStart) / 7

end Date

/-- Date and time of day in a zone.  The nanosecond counts from a second up in a leap
second. -/
structure Civil where
  date : Date
  second : Nat
  nanos : Nat
  deriving DecidableEq, Repr

namespace Civil

def hour (c : Civil) : Nat := c.second / 3600

def minute (c : Civil) : Nat := c.second / 60 % 60

/-- Second of the minute, 60 in a leap second. -/
def secondOfMinute (c : Civil) : Nat := c.second % 60 + c.nanos / nanosPerSecond

/-- Nanosecond of the second. -/
def nanoOfSecond (c : Civil) : Nat := c.nanos % nanosPerSecond

/-- Hour on a dial of twelve. -/
def hour12 (c : Civil) : Nat := if c.hour % 12 = 0 then 12 else c.hour % 12

/-- Whether it is noon or later. -/
def isAfternoon (c : Civil) : Bool := 12 ≤ c.hour

end Civil

/-- Date and time of day of an instant, some seconds east of universal time. -/
def Instant.civil (t : Instant) (east : Int) : Civil :=
  let s := t.seconds + east
  ⟨Date.ofDays (s / (secondsPerDay : Int)), (s % (secondsPerDay : Int)).toNat, t.nanos⟩

/-- Instant of a date and a second of the day, some seconds east of universal time. -/
def Instant.ofCivil (c : Civil) (east : Int) : Instant :=
  ⟨c.date.toDays * (secondsPerDay : Int) + (c.second : Int) - east, c.nanos⟩

end Hooklog
