import Hooklog.Time.Rfc3339
import Hooklog.Text.Words

/-!
# Time layouts

A layout is a list of items, each writing one part of an instant in a zone.
-/

namespace Hooklog

open Decimal

/-- How a number is filled up to its width. -/
inductive Fill where
  | nothing
  | zeros
  | blanks
  deriving DecidableEq, Repr

/-- A number read off the calendar or the clock. -/
inductive TimeNumber where
  | year
  | century
  | yearOfCentury
  | isoYear
  | isoYearOfCentury
  | quarter
  | month
  | day
  | weekFromSunday
  | weekFromMonday
  | isoWeek
  | daysFromSunday
  | weekday
  | ordinal
  | hour
  | hour12
  | minute
  | second
  | nanosecond
  | timestamp
  deriving DecidableEq, Repr

/-- A part of fixed form. -/
inductive TimePart where
  | shortMonth
  | longMonth
  | shortWeekday
  | longWeekday
  | lowerHalf
  | upperHalf
  | fraction
  /-- A point and a fixed number of digits. -/
  | pointedFraction (digits : Nat)
  /-- A fixed number of digits. -/
  | bareFraction (digits : Nat)
  | zoneName
  | offset
  | offsetColon
  | offsetSeconds
  | offsetHours
  /-- An offset that can be read but not written. -/
  | offsetReadOnly
  | rfc3339
  deriving DecidableEq, Repr

/-- An item of a layout. -/
inductive LayoutItem where
  | literal (c : Char)
  | number (n : TimeNumber) (fill : Fill)
  | part (p : TimePart)
  deriving DecidableEq, Repr

namespace LayoutItem

/-- Number of at least `width` characters, its sign included. -/
def filled (fill : Fill) (width : Nat) (n : Int) : List Char :=
  let sign := if n < 0 then ['-'] else []
  match fill with
  | .nothing => sign ++ digitsOf n.natAbs
  | .zeros => sign ++ padded (width - sign.length) n.natAbs
  | .blanks =>
      let t := sign ++ digitsOf n.natAbs
      List.replicate (width - t.length) ' ' ++ t

/-- Year: signed, and one character wider, outside the four-digit years. -/
def yearText (fill : Fill) (y : Int) : List Char :=
  if 0 ≤ y ∧ y ≤ 9999 then filled fill 4 y
  else
    let sign := if y < 0 then '-' else '+'
    match fill with
    | .nothing => sign :: digitsOf y.natAbs
    | .zeros => sign :: padded 4 y.natAbs
    | .blanks =>
        let t := sign :: digitsOf y.natAbs
        List.replicate (5 - t.length) ' ' ++ t

/-- Two characters for a number below 256: the first stands for its tens, which go on
through the characters after the digits. -/
def twoText (fill : Fill) (n : Nat) : List Char :=
  let tens := n / 10
  let ones := Char.ofNat ('0'.toNat + n % 10)
  match fill with
  | .nothing => if tens = 0 then [ones] else [Char.ofNat ('0'.toNat + tens), ones]
  | .blanks => [if tens = 0 then ' ' else Char.ofNat ('0'.toNat + tens), ones]
  | .zeros => [Char.ofNat ('0'.toNat + tens), ones]

/-- Text of a number. -/
def numberText (n : TimeNumber) (fill : Fill) (t : Instant) (c : Civil) : List Char :=
  match n with
  | .year => yearText fill c.date.year
  | .century => twoText fill (c.date.year / 100 % 256).toNat
  | .yearOfCentury => twoText fill (c.date.year % 100).toNat
  | .isoYear => yearText fill c.date.isoWeek.1
  | .isoYearOfCentury => twoText fill (c.date.isoWeek.1 % 100).toNat
  | .quarter => digitsOf ((c.date.month - 1) / 3 + 1)
  | .month => twoText fill c.date.month
  | .day => twoText fill c.date.day
  | .weekFromSunday => twoText fill (c.date.weekOfYear c.date.daysFromSunday)
  | .weekFromMonday => twoText fill (c.date.weekOfYear c.date.daysFromMonday)
  | .isoWeek => twoText fill c.date.isoWeek.2
  | .daysFromSunday => digitsOf c.date.daysFromSunday
  | .weekday => digitsOf (c.date.daysFromMonday + 1)
  | .ordinal => filled fill 3 c.date.ordinal
  | .hour => twoText fill c.hour
  | .hour12 => twoText fill c.hour12
  | .minute => twoText fill c.minute
  | .second => twoText fill c.secondOfMinute
  | .nanosecond => filled fill 9 c.nanoOfSecond
  | .timestamp => filled fill 9 t.seconds

/-- Names of the months. -/
def monthNames : List String :=
  ["January", "February", "March", "April", "May", "June", "July", "August", "September",
    "October", "November", "December"]

/-- Names of the days of the week. -/
def weekdayNames : List String :=
  ["Sunday", "Monday", "Tuesday", "Wednesday", "Thursday", "Friday", "Saturday"]

/-- Name at a place of a list. -/
def nameAt (names : List String) (i : Nat) : List Char := (names.getD i "").toList

/-- Text of a part, absent for one that cannot be written. -/
def partText (p : TimePart) (t : Instant) (zone : Zone) (c : Civil) : Option (List Char) :=
  let nanos := c.nanoOfSecond
  match p with
  | .shortMonth => some ((nameAt monthNames (c.date.month - 1)).take 3)
  | .longMonth => some (nameAt monthNames (c.date.month - 1))
  | .shortWeekday => some ((nameAt weekdayNames c.date.daysFromSunday).take 3)
  | .longWeekday => some (nameAt weekdayNames c.date.daysFromSunday)
  | .lowerHalf => some (if c.isAfternoon then ['p', 'm'] else ['a', 'm'])
  | .upperHalf => some (if c.isAfternoon then ['P', 'M'] else ['A', 'M'])
  | .fraction => some (Rfc3339.fractionText nanos)
  | .pointedFraction n => some ('.' :: padded n (nanos / Nat.pow 10 (9 - n)))
  | .bareFraction n => some (padded n (nanos / Nat.pow 10 (9 - n)))
  | .zoneName => some zone.name
  | .offset => some (Zone.minutesText [] zone.seconds)
  | .offsetColon => some (Zone.minutesText [':'] zone.seconds)
  | .offsetSeconds => some (Zone.secondsText zone.seconds)
  | .offsetHours => some (Zone.hoursText zone.seconds)
  | .offsetReadOnly => none
  | .rfc3339 => some (Rfc3339.write .automatic false t zone)

/-- Text of an item. -/
def text? (i : LayoutItem) (t : Instant) (zone : Zone) : Option (List Char) :=
  let c := t.civil zone.seconds
  match i with
  | .literal ch => some [ch]
  | .number n fill => some (numberText n fill t c)
  | .part p => partText p t zone c

/-- Text of a list of items, absent if one of them cannot be written. -/
def textAll? (t : Instant) (zone : Zone) : List LayoutItem → Option (List Char)
  | [] => some []
  | i :: rest =>
      match i.text? t zone, textAll? t zone rest with
      | some s, some r => some (s ++ r)
      | _, _ => none

end LayoutItem

end Hooklog
