import Hooklog.Time.Zone

/-!
# RFC 3339 instants

The written form of an instant: date, time, fraction and offset.  Years of more than four
digits, and those before the year zero, have a sign.
-/

namespace Hooklog.Rfc3339

open Decimal

/-- How the fraction of a second is written. -/
inductive Precision where
  | seconds
  | millis
  /-- As many groups of three digits as are needed, none for a whole second. -/
  | automatic
  deriving DecidableEq, Repr

/-- A signed number of at least four digits. -/
def signedYear (y : Int) : List Char :=
  (if y < 0 then '-' else '+') :: padded 4 y.natAbs

/-- Four digits, or a signed number outside the years they can write. -/
def yearText (y : Int) : List Char :=
  if 0 ≤ y ∧ y ≤ 9999 then padded 4 y.natAbs else signedYear y

/-- Fraction in as many groups of three digits as are needed. -/
def fractionText (nanos : Nat) : List Char :=
  if nanos = 0 then []
  else if nanos % 1000000 = 0 then '.' :: padded 3 (nanos / 1000000)
  else if nanos % 1000 = 0 then '.' :: padded 6 (nanos / 1000)
  else '.' :: padded 9 nanos

/-- Fraction of a second at a precision. -/
def Precision.text : Precision → Nat → List Char
  | .seconds, _ => []
  | .millis, nanos => '.' :: padded 3 (nanos / 1000000)
  | .automatic, nanos => fractionText nanos

/-- Offset of a zone; `short` writes a letter where there is none. -/
def offsetText (short : Bool) (offset : Int) : List Char :=
  if short ∧ offset = 0 then ['Z'] else Zone.minutesText [':'] offset

/-- Written form of an instant in a zone. -/
def write (precision : Precision) (short : Bool) (t : Instant) (zone : Zone) : List Char :=
  let c := t.civil zone.seconds
  yearText c.date.year ++ '-' :: padded 2 c.date.month ++ '-' :: padded 2 c.date.day
    ++ 'T' :: padded 2 c.hour ++ ':' :: padded 2 c.minute ++ ':' :: padded 2 c.secondOfMinute
    ++ precision.text c.nanoOfSecond ++ offsetText short zone.seconds

/-- Written form of an instant in universal time. -/
def text (t : Instant) : String := String.ofList (write .automatic true t .universal)

end Hooklog.Rfc3339
