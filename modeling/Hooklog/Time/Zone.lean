import Hooklog.Time.Civil
import Hooklog.Decimal.Integer

/-!
# Zones

A zone is a number of seconds east of universal time.  Its offset is written in hours and
minutes, with seconds rounded to the nearest minute, or exactly.
-/

namespace Hooklog

open Decimal

/-- A zone: universal time itself, or a fixed number of seconds east of it. -/
inductive Zone where
  | universal
  | east (seconds : Int)
  deriving DecidableEq, Repr

namespace Zone

/-- Seconds east of universal time. -/
def seconds : Zone → Int
  | .universal => 0
  | .east s => s

/-- Zone of an optional offset. -/
def ofOption : Option Int → Zone
  | none => .universal
  | some s => .east s

/-- Whether the calendar holds the local time of an instant. -/
def reaches (z : Zone) (t : Instant) : Bool :=
  let n := t.seconds + z.seconds
  Instant.first.seconds ≤ n && n ≤ Instant.last.seconds

def sign (offset : Int) : Char := if offset < 0 then '-' else '+'

/-- Hours and minutes, seconds rounded to the nearest minute, with a text in between. -/
def minutesText (separator : List Char) (offset : Int) : List Char :=
  let minutes := (offset.natAbs + 30) / 60
  sign offset :: padded 2 (minutes / 60) ++ separator ++ padded 2 (minutes % 60)

/-- Hours, minutes and seconds separated by colons. -/
def secondsText (offset : Int) : List Char :=
  let n := offset.natAbs
  sign offset :: padded 2 (n / 3600) ++ ':' :: padded 2 (n / 60 % 60) ++ ':' :: padded 2 (n % 60)

/-- Hours alone, the rest left out. -/
def hoursText (offset : Int) : List Char := sign offset :: padded 2 (offset.natAbs / 3600)

/-- Name of a zone: the offset stands for it, with seconds only where there are some. -/
def name : Zone → List Char
  | .universal => ['U', 'T', 'C']
  | .east s =>
      if s.natAbs % 60 = 0 then
        sign s :: padded 2 (s.natAbs / 3600) ++ ':' :: padded 2 (s.natAbs / 60 % 60)
      else secondsText s

end Zone

end Hooklog
