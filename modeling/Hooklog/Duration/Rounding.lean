import Hooklog.Decimal.Integer

/-!
# Rounding durations

A duration is a number of nanoseconds that fits into 64 bits with a sign.  It is rounded to
multiples of a precision, halfway values away from zero, and the result stays within
the 64 bits.
-/

namespace Hooklog.Duration

open Decimal

def microsecond : Int := 1000

def millisecond : Int := 1000 * microsecond

def second : Int := 1000 * millisecond

def minute : Int := 60 * second

def hour : Int := 60 * minute

def day : Int := 24 * hour

def week : Int := 7 * day

def month : Int := 30 * day

def year : Int := 365 * day

/-- Largest duration. -/
def largest : Int := signed64.high

/-- Nearest duration to a number of nanoseconds. -/
def saturate (n : Int) : Int := signed64.clamp n

/-- The opposite duration, the most negative one becoming the largest. -/
def opposite (n : Int) : Int := signed64.clamp (-n)

/-- Twice a number in 64 bits, where the sign bit may be reached. -/
def doubled (n : Int) : Int := Int.bmod (2 * n) UInt64.size

/-- Multiple of a precision nearest to a duration.  A precision that is not positive
changes nothing. -/
def roundNanos (n precision : Int) : Int :=
  if precision ≤ 0 then n
  else if n < 0 then
    let r := -(Int.tmod n precision)
    if doubled r < precision then n + r else signed64.clamp (n - (precision - r))
  else
    let r := Int.tmod n precision
    if doubled r < precision then n - r else signed64.clamp (n + (precision - r))

/-- Precision that suits the magnitude of a duration, none below a microsecond. -/
def suitedPrecision (n : Int) : Option Int :=
  if month ≤ n then some day
  else if hour ≤ n then some minute
  else if 5 * minute ≤ n then some second
  else if minute ≤ n then some (5 * second)
  else if 10 * second ≤ n then some (100 * millisecond)
  else if second ≤ n then some (10 * millisecond)
  else if millisecond ≤ n then some (10 * microsecond)
  else if microsecond ≤ n then some 10
  else none

/-- A duration that is not negative, rounded to the precision that suits it. -/
def roundSuited (n : Int) : Int :=
  match suitedPrecision n with
  | some p => roundNanos n p
  | none => n

/-- A duration rounded to the precision that suits its magnitude. -/
def round (d : Int) : Int :=
  let n := saturate d
  if n < 0 then -(roundSuited (opposite n)) else roundSuited n

/-- A duration rounded to a given precision. -/
def roundTo (d precision : Int) : Int := roundNanos (saturate d) (saturate precision)

end Hooklog.Duration
