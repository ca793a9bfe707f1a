/-!
# Instants

Points in time, as seconds since the epoch and nanoseconds.  Nanoseconds from a second up
belong to a leap second, which is counted within the second before it.
-/

namespace Hooklog

/-- Nanoseconds of a second. -/
def nanosPerSecond : Nat := 1000000000

/-- Seconds of a day. -/
def secondsPerDay : Nat := 86400

/-- A point in time. -/
structure Instant where
  seconds : Int
  nanos : Nat
  deriving DecidableEq, Repr

namespace Instant

/-- Second of the day. -/
def secondOfDay (t : Instant) : Nat := (t.seconds % (secondsPerDay : Int)).toNat

/-- Whether the instant lies in a leap second. -/
def inLeapSecond (t : Instant) : Bool := nanosPerSecond ≤ t.nanos

/-- Nanoseconds from one instant to another.  A leap second between the two times of day
counts. -/
def since (t origin : Instant) : Int :=
  let whole := t.seconds - origin.seconds
  let leap : Int :=
    if origin.secondOfDay < t.secondOfDay ∧ origin.inLeapSecond then 1
    else if t.secondOfDay < origin.secondOfDay ∧ t.inLeapSecond then -1
    else 0
  (whole + leap) * (nanosPerSecond : Int) + ((t.nanos : Int) - (origin.nanos : Int))

/-- First instant of the calendar. -/
def first : Instant := ⟨-8334601228800, 0⟩

/-- Last instant of the calendar. -/
def last : Instant := ⟨8210266876799, 999999999⟩

/-- Nanoseconds since the epoch, leap seconds not counted apart. -/
def total (t : Instant) : Int := t.seconds * (nanosPerSecond : Int) + (t.nanos : Int)

/-- Instant some nanoseconds after another one, if the calendar reaches so far. -/
def add? (t : Instant) (duration : Int) : Option Instant :=
  let n := t.total + duration
  if first.total ≤ n ∧ n ≤ last.total then
    some ⟨n / (nanosPerSecond : Int), (n % (nanosPerSecond : Int)).toNat⟩
  else none

end Instant

end Hooklog
