import Hooklog.Decimal.Integer
import Hooklog.Error
import Hooklog.Text.Words

/-!
# Spans

Lengths of time without sign, in nanoseconds, as they are written by hand: amounts with
units, one after the other.  A fraction of a unit has to come out even in the unit in which
it is counted.  The seconds of a span fit into 64 bits.
-/

namespace Hooklog.Span

open Decimal

/-- A unit: its names, its length in seconds or nanoseconds, and the unit in which a
fraction of it is counted, if it may have one. -/
structure SpanUnit where
  names : List String
  seconds : Nat
  nanos : Nat
  fractionSeconds : Nat
  fractionNanos : Nat
  deriving DecidableEq, Repr

/-- The units. -/
def units : List SpanUnit :=
  [⟨["nanos", "nsec", "ns"], 0, 1, 0, 0⟩,
    ⟨["usec", "us", "µs"], 0, 1000, 0, 1000⟩,
    ⟨["millis", "msec", "ms"], 0, 1000000, 0, 1000000⟩,
    ⟨["seconds", "second", "secs", "sec", "s"], 1, 0, 0, 1000000000⟩,
    ⟨["minutes", "minute", "min", "mins", "m"], 60, 0, 0, 60000000000⟩,
    ⟨["hours", "hour", "hrs", "hr", "h"], 3600, 0, 3600, 0⟩,
    ⟨["days", "day", "d"], 86400, 0, 86400, 0⟩,
    ⟨["weeks", "week", "wks", "wk", "w"], 604800, 0, 604800, 0⟩,
    ⟨["months", "month", "M"], 2630016, 0, 2630016, 0⟩,
    ⟨["years", "year", "yrs", "yr", "y"], 31557600, 0, 31557600, 0⟩]

/-- Unit of a name. -/
def unitOf? (name : List Char) : Option SpanUnit :=
  units.find? fun u => u.names.contains (String.ofList name)

/-- A number that fits into 64 bits. -/
def fits (n : Nat) : Except Unread Nat := if n < UInt64.size then .ok n else .error .malformed

/-- A quotient that comes out even. -/
def exactly (n d : Nat) : Except Unread Nat :=
  if n % d = 0 then .ok (n / d) else .error .malformed

/-- Numerator and denominator of a fraction. -/
structure Fraction where
  numerator : Nat
  denominator : Nat
  deriving DecidableEq, Repr

/-- Nanoseconds of a second. -/
def secondLength : Nat := 1000000000

/-- Longer span, if its seconds fit into 64 bits.  They are checked before nanoseconds that
make up just one second are carried into them. -/
def extend (total seconds nanos : Nat) : Except Unread Nat := do
  let nanos ← fits (total % secondLength + nanos)
  let seconds := total / secondLength + seconds
  if nanos = secondLength ∧ seconds = UInt64.size - 1 then .error (.stopped .spanOverflow)
  else
    let _ ← fits (seconds + nanos / secondLength)
    .ok (seconds * secondLength + nanos)

/-- Span after a whole amount of a unit. -/
def addWhole (u : SpanUnit) (total n : Nat) : Except Unread Nat := do
  let seconds ← fits (n * u.seconds)
  let nanos ← fits (n * u.nanos)
  extend total seconds nanos

/-- Span after a fraction of a unit. -/
def addFraction (u : SpanUnit) (total : Nat) (f : Fraction) : Except Unread Nat := do
  if u.fractionSeconds = 0 ∧ u.fractionNanos = 0 then .error .malformed
  else
    let seconds ← fits (f.numerator * u.fractionSeconds)
    let nanos ← fits (f.numerator * u.fractionNanos)
    let seconds ← exactly seconds f.denominator
    let nanos ← exactly nanos f.denominator
    extend total seconds nanos

/-- What has been read of a written span. -/
inductive Reading where
  /-- Before an amount; `first` if there was none yet. -/
  | seek (first : Bool)
  | whole (n : Nat)
  | fraction (n : Nat) (f : Fraction)
  /-- Inside the name of a unit, read backwards. -/
  | name (n : Nat) (f : Option Fraction) (letters : List Char)
  deriving DecidableEq, Repr

/-- Letter of a unit. -/
def isUnitLetter (c : Char) : Bool := Text.isAsciiLetter c || c = 'µ'

/-- Span after an amount and its unit. -/
def close (total n : Nat) (f : Option Fraction) (letters : List Char) : Except Unread Nat := do
  let u ← Unread.ofOption (unitOf? letters.reverse)
  let total ← addWhole u total n
  match f with
  | some f => addFraction u total f
  | none => .ok total

/-- One more digit of an amount. -/
def digit (n : Nat) (c : Char) : Except Unread Nat := fits (10 * n + digitValue c)

/-- One more digit of a fraction. -/
def fractionDigit (f : Fraction) (c : Char) : Except Unread Fraction := do
  let numerator ← fits (10 * f.numerator + digitValue c)
  let denominator ← fits (10 * f.denominator)
  .ok ⟨numerator, denominator⟩

/-- State and span after one more character. -/
def Reading.step (total : Nat) (c : Char) : Reading → Except Unread (Reading × Nat)
  | .seek first =>
      if Text.isAsciiDigit c then .ok (.whole (digitValue c), total)
      else if Text.isBlank c then .ok (.seek first, total) else .error .malformed
  | .whole n =>
      if Text.isAsciiDigit c then (digit n c).map fun n => (.whole n, total)
      else if Text.isBlank c then .ok (.whole n, total)
      else if isUnitLetter c then .ok (.name n none [c], total)
      else if c = '.' then .ok (.fraction n ⟨0, 1⟩, total) else .error .malformed
  | .fraction n f =>
      if Text.isAsciiDigit c then (fractionDigit f c).map fun f => (.fraction n f, total)
      else if Text.isBlank c then .ok (.fraction n f, total)
      else if isUnitLetter c ∧ f.denominator ≠ 1 then .ok (.name n (some f) [c], total)
      else .error .malformed
  | .name n f letters =>
      if Text.isAsciiDigit c then
        (close total n f letters).map fun t => (.whole (digitValue c), t)
      else if Text.isBlank c then (close total n f letters).map fun t => (.seek false, t)
      else if isUnitLetter c then .ok (.name n f (c :: letters), total)
      else .error .malformed

/-- Span of a text read from a state. -/
def readFrom (total : Nat) : Reading → List Char → Except Unread Nat
  | .seek first, [] => if first then .error .malformed else .ok total
  | .name n f letters, [] => close total n f letters
  | _, [] => .error .malformed
  | r, c :: rest =>
      match r.step total c with
      | .ok (r, total) => readFrom total r rest
      | .error u => .error u

/-- Span of a text.  A bare zero needs no unit. -/
def read (s : List Char) : Except Unread Nat :=
  if s = ['0'] then .ok 0 else readFrom 0 (.seek true) s

/-- Amount and name, nothing for an amount of zero. -/
def part (n : Nat) (name : String) : List String :=
  if n = 0 then [] else [naturalText n ++ name]

/-- Amount and name in singular or plural, nothing for an amount of zero. -/
def pluralPart (n : Nat) (name : String) : List String :=
  part n (if 1 < n then name ++ "s" else name)

/-- Text of a span. -/
def text (span : Nat) : String :=
  let secs := span / secondLength
  let nanos := span % secondLength
  let ofYear := secs % 31557600
  let ofMonth := ofYear % 2630016
  let ofDay := ofMonth % 86400
  let parts :=
    pluralPart (secs / 31557600) "year" ++ pluralPart (ofYear / 2630016) "month"
      ++ pluralPart (ofMonth / 86400) "day" ++ part (ofDay / 3600) "h"
      ++ part (ofDay % 3600 / 60) "m" ++ part (ofDay % 60) "s" ++ part (nanos / 1000000) "ms"
      ++ part (nanos / 1000 % 1000) "us" ++ part (nanos % 1000) "ns"
  if parts.isEmpty then "0s" else Text.joinWith " " parts

end Hooklog.Span
