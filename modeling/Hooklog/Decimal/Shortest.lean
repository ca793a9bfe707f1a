import Hooklog.Decimal.Binary

/-!
# Shortest digits of a number

The fewest decimal digits that read back as a given finite number, and of those the nearest
to it.  The reals that read back as `m * 2 ^ e` reach halfway to its neighbours, and the
ends belong to them when `m` is even.  A grid of decimal numbers has a point there exactly
when one of the two grid points around the number is there, so two candidates a grid
are enough.
-/

namespace Hooklog.Decimal

/-- Which of two equally near candidates is chosen. -/
inductive Tie where
  | up
  | even
  deriving DecidableEq, Repr

/-- Decimal digits as a number, and the power of ten it is multiplied by. -/
structure Digits where
  value : Nat
  exponent : Int
  deriving DecidableEq, Repr

/-- The reals that round to a number, as numerators over one denominator. -/
structure Interval where
  low : Nat
  mid : Nat
  high : Nat
  denominator : Nat
  closed : Bool
  deriving DecidableEq, Repr

/-- Interval of a positive finite number.  Below a power of two the neighbours are closer. -/
def Interval.of (x : Binary64) : Interval :=
  let m := x.mantissa
  let narrow := x.fractionField = 0 && 1 < x.exponentField
  let low := if narrow then 4 * m - 1 else 4 * m - 2
  let scale := if 0 ≤ x.exponent then Nat.pow 2 x.exponent.toNat else 1
  let denominator := if 0 ≤ x.exponent then 4 else 4 * Nat.pow 2 (-x.exponent).toNat
  ⟨low * scale, 4 * m * scale, (4 * m + 2) * scale, denominator, m % 2 = 0⟩

/-- The interval measured in units of `10 ^ e`. -/
def Interval.inUnits (i : Interval) (e : Int) : Interval :=
  if 0 ≤ e then { i with denominator := i.denominator * Nat.pow 10 e.toNat }
  else
    let p := Nat.pow 10 (-e).toNat
    { i with low := i.low * p, mid := i.mid * p, high := i.high * p }

/-- Whether a whole number of units lies in the interval. -/
def Interval.holds (i : Interval) (c : Nat) : Bool :=
  let n := c * i.denominator
  if i.closed then i.low ≤ n && n ≤ i.high else i.low < n && n < i.high

/-- Candidate of the interval next to its middle, if one of the two around it fits. -/
def Interval.candidate? (i : Interval) (tie : Tie) : Option Nat :=
  let d := i.mid / i.denominator
  let below := i.mid - d * i.denominator
  let above := (d + 1) * i.denominator - i.mid
  match i.holds d, i.holds (d + 1) with
  | false, false => none
  | true, false => some d
  | false, true => some (d + 1)
  | true, true =>
      if below < above then some d
      else if above < below then some (d + 1)
      else if tie = .even && d % 2 = 0 then some d else some (d + 1)

/-- Exponent of the leading decimal digit of a positive quotient. -/
def leadingExponent (num den : Nat) : Int :=
  if den ≤ num then ((Nat.toDigits 10 (num / den)).length : Int) - 1
  else -((Nat.toDigits 10 ((den + num - 1) / num - 1)).length : Int)

/-- Digits without trailing zeros, at most `fuel` of them being taken away. -/
def stripZeros : Nat → Digits → Digits
  | 0, d => d
  | fuel + 1, d =>
      if d.value ≠ 0 && d.value % 10 = 0 then stripZeros fuel ⟨d.value / 10, d.exponent + 1⟩
      else d

/-- Shortest digits of a positive finite number. -/
def shortest (tie : Tie) (x : Binary64) : Digits :=
  let i := Interval.of x
  let lead := leadingExponent i.mid i.denominator
  let found := (List.range 17).findSome? fun (n : Nat) =>
    let e := lead - (n : Int)
    ((i.inUnits e).candidate? tie).map fun c => (⟨c, e⟩ : Digits)
  stripZeros 20 (found.getD ⟨x.mantissa, 0⟩)

end Hooklog.Decimal
