/-!
# Binary floating point numbers

Double precision numbers as their bits, and the rounding of a quotient of natural numbers
to the nearest number of a binary format.  All arithmetic is exact: a finite number is read
as `mantissa * 2 ^ exponent`, and every operation rounds one exact quotient.
-/

namespace Hooklog.Decimal

/-- A binary format: the digits of its mantissas, the exponent of its least positive number
and the exponent at which its numbers end. -/
structure Format where
  precision : Nat
  minExponent : Int
  maxExponent : Int
  deriving DecidableEq, Repr

/-- Double precision. -/
def Format.double : Format := ⟨53, -1074, 1024⟩

/-- Single precision. -/
def Format.single : Format := ⟨24, -149, 128⟩

/-- A finite non-negative number `mantissa * 2 ^ exponent`, or an overflow. -/
inductive Magnitude where
  | finite (mantissa : Nat) (exponent : Int)
  | overflow
  deriving DecidableEq, Repr

/-- Quotient rounded to the nearest natural number, halfway values to the even one. -/
def divNearestEven (num den : Nat) : Nat :=
  let q := num / den
  let r := num % den
  if 2 * r < den then q
  else if den < 2 * r then q + 1
  else if q % 2 = 0 then q else q + 1

/-- The quotient `num / (den * 2 ^ e)` as a quotient of natural numbers. -/
def scaleByTwo (num den : Nat) (e : Int) : Nat × Nat :=
  if 0 ≤ e then (num, den * Nat.pow 2 e.toNat) else (num * Nat.pow 2 (-e).toNat, den)

/-- Exponent at which the quotient of two positive numbers has mantissas of full precision,
or the least one of the format. -/
def Format.exponentOf (f : Format) (num den : Nat) : Int :=
  let guess : Int := (num.log2 : Int) - (den.log2 : Int) - (f.precision : Int)
  let scaled := scaleByTwo num den guess
  let e := if scaled.1 / scaled.2 < Nat.pow 2 f.precision then guess else guess + 1
  max e f.minExponent

/-- Nearest number of the format to the quotient of two positive numbers. -/
def Format.nearest (f : Format) (num den : Nat) : Magnitude :=
  if num = 0 then .finite 0 f.minExponent
  else
    let e := f.exponentOf num den
    let scaled := scaleByTwo num den e
    let m := divNearestEven scaled.1 scaled.2
    let carried := m = Nat.pow 2 f.precision
    let m' := if carried then Nat.pow 2 (f.precision - 1) else m
    let e' := if carried then e + 1 else e
    if f.maxExponent < e' + (f.precision : Int) then .overflow else .finite m' e'

end Hooklog.Decimal

namespace Hooklog

open Decimal

/-- A double precision number, by its bits. -/
structure Binary64 where
  bits : UInt64
  deriving DecidableEq, Repr

namespace Binary64

/-- Whether the sign bit is set. -/
def isNegative (x : Binary64) : Bool := Nat.pow 2 63 ≤ x.bits.toNat

/-- The exponent field. -/
def exponentField (x : Binary64) : Nat := x.bits.toNat / Nat.pow 2 52 % Nat.pow 2 11

/-- The fraction field. -/
def fractionField (x : Binary64) : Nat := x.bits.toNat % Nat.pow 2 52

/-- Whether the number is neither infinite nor undefined. -/
def isFinite (x : Binary64) : Bool := x.exponentField ≠ 2047

/-- Whether the bits stand for no number. -/
def isNaN (x : Binary64) : Bool := x.exponentField = 2047 && x.fractionField ≠ 0

/-- Whether the number is zero, of either sign. -/
def isZero (x : Binary64) : Bool := x.exponentField = 0 && x.fractionField = 0

/-- Mantissa of a finite number. -/
def mantissa (x : Binary64) : Nat :=
  if x.exponentField = 0 then x.fractionField else x.fractionField + Nat.pow 2 52

/-- Exponent of a finite number, whose absolute value is `mantissa * 2 ^ exponent`. -/
def exponent (x : Binary64) : Int :=
  if x.exponentField = 0 then -1074 else (x.exponentField : Int) - 1075

/-- The bits of the sign. -/
def signBits (negative : Bool) : Nat := if negative then Nat.pow 2 63 else 0

/-- The number of a sign and a magnitude of double precision. -/
def ofMagnitude (negative : Bool) : Magnitude → Binary64
  | .finite m e => ⟨UInt64.ofNat (signBits negative + ((e + 1074).toNat * Nat.pow 2 52 + m))⟩
  | .overflow => ⟨UInt64.ofNat (signBits negative + 2047 * Nat.pow 2 52)⟩

/-- Nearest number to a quotient with a sign. -/
def ofQuotient (negative : Bool) (num den : Nat) : Binary64 :=
  ofMagnitude negative (Format.double.nearest num den)

/-- Nearest number to an integer. -/
def ofInt (n : Int) : Binary64 := ofQuotient (n < 0) n.natAbs 1

/-- Undefined. -/
def nan : Binary64 := ⟨UInt64.ofNat (2047 * Nat.pow 2 52 + Nat.pow 2 51)⟩

/-- Infinity of a sign. -/
def infinity (negative : Bool) : Binary64 := ofMagnitude negative .overflow

/-- Zero of a sign. -/
def zero (negative : Bool) : Binary64 := ofMagnitude negative (.finite 0 (-1074))

/-- Numerator and denominator of the absolute value of a finite number. -/
def quotient (x : Binary64) : Nat × Nat :=
  if 0 ≤ x.exponent then (x.mantissa * Nat.pow 2 x.exponent.toNat, 1)
  else (x.mantissa, Nat.pow 2 (-x.exponent).toNat)

/-- Product of two finite numbers. -/
def mul (x y : Binary64) : Binary64 :=
  let a := x.quotient
  let b := y.quotient
  ofQuotient (x.isNegative != y.isNegative) (a.1 * b.1) (a.2 * b.2)

/-- Quotient of two finite numbers, the second not zero. -/
def div (x y : Binary64) : Binary64 :=
  let a := x.quotient
  let b := y.quotient
  ofQuotient (x.isNegative != y.isNegative) (a.1 * b.2) (a.2 * b.1)

/-- Whether a finite number that is not negative is at least a natural number. -/
def atLeast (x : Binary64) (n : Nat) : Bool :=
  let a := x.quotient
  n * a.2 ≤ a.1

/-- Nearest number to a decimal quotient `digits * 10 ^ exponent`. -/
def ofDecimal (negative : Bool) (digits : Nat) (exponent : Int) : Binary64 :=
  if 0 ≤ exponent then ofQuotient negative (digits * Nat.pow 10 exponent.toNat) 1
  else ofQuotient negative digits (Nat.pow 10 (-exponent).toNat)

/-- The number of single precision nearest to a decimal quotient, widened. -/
def ofDecimalSingle (negative : Bool) (digits : Nat) (exponent : Int) : Binary64 :=
  let single :=
    if 0 ≤ exponent then Format.single.nearest (digits * Nat.pow 10 exponent.toNat) 1
    else Format.single.nearest digits (Nat.pow 10 (-exponent).toNat)
  match single with
  | .overflow => infinity negative
  | .finite m e =>
      if 0 ≤ e then ofQuotient negative (m * Nat.pow 2 e.toNat) 1
      else ofQuotient negative m (Nat.pow 2 (-e).toNat)

end Binary64

end Hooklog
