import Hooklog.Decimal.Binary
import Hooklog.Decimal.Integer

/-!
# Numbers in JSON text

A number is an integer when it has neither a fraction nor an exponent and fits into
64 bits.  Otherwise its first digits, as many as fit into 64 bits, are scaled by a power
of ten in double precision, one rounding for the digits and one for each scaling.
-/

namespace Hooklog.Json

/-- A number that was read.  A float is absent when it is too large. -/
inductive Number where
  | natural (n : Nat)
  | negative (n : Int)
  | float (x : Option Binary64)
  deriving DecidableEq

/-- Leading digits of a number, and the power of ten that is left. -/
structure Scanned where
  significand : Nat
  exponent : Int
  deriving DecidableEq, Repr

/-- Largest integer that is kept exactly. -/
def largest : Nat := UInt64.size - 1

/-- Collect digits before the point: those that no longer fit only move the point. -/
def collectWhole (n : Nat) : List Char → Scanned × Bool
  | [] => (⟨n, 0⟩, false)
  | c :: rest =>
      let next := 10 * n + Decimal.digitValue c
      if next ≤ largest then collectWhole next rest
      else (⟨n, (rest.length : Int) + 1⟩, true)

/-- Collect digits after the point: those that no longer fit are left out. -/
def collectFraction (s : Scanned) : List Char → Scanned
  | [] => s
  | c :: rest =>
      let next := 10 * s.significand + Decimal.digitValue c
      if next ≤ largest then collectFraction ⟨next, s.exponent - 1⟩ rest else s

/-- Scaling by a power of ten, in steps that the format can hold.  A number that becomes
too large has no value.  The fuel bounds the number of steps. -/
def scale : Nat → Binary64 → Int → Option Binary64
  | 0, x, _ => some x
  | fuel + 1, x, e =>
      if e.natAbs ≤ 308 then
        let power := Binary64.ofDecimal false 1 e.natAbs
        if 0 ≤ e then
          let y := x.mul power
          if y.isFinite then some y else none
        else some (x.div power)
      else if x.isZero then some x
      else if 0 ≤ e then none
      else scale fuel (x.div (Binary64.ofDecimal false 1 308)) (e + 308)

/-- The same number with a sign. -/
def signed (negative : Bool) (x : Binary64) : Binary64 :=
  if negative then ⟨UInt64.ofNat (Nat.pow 2 63 + x.bits.toNat % Nat.pow 2 63)⟩ else x

/-- Value of scanned digits. -/
def Scanned.value (negative : Bool) (s : Scanned) : Option Binary64 :=
  (scale 8 (Binary64.ofInt s.significand) s.exponent).map (signed negative)

/-- Bounds of the exponent that is kept exactly. -/
def exponentBounds : Decimal.Bounds := ⟨Int32.minValue.toInt, Int32.maxValue.toInt⟩

/-- Value of digits with a written exponent.  An exponent beyond all bounds gives zero or
no value. -/
def Scanned.withExponent (negative : Bool) (s : Scanned) (negativeExponent : Bool)
    (digits : List Char) : Option Binary64 :=
  let e := Decimal.digitsValue 0 digits
  if (e : Int) ≤ exponentBounds.high then
    let total := if negativeExponent then s.exponent - e else s.exponent + e
    Scanned.value negative ⟨s.significand, exponentBounds.clamp total⟩
  else if s.significand ≠ 0 && !negativeExponent then none
  else some (Binary64.zero negative)

/-- Parts of a written number: digits before and after the point and the exponent. -/
structure Written where
  negative : Bool
  whole : List Char
  fraction : Option (List Char)
  exponent : Option (Bool × List Char)
  deriving DecidableEq, Repr

/-- Value of a written number. -/
def Written.number (w : Written) : Number :=
  let scanned := collectWhole 0 w.whole
  match w.fraction, w.exponent with
  | none, none =>
      if scanned.2 then .float (scanned.1.value w.negative)
      else if !w.negative then .natural scanned.1.significand
      else if 0 < scanned.1.significand && scanned.1.significand ≤ Nat.pow 2 63 then
        .negative (-(scanned.1.significand : Int))
      else .float (some (signed true (Binary64.ofInt scanned.1.significand)))
  | fraction, none => .float ((collectFraction scanned.1 (fraction.getD [])).value w.negative)
  | fraction, some (negativeExponent, digits) =>
      .float ((collectFraction scanned.1 (fraction.getD [])).withExponent w.negative
        negativeExponent digits)

/-- Digits at the start of a text, at least one, and the rest. -/
def takeDigits? (s : List Char) : Option (List Char × List Char) :=
  let ds := s.takeWhile Text.isAsciiDigit
  if ds = [] then none else some (ds, s.dropWhile Text.isAsciiDigit)

/-- Whole part: no zero is written before other digits. -/
def takeWhole? (s : List Char) : Option (List Char × List Char) :=
  match takeDigits? s with
  | some ('0' :: _ :: _, _) => none
  | other => other

/-- Fraction, if there is a point. -/
def takeFraction? : List Char → Option (Option (List Char) × List Char)
  | '.' :: s => (takeDigits? s).map fun p => (some p.1, p.2)
  | s => some (none, s)

/-- Exponent, if there is a mark. -/
def takeExponent? : List Char → Option (Option (Bool × List Char) × List Char)
  | [] => some (none, [])
  | c :: s =>
      if c = 'e' ∨ c = 'E' then
        match s with
        | '-' :: s => (takeDigits? s).map fun p => (some (true, p.1), p.2)
        | '+' :: s => (takeDigits? s).map fun p => (some (false, p.1), p.2)
        | s => (takeDigits? s).map fun p => (some (false, p.1), p.2)
      else some (none, c :: s)

/-- A number after its sign. -/
def takeUnsigned? (negative : Bool) (s : List Char) : Option (Written × List Char) :=
  match takeWhole? s with
  | none => none
  | some (whole, s) =>
      match takeFraction? s with
      | none => none
      | some (fraction, s) =>
          match takeExponent? s with
          | none => none
          | some (exponent, s) => some (⟨negative, whole, fraction, exponent⟩, s)

/-- A number at the start of a text, and the rest. -/
def takeNumber? : List Char → Option (Written × List Char)
  | '-' :: s => takeUnsigned? true s
  | s => takeUnsigned? false s

end Hooklog.Json
