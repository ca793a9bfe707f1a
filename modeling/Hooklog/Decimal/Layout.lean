import Hooklog.Decimal.Shortest
import Hooklog.Decimal.Integer

/-!
# Written numbers

How the shortest digits of a number are laid out as text.  A layout says which numbers are
written with an exponent and how; the rest of the rules is shared.
-/

namespace Hooklog.Decimal

/-- Choices of a written form. -/
structure Layout where
  /-- Choice between two equally near digit strings. -/
  tie : Tie
  /-- Exponents of the leading digit for which no exponent is written, all if absent. -/
  positional : Option (Int × Int)
  /-- Whether a whole number written without exponent ends in a point and a zero. -/
  wholePoint : Bool
  /-- Text before a positive exponent. -/
  positiveExponent : String
  /-- Text before the absolute value of a negative exponent. -/
  negativeExponent : String
  deriving DecidableEq, Repr

/-- Digits with the point at its place. -/
def Layout.positionalText (l : Layout) (d : Digits) : List Char :=
  let ds := digitsOf d.value
  if 0 ≤ d.exponent then
    ds ++ List.replicate d.exponent.toNat '0' ++ (if l.wholePoint then ['.', '0'] else [])
  else
    let places := (-d.exponent).toNat
    if places < ds.length then
      ds.take (ds.length - places) ++ '.' :: ds.drop (ds.length - places)
    else
      ['0', '.'] ++ List.replicate (places - ds.length) '0' ++ ds

/-- Leading digit, point, the other digits and the exponent. -/
def Layout.exponentText (l : Layout) (d : Digits) (lead : Int) : List Char :=
  let ds := digitsOf d.value
  let fraction := if 1 < ds.length then '.' :: ds.drop 1 else []
  let sign := if 0 ≤ lead then l.positiveExponent else l.negativeExponent
  ds.take 1 ++ fraction ++ sign.toList ++ digitsOf lead.natAbs

/-- Text of a positive finite number. -/
def Layout.positiveText (l : Layout) (x : Binary64) : List Char :=
  let d := shortest l.tie x
  let lead := d.exponent + ((digitsOf d.value).length : Int) - 1
  match l.positional with
  | none => l.positionalText d
  | some (low, high) =>
      if low ≤ lead && lead ≤ high then l.positionalText d else l.exponentText d lead

/-- Text of a finite number. -/
def Layout.text (l : Layout) (x : Binary64) : String :=
  let sign := if x.isNegative then ['-'] else []
  let body :=
    if x.isZero then '0' :: (if l.wholePoint then ['.', '0'] else []) else l.positiveText x
  String.ofList (sign ++ body)

/-- Numbers in running text: never an exponent, and no point without a fraction. -/
def plain : Layout := ⟨.up, none, false, "", ""⟩

/-- Numbers of a data format: at most sixteen digits before the point and four zeros after
it, otherwise an exponent with a sign, and always a mark that tells them from integers. -/
def dataNumber : Layout := ⟨.even, some (-5, 15), true, "e+", "e-"⟩

/-- Text of any number in running text. -/
def plainText (x : Binary64) : String :=
  if x.isNaN then "NaN"
  else if x.isFinite then plain.text x
  else if x.isNegative then "-inf" else "inf"

end Hooklog.Decimal
