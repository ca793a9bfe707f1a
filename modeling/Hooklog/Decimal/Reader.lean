import Hooklog.Decimal.Binary
import Hooklog.Decimal.Integer
import Hooklog.Text.Class

/-!
# Reading decimals

A decimal is a sign, digits with a point, and an exponent of ten; all of it but the digits is
optional.  Not a number and the infinities have names.  The value is the nearest binary number.
-/

namespace Hooklog.Decimal

/-- Parts of a decimal text. -/
structure Scientific where
  negative : Bool
  digits : Nat
  /-- Power of ten of the last digit. -/
  exponent : Int
  deriving DecidableEq, Repr

/-- Value of an exponent with an optional sign. -/
def exponentValue : List Char → Int
  | '-' :: ds => -(digitsValue 0 ds : Int)
  | '+' :: ds => (digitsValue 0 ds : Int)
  | ds => (digitsValue 0 ds : Int)

/-- Parts of a text without sign. -/
def Scientific.ofUnsigned (negative : Bool) (s : List Char) : Scientific :=
  let whole := s.takeWhile Text.isAsciiDigit
  let s := s.dropWhile Text.isAsciiDigit
  let (fraction, s) := match s with
    | '.' :: rest => (rest.takeWhile Text.isAsciiDigit, rest.dropWhile Text.isAsciiDigit)
    | s => ([], s)
  ⟨negative, digitsValue 0 (whole ++ fraction),
    exponentValue (s.drop 1) - (fraction.length : Int)⟩

/-- Parts of a text. -/
def Scientific.ofText (s : List Char) : Scientific :=
  match s with
  | '-' :: s => .ofUnsigned true s
  | '+' :: s => .ofUnsigned false s
  | s => .ofUnsigned false s

/-- Named value of a text. -/
def named? (s : String) : Option Binary64 :=
  if s = "nan" then some Binary64.nan
  else if s = "inf" then some (Binary64.infinity false)
  else if s = "-inf" then some (Binary64.infinity true)
  else none

/-- Nearest double to a decimal text. -/
def readDouble (s : String) : Binary64 :=
  match named? s with
  | some x => x
  | none =>
      let d := Scientific.ofText s.toList
      Binary64.ofDecimal d.negative d.digits d.exponent

/-- Nearest single to a decimal text, as a double. -/
def readSingle (s : String) : Binary64 :=
  match named? s with
  | some x => x
  | none =>
      let d := Scientific.ofText s.toList
      Binary64.ofDecimalSingle d.negative d.digits d.exponent

end Hooklog.Decimal
