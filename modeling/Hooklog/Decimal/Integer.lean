import Hooklog.Text.Class

/-!
# Integers in text

Writing integers in decimal digits, and reading them back within bounds.
-/

namespace Hooklog.Decimal

/-- Digits of a natural number. -/
def digitsOf (n : Nat) : List Char := Nat.toDigits 10 n

/-- Text of a natural number. -/
def naturalText (n : Nat) : String := String.ofList (digitsOf n)

/-- Text of an integer. -/
def integerText (n : Int) : String :=
  if n < 0 then "-" ++ naturalText n.natAbs else naturalText n.natAbs

/-- A natural number filled up with zeros to a least number of digits. -/
def padded (width n : Nat) : List Char :=
  List.replicate (width - (digitsOf n).length) '0' ++ digitsOf n

/-- Value of an ASCII digit. -/
def digitValue (c : Char) : Nat := c.toNat - '0'.toNat

/-- Value of digits that follow a number. -/
def digitsValue (n : Nat) (ds : List Char) : Nat :=
  ds.foldl (fun n c => 10 * n + digitValue c) n

/-- The natural number written by ASCII digits, at least one. -/
def readNatural? (s : List Char) : Option Nat :=
  if s ≠ [] ∧ s.all Text.isAsciiDigit then some (digitsValue 0 s) else none

/-- The integer written by an optional sign and ASCII digits. -/
def readSigned? : List Char → Option Int
  | '-' :: s => (readNatural? s).map fun n => -(n : Int)
  | '+' :: s => (readNatural? s).map fun n => (n : Int)
  | s => (readNatural? s).map fun n => (n : Int)

/-- Bounds of a range of integers. -/
structure Bounds where
  low : Int
  high : Int
  deriving DecidableEq, Repr

/-- Whether an integer lies within bounds. -/
def Bounds.holds (b : Bounds) (n : Int) : Bool := b.low ≤ n && n ≤ b.high

/-- Bounds of the signed 64-bit integers. -/
def signed64 : Bounds := ⟨Int64.minValue.toInt, Int64.maxValue.toInt⟩

/-- Bounds of the natural numbers of 64 bits. -/
def unsigned64 : Bounds := ⟨0, Int.ofNat (UInt64.size - 1)⟩

/-- Nearest integer within bounds. -/
def Bounds.clamp (b : Bounds) (n : Int) : Int := max b.low (min b.high n)

/-- The integer of a text, if it lies within bounds. -/
def readWithin? (b : Bounds) (s : List Char) : Option Int :=
  match readSigned? s with
  | some n => if b.holds n then some n else none
  | none => none

end Hooklog.Decimal
