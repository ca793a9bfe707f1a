import Hooklog.Time.Rfc3339
import Hooklog.Text.Words

/-!
# Reading instants

Two forms are read.  The strict form has fields of fixed width; in the relaxed form fields
may be shorter and blanks may stand between them.
-/

namespace Hooklog.Rfc3339

open Decimal

/-- A number of at least one digit and at most `width` digits, and the rest. -/
def takeUpTo? (width : Nat) (s : List Char) : Option (Nat × List Char) :=
  let ds := (s.take width).takeWhile Text.isAsciiDigit
  if ds = [] then none else some (digitsValue 0 ds, s.drop ds.length)

/-- A number of exactly `width` digits, and the rest. -/
def takeExactly? (width : Nat) (s : List Char) : Option (Nat × List Char) :=
  let ds := (s.take width).takeWhile Text.isAsciiDigit
  if ds.length = width then some (digitsValue 0 ds, s.drop width) else none

/-- A given character, and the rest. -/
def expect? (c : Char) : List Char → Option (List Char)
  | d :: s => if d = c then some s else none
  | [] => none

/-- Fraction of a second in nanoseconds, further digits being dropped. -/
def takeNanos? (s : List Char) : Option (Nat × List Char) :=
  let ds := (s.take 9).takeWhile Text.isAsciiDigit
  if ds = [] then none
  else some (digitsValue 0 ds * Nat.pow 10 (9 - ds.length), s.dropWhile Text.isAsciiDigit)

/-- Optional fraction of a second. -/
def takeFraction? : List Char → Option (Nat × List Char)
  | '.' :: s => takeNanos? s
  | s => some (0, s)

/-- Character between date and time. -/
def takeSeparator? : List Char → Option (List Char)
  | c :: s => if c = 't' ∨ c = 'T' ∨ c = ' ' then some s else none
  | [] => none

/-- The minus sign of typography. -/
def typographicMinus : Char := Char.ofNat 0x2212

/-- Sign of an offset, true for a negative one. -/
def takeSign? : List Char → Option (Bool × List Char)
  | c :: s =>
      if c = '+' then some (false, s)
      else if c = '-' ∨ c = typographicMinus then some (true, s) else none
  | [] => none

/-- Hours and minutes of an offset after its sign.  `gap` removes what may stand between
them. -/
def takeOffsetDigits? (gap : List Char → Option (List Char)) (negative : Bool)
    (s : List Char) : Option (Int × List Char) :=
  match takeExactly? 2 s with
  | none => none
  | some (hours, s) =>
      match gap s with
      | none => none
      | some s =>
          match takeExactly? 2 s with
          | none => none
          | some (minutes, s) =>
              if 60 ≤ minutes then none
              else
                let n : Int := hours * 3600 + minutes * 60
                some (if negative then -n else n, s)

/-- An offset in seconds: the letter of universal time, or sign, hours and minutes. -/
def takeOffset? (gap : List Char → Option (List Char)) (s : List Char) :
    Option (Int × List Char) :=
  match s with
  | 'Z' :: s => some (0, s)
  | 'z' :: s => some (0, s)
  | s =>
      match takeSign? s with
      | none => none
      | some (negative, s) => takeOffsetDigits? gap negative s

/-- What a text says before it is checked against the calendar. -/
structure Reading where
  year : Int
  month : Nat
  day : Nat
  hour : Nat
  minute : Nat
  second : Nat
  nanos : Nat
  offset : Int
  deriving DecidableEq, Repr

/-- First and last year of the calendar. -/
def yearBounds : Bounds := ⟨-262143, 262142⟩

/-- Instant of a reading, if all its fields are in range.  Second 60 is a leap second. -/
def Reading.instant? (r : Reading) : Option Instant :=
  let date : Date := ⟨r.year, r.month, r.day⟩
  if yearBounds.holds r.year ∧ date.isValid ∧ r.hour < 24 ∧ r.minute < 60 ∧ r.second ≤ 60
      ∧ r.offset.natAbs < 86400 then
    let second := if r.second = 60 then 59 else r.second
    let nanos := if r.second = 60 then r.nanos + nanosPerSecond else r.nanos
    let t := Instant.ofCivil ⟨date, r.hour * 3600 + r.minute * 60 + second, nanos⟩ r.offset
    if Instant.first.seconds ≤ t.seconds ∧ t.seconds ≤ Instant.last.seconds then some t
    else none
  else none

/-- Instant of a text in the strict form. -/
def readStrict? (s : List Char) : Option Instant := do
  let (year, s) ← takeExactly? 4 s
  let s ← expect? '-' s
  let (month, s) ← takeExactly? 2 s
  let s ← expect? '-' s
  let (day, s) ← takeExactly? 2 s
  let s ← takeSeparator? s
  let (hour, s) ← takeExactly? 2 s
  let s ← expect? ':' s
  let (minute, s) ← takeExactly? 2 s
  let s ← expect? ':' s
  let (second, s) ← takeExactly? 2 s
  let (nanos, s) ← takeFraction? s
  let (offset, s) ← takeOffset? (expect? ':') s
  if s = [] then Reading.instant? ⟨year, month, day, hour, minute, second, nanos, offset⟩
  else none

/-- Text after its leading white space. -/
def skipBlanks (s : List Char) : List Char := s.dropWhile Text.isBlank

/-- A year with an optional sign; four digits at most without one. -/
def takeYear? (s : List Char) : Option (Int × List Char) :=
  match s with
  | '-' :: s => (takeUpTo? s.length s).map fun p => (-(p.1 : Int), p.2)
  | '+' :: s => (takeUpTo? s.length s).map fun p => ((p.1 : Int), p.2)
  | s => (takeUpTo? 4 s).map fun p => ((p.1 : Int), p.2)

/-- A field of one or two digits after blanks. -/
def takeField? (s : List Char) : Option (Nat × List Char) := takeUpTo? 2 (skipBlanks s)

/-- A separator after blanks. -/
def expectAfterBlanks? (c : Char) (s : List Char) : Option (List Char) :=
  expect? c (skipBlanks s)

/-- Blanks and colons between hours and minutes of an offset. -/
def skipOffsetGap (s : List Char) : Option (List Char) :=
  some (s.dropWhile fun c => c = ':' || Text.isBlank c)

/-- An offset, or the name of universal time in any letter case. -/
def takeNamedOffset? (s : List Char) : Option (Int × List Char) :=
  if (s.take 3).map Char.toUpper = ['U', 'T', 'C'] then some (0, s.drop 3)
  else takeOffset? skipOffsetGap s

/-- Instant of a text in the relaxed form. -/
def readRelaxed? (s : List Char) : Option Instant := do
  let (year, s) ← takeYear? (skipBlanks s)
  let s ← expectAfterBlanks? '-' s
  let (month, s) ← takeField? s
  let s ← expectAfterBlanks? '-' s
  let (day, s) ← takeField? s
  let s ← takeSeparator? s
  let (hour, s) ← takeField? s
  let s ← expectAfterBlanks? ':' s
  let (minute, s) ← takeField? s
  let s ← expectAfterBlanks? ':' s
  let (second, s) ← takeField? s
  let (nanos, s) ← takeFraction? s
  let (offset, s) ← takeNamedOffset? (skipBlanks s)
  if skipBlanks s = [] then
    Reading.instant? ⟨year, month, day, hour, minute, second, nanos, offset⟩
  else none

end Hooklog.Rfc3339
