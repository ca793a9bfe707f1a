import Hooklog.Text.Class
import Hooklog.Text.Class.Printable

/-!
# Quoted text

A text shown in an error message stands between double quotes.  Quotes and backslashes are
escaped, the common controls have letters, and every other character without a form of its
own is written as its number.
-/

namespace Hooklog.Text

/-- Whether a character is written as itself between quotes. -/
def isVisible (c : Char) : Bool :=
  if c.toNat < 0x80 then 0x20 ≤ c.toNat && c.toNat < 0x7F
  else !inRanges invisibleRanges c.toNat && !inRanges graphemeExtendRanges c.toNat

/-- Written form of one character between quotes. -/
def quoteChar (c : Char) : List Char :=
  if c = Char.ofNat 0 then ['\\', '0']
  else if c = '\t' then ['\\', 't']
  else if c = '\n' then ['\\', 'n']
  else if c = '\r' then ['\\', 'r']
  else if c = '"' then ['\\', '"']
  else if c = '\\' then ['\\', '\\']
  else if isVisible c then [c]
  else ['\\', 'u', '{'] ++ Nat.toDigits 16 c.toNat ++ ['}']

/-- A text between double quotes. -/
def quoted (s : String) : String :=
  "\"" ++ String.ofList (s.toList.flatMap quoteChar) ++ "\""

end Hooklog.Text
