import Hooklog.Text.Class.Alphabetic
import Hooklog.Text.Class.Mark
import Hooklog.Text.Class.Number
import Hooklog.Text.Class.Connector
import Hooklog.Text.Class.Recent

/-!
# Character classes

The classes of characters that the readers of this library distinguish.  Each is
decided by comparing the code point with closed ranges.  Letters and numbers are those of
version 17 of the character standard.  The patterns of placeholders and control sequences
follow version 16, so their digits and word characters leave out the recent code points.
-/

namespace Hooklog.Text

/-- Whether a code point lies in one of some closed ranges. -/
def inRanges (ranges : List (Nat × Nat)) (n : Nat) : Bool :=
  ranges.any fun r => r.1 ≤ n && n ≤ r.2

/-- White space: the space, the line and paragraph separators, the horizontal blanks and
the controls that move to another place. -/
def isBlank (c : Char) : Bool :=
  inRanges [(0x9, 0xD), (0x20, 0x20), (0x85, 0x85), (0xA0, 0xA0), (0x1680, 0x1680),
    (0x2000, 0x200A), (0x2028, 0x2029), (0x202F, 0x202F), (0x205F, 0x205F), (0x3000, 0x3000)]
    c.toNat

/-- A digit from `0` to `9`. -/
def isAsciiDigit (c : Char) : Bool := '0' ≤ c && c ≤ '9'

/-- A letter from `a` to `z` in either case. -/
def isAsciiLetter (c : Char) : Bool := ('a' ≤ c && c ≤ 'z') || ('A' ≤ c && c ≤ 'Z')

/-- A code point that patterns do not know yet. -/
def isRecent (c : Char) : Bool := inRanges recentRanges c.toNat

/-- A decimal digit of any script, as patterns know them. -/
def isDigit (c : Char) : Bool :=
  if c.toNat < 0x80 then isAsciiDigit c else inRanges decimalRanges c.toNat && !isRecent c

/-- A letter or a number of any script. -/
def isAlphanumeric (c : Char) : Bool :=
  if c.toNat < 0x80 then isAsciiLetter c || isAsciiDigit c
  else inRanges alphabeticRanges c.toNat || inRanges decimalRanges c.toNat
    || inRanges otherNumberRanges c.toNat

/-- A character of an identifier: a letter, a mark, a decimal digit, connecting
punctuation or a join control, as patterns know them. -/
def isWord (c : Char) : Bool :=
  if c.toNat < 0x80 then isAsciiLetter c || isAsciiDigit c || c == '_'
  else (inRanges alphabeticRanges c.toNat || inRanges markRanges c.toNat
    || inRanges decimalRanges c.toNat || inRanges connectorRanges c.toNat
    || inRanges joinControlRanges c.toNat) && !isRecent c

end Hooklog.Text
