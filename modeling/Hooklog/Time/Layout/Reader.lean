import Hooklog.Time.Layout

/-!
# Reading time layouts

A layout is text with specifiers that start with a percent sign.  The reader goes through it
character by character; its state is what the specifier read so far still allows.
-/

namespace Hooklog.LayoutItem

/-- What has been read of a specifier. -/
inductive Reading where
  | between
  /-- The percent sign. -/
  | opened
  /-- The percent sign and a choice of filling. -/
  | filling (fill : Fill)
  /-- The percent sign and the mark of an alternative form. -/
  | alternative
  /-- The percent sign and some colons. -/
  | colons (n : Nat)
  /-- The percent sign and a point. -/
  | point
  /-- The percent sign, a point and a number of digits. -/
  | pointDigits (n : Nat)
  /-- The percent sign and a number of digits. -/
  | digits (n : Nat)
  deriving DecidableEq, Repr

/-- Number of a specifier letter, with its usual filling. -/
def numberOf? : Char → Option (TimeNumber × Fill)
  | 'C' => some (.century, .zeros)
  | 'G' => some (.isoYear, .zeros)
  | 'H' => some (.hour, .zeros)
  | 'I' => some (.hour12, .zeros)
  | 'M' => some (.minute, .zeros)
  | 'S' => some (.second, .zeros)
  | 'U' => some (.weekFromSunday, .zeros)
  | 'V' => some (.isoWeek, .zeros)
  | 'W' => some (.weekFromMonday, .zeros)
  | 'Y' => some (.year, .zeros)
  | 'd' => some (.day, .zeros)
  | 'e' => some (.day, .blanks)
  | 'f' => some (.nanosecond, .zeros)
  | 'g' => some (.isoYearOfCentury, .zeros)
  | 'j' => some (.ordinal, .zeros)
  | 'k' => some (.hour, .blanks)
  | 'l' => some (.hour12, .blanks)
  | 'm' => some (.month, .zeros)
  | 'q' => some (.quarter, .nothing)
  | 's' => some (.timestamp, .nothing)
  | 'u' => some (.weekday, .nothing)
  | 'w' => some (.daysFromSunday, .nothing)
  | 'y' => some (.yearOfCentury, .zeros)
  | _ => none

/-- Hours, minutes and seconds. -/
def clockItems : List LayoutItem :=
  [.number .hour .zeros, .literal ':', .number .minute .zeros, .literal ':',
    .number .second .zeros]

/-- Month, day and year of the century. -/
def slashedItems : List LayoutItem :=
  [.number .month .zeros, .literal '/', .number .day .zeros, .literal '/',
    .number .yearOfCentury .zeros]

/-- Items of a specifier letter that is no number. -/
def itemsOf? : Char → Option (List LayoutItem)
  | 'A' => some [.part .longWeekday]
  | 'B' => some [.part .longMonth]
  | 'D' => some slashedItems
  | 'F' => some [.number .year .zeros, .literal '-', .number .month .zeros, .literal '-',
      .number .day .zeros]
  | 'P' => some [.part .lowerHalf]
  | 'R' => some [.number .hour .zeros, .literal ':', .number .minute .zeros]
  | 'T' => some clockItems
  | 'X' => some clockItems
  | 'Z' => some [.part .zoneName]
  | 'a' => some [.part .shortWeekday]
  | 'b' => some [.part .shortMonth]
  | 'h' => some [.part .shortMonth]
  | 'c' => some ([.part .shortWeekday, .literal ' ', .part .shortMonth, .literal ' ',
      .number .day .blanks, .literal ' '] ++ clockItems ++ [.literal ' ', .number .year .zeros])
  | 'n' => some [.literal '\n']
  | 'p' => some [.part .upperHalf]
  | 'r' => some [.number .hour12 .zeros, .literal ':', .number .minute .zeros, .literal ':',
      .number .second .zeros, .literal ' ', .part .upperHalf]
  | 't' => some [.literal '\t']
  | 'v' => some [.number .day .blanks, .literal '-', .part .shortMonth, .literal '-',
      .number .year .zeros]
  | 'x' => some slashedItems
  | 'z' => some [.part .offset]
  | '+' => some [.part .rfc3339]
  | '%' => some [.literal '%']
  | _ => none

/-- Items of a character right after the percent sign that ends the specifier. -/
def closed? (c : Char) : Option (List LayoutItem) :=
  match numberOf? c with
  | some (n, fill) => some [.number n fill]
  | none => itemsOf? c

/-- State after a character right after the percent sign that does not end the specifier. -/
def continued? : Char → Option Reading
  | '-' => some (.filling .nothing)
  | '0' => some (.filling .zeros)
  | '_' => some (.filling .blanks)
  | '#' => some .alternative
  | ':' => some (.colons 1)
  | '.' => some .point
  | '3' => some (.digits 3)
  | '6' => some (.digits 6)
  | '9' => some (.digits 9)
  | _ => none

/-- Offset written with some colons. -/
def offsetOf? : Nat → Option TimePart
  | 1 => some .offsetColon
  | 2 => some .offsetSeconds
  | 3 => some .offsetHours
  | _ => none

/-- Items read at a character and the state after it; nothing for an unknown specifier. -/
def Reading.step? : Reading → Char → Option (List LayoutItem × Reading)
  | .between, c => some (if c = '%' then ([], .opened) else ([.literal c], .between))
  | .opened, c =>
      match closed? c with
      | some items => some (items, .between)
      | none => (continued? c).map fun r => ([], r)
  | .filling fill, c => (numberOf? c).map fun p => ([.number p.1 fill], .between)
  | .alternative, c => if c = 'z' then some ([.part .offsetReadOnly], .between) else none
  | .colons n, c =>
      if c = 'z' then (offsetOf? n).map fun p => ([.part p], .between)
      else if c = ':' ∧ n < 3 then some ([], .colons (n + 1)) else none
  | .point, c =>
      if c = 'f' then some ([.part .fraction], .between)
      else if c = '3' then some ([], .pointDigits 3)
      else if c = '6' then some ([], .pointDigits 6)
      else if c = '9' then some ([], .pointDigits 9) else none
  | .pointDigits n, c => if c = 'f' then some ([.part (.pointedFraction n)], .between) else none
  | .digits n, c => if c = 'f' then some ([.part (.bareFraction n)], .between) else none

/-- Items of a text read from a state; nothing if a specifier is unknown or unfinished. -/
def readFrom? : Reading → List Char → Option (List LayoutItem)
  | .between, [] => some []
  | _, [] => none
  | r, c :: rest =>
      match r.step? c with
      | some (items, r) => (readFrom? r rest).map (items ++ ·)
      | none => none

/-- Items of a layout. -/
def read? (s : String) : Option (List LayoutItem) := readFrom? .between s.toList

end Hooklog.LayoutItem
