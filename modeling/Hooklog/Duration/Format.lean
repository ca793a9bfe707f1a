import Hooklog.Duration.Rounding
import Hooklog.Decimal.Layout
import Hooklog.Text.Case
import Hooklog.Text.Words
import Hooklog.Error

/-!
# Written durations

A duration is written as a list of units.  The style says which units are used and where
the last one takes a fraction; the duration may be rounded first, and the names of the
units may be long.
-/

namespace Hooklog

/-- Choice of units. -/
inductive DurationStyle where
  /-- Hours, minutes and a fraction of the next unit. -/
  | native
  /-- Every unit, none with a fraction. -/
  | precise
  /-- Every unit from a minute up, and a fraction of the next one. -/
  | classic
  deriving DecidableEq, Repr

namespace Duration

/-- A unit: the least duration written with it, its own length and its names. -/
structure TimeUnit where
  least : Int
  length : Int
  short : String
  long : String
  deriving DecidableEq, Repr

/-- The units, longest first. -/
def units : List TimeUnit :=
  [⟨year, year, "y", "year"⟩, ⟨45 * day, month, "mo", "month"⟩, ⟨10 * day, week, "w", "week"⟩,
    ⟨day, day, "d", "day"⟩, ⟨hour, hour, "h", "hour"⟩, ⟨minute, minute, "m", "minute"⟩,
    ⟨second, second, "s", "second"⟩, ⟨millisecond, millisecond, "ms", "millisecond"⟩,
    ⟨microsecond, microsecond, "µs", "microsecond"⟩, ⟨1, 1, "ns", "nanosecond"⟩]

end Duration

namespace DurationStyle

/-- Duration from which on the units are whole. -/
def wholeAbove : DurationStyle → Int
  | .precise => 0
  | .classic => Duration.minute
  | .native => Duration.minute

/-- Whether a unit is used. -/
def uses (s : DurationStyle) (u : Duration.TimeUnit) : Bool :=
  match s with
  | .native => u.least < Duration.day
  | _ => true

def name : DurationStyle → String
  | .native => "native"
  | .precise => "precise"
  | .classic => "classic"

/-- All styles. -/
def all : List DurationStyle := [.native, .precise, .classic]

/-- Style of a name. -/
def named? (name : String) : Option DurationStyle := all.find? fun s => s.name = name

end DurationStyle

namespace Duration

/-- Amounts of the units in a duration, in order: whole amounts while the rest is above a
bound, then one amount with a fraction. -/
def amounts (style : DurationStyle) : Int → List TimeUnit → List (Binary64 × TimeUnit)
  | _, [] => []
  | n, u :: rest =>
      if !style.uses u || n < u.least then amounts style n rest
      else if style.wholeAbove < n then
        (Binary64.ofInt (n / u.length), u) :: amounts style (n - n / u.length * u.length) rest
      else ((Binary64.ofInt n).div (Binary64.ofInt u.length), u) :: amounts style 0 rest

/-- Amount with the short name of its unit. -/
def shortText (p : Binary64 × TimeUnit) : String := Decimal.plainText p.1 ++ p.2.short

/-- Amount with the long name of its unit, in the plural from two on. -/
def longText (p : Binary64 × TimeUnit) : String :=
  Decimal.plainText p.1 ++ " " ++ p.2.long ++ (if p.1.atLeast 2 then "s" else "")

/-- Text of a duration that is not negative. -/
def unsignedText (style : DurationStyle) (long : Bool) (n : Int) : String :=
  let parts := amounts style n units
  if long then
    if parts.isEmpty then "0 second" else Text.joinWith " " (parts.map longText)
  else
    if parts.isEmpty then "0s" else Text.joinWith "" (parts.map shortText)

end Duration

/-- Complete choice of a written form of durations. -/
structure DurationFormat where
  style : DurationStyle
  rounded : Bool
  long : Bool
  deriving DecidableEq, Repr

namespace DurationFormat

/-- Every unit, rounded, with short names. -/
def standard : DurationFormat := ⟨.precise, true, false⟩

instance : Inhabited DurationFormat := ⟨standard⟩

/-- All formats, the length of the names varying fastest. -/
def all : List DurationFormat :=
  DurationStyle.all.flatMap fun s =>
    [false, true].flatMap fun rounded => [false, true].map fun long => ⟨s, rounded, long⟩

/-- Text of the absolute value of a duration. -/
def magnitudeText (f : DurationFormat) (n : Int) : String :=
  Duration.unsignedText f.style f.long (if f.rounded then Duration.roundSuited n else n)

/-- Text of a duration. -/
def format (f : DurationFormat) (d : Int) : String :=
  let n := Duration.saturate d
  if n < 0 then "-" ++ f.magnitudeText (Duration.opposite n) else f.magnitudeText n

/-- Keywords of a format. -/
def text (f : DurationFormat) : String :=
  f.style.name ++ "+" ++ (if f.rounded then "rounded" else "exact") ++ "+"
    ++ (if f.long then "long" else "short")

/-- Changes made by the keywords. -/
def keywords : List (String × (DurationFormat → DurationFormat)) :=
  [("native", fun f => { f with style := .native }),
    ("precise", fun f => { f with style := .precise }),
    ("classic", fun f => { f with style := .classic }),
    ("rounded", fun f => { f with rounded := true }),
    ("round", fun f => { f with rounded := true }),
    ("exact", fun f => { f with rounded := false }),
    ("long", fun f => { f with long := true }),
    ("short", fun f => { f with long := false })]

/-- Follow keywords from left to right; the first unknown one is returned. -/
def follow : DurationFormat → List String → Except String DurationFormat
  | f, [] => .ok f
  | f, w :: rest =>
      match keywords.lookup w with
      | some change => follow (change f) rest
      | none => .error w

/-- Format of a list of keywords in any letter case, separated by anything else.  What is
not mentioned is as in the standard format. -/
def read (s : String) : Except LogError DurationFormat :=
  match follow standard ((Text.words s.toList).map fun w => String.ofList (Text.lower w)) with
  | .ok f => .ok f
  | .error w => .error (.invalidConfiguration "duration format" (.unknownKeyword w s))

end DurationFormat

/-- Text of a duration in a style, exact and with short names. -/
def DurationStyle.format (s : DurationStyle) (d : Int) : String :=
  DurationFormat.format ⟨s, false, false⟩ d

end Hooklog
