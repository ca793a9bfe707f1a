import Hooklog.Time.Layout.Reader
import Hooklog.Error

/-!
# Timestamps

How the time of an entry is written.
-/

namespace Hooklog

/-- Choice of a written form of an instant. -/
inductive TimeLayout where
  /-- Date and time with milliseconds, separated by slashes and colons. -/
  | classic
  /-- The standard form with milliseconds. -/
  | iso8601
  /-- The standard form in whole seconds. -/
  | rfc3339
  /-- Seconds since the epoch. -/
  | unix
  /-- A layout given by its specifiers. -/
  | custom (layout : String)
  deriving DecidableEq, Repr

namespace TimeLayout

/-- The layout of the classic form. -/
def classicText : String := "%Y/%m/%d %H:%M:%S%.3f"

/-- Text of an instant under a layout; a layout that cannot be followed is written as it
stands. -/
def followed (layout : String) (t : Instant) (zone : Zone) : String :=
  match LayoutItem.read? layout with
  | none => layout
  | some items =>
      match LayoutItem.textAll? t zone items with
      | some s => String.ofList s
      | none => layout

/-- Text of an instant in a zone, also beyond the end of the calendar. -/
def text (l : TimeLayout) (t : Instant) (zone : Zone) : String :=
  match l with
  | .classic => followed classicText t zone
  | .iso8601 => String.ofList (Rfc3339.write .millis true t zone)
  | .rfc3339 => String.ofList (Rfc3339.write .seconds true t zone)
  | .unix => Decimal.integerText t.seconds
  | .custom layout => followed layout t zone

/-- Whether the layout is one of the standard forms. -/
def isStandard : TimeLayout → Bool
  | .iso8601 => true
  | .rfc3339 => true
  | _ => false

/-- Text of an instant in a zone.  The standard forms have none for a local time that the
calendar does not hold. -/
def format (l : TimeLayout) (t : Instant) (zone : Zone) : Except Fault String :=
  if l.isStandard && !zone.reaches t then .error .localTimeOverflow else .ok (l.text t zone)

/-- Refuse a custom layout with an unknown specifier. -/
def validate : TimeLayout → Except LogError Unit
  | .custom layout =>
      match LayoutItem.read? layout with
      | some _ => .ok ()
      | none => .error (.template [.badTimeLayout layout])
  | _ => .ok ()

end TimeLayout

end Hooklog
