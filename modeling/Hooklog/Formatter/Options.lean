import Hooklog.Duration.Format
import Hooklog.Entry
import Hooklog.Sgr
import Hooklog.Time.Stamp

/-!
# Rendering options

What a template formatter can be told apart from its template.
-/

namespace Hooklog

/-- Options of a template formatter. -/
structure RenderOptions where
  /-- Layout of times. -/
  timeLayout : TimeLayout
  /-- Attributes of the color keyword, by level. -/
  palette : SortedMap Level (List Sgr.Attribute)
  /-- Names of levels that replace their usual ones. -/
  levelNames : SortedMap Level String
  /-- Precision of durations in nanoseconds, that of the process if absent or zero. -/
  precision : Option Nat
  /-- Text of durations, in the format of the process if absent. -/
  durationText : Option (Int → String)
  /-- Text of callers. -/
  callerText : Option (Caller → String)
  /-- Zone of times, that of the process if absent. -/
  zone : Option Int

namespace RenderOptions

/-- Palette of the standard levels. -/
def standardPalette : SortedMap Level (List Sgr.Attribute) :=
  .ofList (Level.standard.map fun l => (l, Sgr.levelAttributes l))

/-- Options of a new formatter. -/
def standard : RenderOptions where
  timeLayout := .classic
  palette := standardPalette
  levelNames := .empty
  precision := none
  durationText := none
  callerText := none
  zone := none

end RenderOptions

end Hooklog
