import Hooklog.Config

/-!
# Settings of the process

Values shared by all formatters and loggers.  The first explicit value of a setting wins: a
later one is applied only when it overrides.
-/

namespace Hooklog

/-- A value, and whether it was given explicitly. -/
structure Setting (α : Type) where
  value : α
  isSet : Bool
  deriving DecidableEq

namespace Setting

/-- Setting of an optional value with a default. -/
def ofOption {α : Type} (default : α) : Option α → Setting α
  | some v => ⟨v, true⟩
  | none => ⟨default, false⟩

/-- Whether a new value would be applied. -/
def admits {α : Type} (s : Setting α) (override : Bool) : Bool := override || !s.isSet

/-- Setting after a new value was given. -/
def set {α : Type} (s : Setting α) (v : α) (override : Bool) : Setting α :=
  if s.admits override then ⟨v, true⟩ else s

end Setting

/-- All settings.  The precision is in nanoseconds and fits into 64 bits. -/
structure Settings where
  precision : Setting Nat
  durationFormat : Setting DurationFormat
  globalTime : Setting Instant
  /-- Zone of written times, in seconds east of universal time. -/
  displayZone : Option Int
  format : Setting String
  fileFormat : Setting String
  reportCaller : Setting Bool
  /-- Whether consoles show colors. -/
  colorize : Bool
  deriving DecidableEq

namespace Settings

/-- Precision used when none is given: a millisecond. -/
def defaultPrecision : Nat := 1000000

/-- Nearest number of nanoseconds that fits into 64 bits. -/
def storedPrecision (span : Nat) : Nat := min span (UInt64.size - 1)

/-- Settings of a process that starts with a configuration at some instant. -/
def ofConfig (c : Config) (now : Instant) (colorize : Bool) : Settings where
  precision := Setting.ofOption defaultPrecision (c.precision.map storedPrecision)
  durationFormat := Setting.ofOption DurationFormat.standard c.durationFormat
  globalTime := Setting.ofOption now c.baseTime
  displayZone := none
  format := Setting.ofOption "" c.format
  fileFormat := Setting.ofOption "" c.fileFormat
  reportCaller := Setting.ofOption false c.reportCaller
  colorize := colorize

/-- Give a precision.  The answer is the precision in force and whether it was applied; one
that was applied is answered as it was given. -/
def setPrecision (s : Settings) (span : Nat) (override : Bool) : (Nat × Bool) × Settings :=
  if s.precision.admits override then
    ((span, true), { s with precision := s.precision.set (storedPrecision span) override })
  else ((s.precision.value, false), s)

/-- Give a format of durations. -/
def setDurationFormat (s : Settings) (f : DurationFormat) (override : Bool) : Bool × Settings :=
  (s.durationFormat.admits override,
    { s with durationFormat := s.durationFormat.set f override })

/-- Give the reference instant. -/
def setGlobalTime (s : Settings) (t : Instant) (override : Bool) :
    (Instant × Bool) × Settings :=
  let new := s.globalTime.set t override
  ((new.value, s.globalTime.admits override), { s with globalTime := new })

/-- Give the template of console hooks. -/
def setFormat (s : Settings) (f : String) (override : Bool) : (String × Bool) × Settings :=
  let new := s.format.set f override
  ((new.value, s.format.admits override), { s with format := new })

/-- Give the template of file hooks. -/
def setFileFormat (s : Settings) (f : String) (override : Bool) : (String × Bool) × Settings :=
  let new := s.fileFormat.set f override
  ((new.value, s.fileFormat.admits override), { s with fileFormat := new })

/-- Say whether new loggers report callers. -/
def setReportCaller (s : Settings) (b : Bool) (override : Bool) : Bool × Settings :=
  (s.reportCaller.admits override, { s with reportCaller := s.reportCaller.set b override })

/-- Set the zone of written times; it is not protected against later values. -/
def setDisplayZone (s : Settings) (zone : Option Int) : Settings := { s with displayZone := zone }

/-- Give every value that a configuration holds. -/
def apply (s : Settings) (c : Config) (override : Bool) : Settings :=
  let s := match c.format with
    | some f => (s.setFormat f override).2
    | none => s
  let s := match c.fileFormat with
    | some f => (s.setFileFormat f override).2
    | none => s
  let s := match c.reportCaller with
    | some b => (s.setReportCaller b override).2
    | none => s
  let s := match c.precision with
    | some p => (s.setPrecision p override).2
    | none => s
  let s := match c.durationFormat with
    | some f => (s.setDurationFormat f override).2
    | none => s
  match c.baseTime with
  | some t => (s.setGlobalTime t override).2
  | none => s

end Settings

end Hooklog
