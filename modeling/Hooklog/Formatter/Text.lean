import Hooklog.Formatter.Painters
import Hooklog.Text.Quoted

/-!
# Text formatters

A text formatter writes entries through a template.  It compiles the template when it first
needs it and keeps the result, together with the control sequences used so far, until the
template, the color mode or the palette is replaced.  Its clock holds the origins of delay
and delta.
-/

namespace Hooklog

open Template

/-- A compiled template that a formatter keeps. -/
structure KeptTemplate where
  /-- Number of the compilation that made it. -/
  serial : Nat
  template : Compiled
  painters : Painters

/-- Formatter of text lines. -/
structure TextFormatter where
  format : String
  color : Bool
  options : RenderOptions
  kept : Option KeptTemplate
  /-- Number of compilations so far. -/
  compilations : Nat
  /-- Origin of the delay. -/
  baseTime : Instant
  /-- Origin of the delta. -/
  last : Instant

namespace TextFormatter

/-- Template used when no format is given at all. -/
def defaultFormat : String := "[%.4level:color,upper%]: %time% - %message%"

/-- Template of consoles. -/
def defaultConsoleFormat : String :=
  "%module:Italic,Green,SquareBrackets,IgnoreEmpty,Space%%time% %-8level:upper,color% "
    ++ "%message:color%"

/-- Template of files. -/
def defaultFileFormat : String :=
  "%module:SquareBrackets,IgnoreEmpty,Space%%time% %-8level:upper% %message%"

/-- First format that is not empty. -/
def firstFormat (formats : List String) : String :=
  (formats.find? fun f => !f.isEmpty).getD defaultFormat

/-- Formatter with the first format that is not empty, made at some instant. -/
def new (color : Bool) (formats : List String) (now : Instant) : TextFormatter where
  format := firstFormat formats
  color := color
  options := .standard
  kept := none
  compilations := 0
  baseTime := now
  last := now

/-- Formatter of consoles. -/
def console (s : Settings) (now : Instant) : TextFormatter :=
  new s.colorize [s.format.value, defaultConsoleFormat] now

/-- Formatter of files, never in color. -/
def file (s : Settings) (now : Instant) : TextFormatter :=
  new false [s.fileFormat.value, s.format.value, defaultFileFormat] now

/-! ## Replacing parts of a formatter -/

/-- Replace the template by the first format that is not empty. -/
def setFormat (f : TextFormatter) (formats : List String) : TextFormatter :=
  { f with format := firstFormat formats, kept := none }

/-- Switch colors. -/
def setColor (f : TextFormatter) (color : Bool) : TextFormatter :=
  { f with color := color, kept := none }

/-- Replace the palette. -/
def setPalette (f : TextFormatter) (palette : SortedMap Level (List Sgr.Attribute)) :
    TextFormatter :=
  { f with options := { f.options with palette := palette }, kept := none }

/-- Replace the layout of times by one without unknown specifiers. -/
def setTimeLayout (f : TextFormatter) (layout : TimeLayout) : Except LogError TextFormatter :=
  match layout.validate with
  | .error e => .error e
  | .ok _ => .ok { f with options := { f.options with timeLayout := layout } }

/-- Name a level. -/
def setLevelName (f : TextFormatter) (l : Level) (name : String) : TextFormatter :=
  { f with options := { f.options with levelNames := f.options.levelNames.insert l name } }

/-- Replace the precision of durations. -/
def setPrecision (f : TextFormatter) (precision : Option Nat) : TextFormatter :=
  { f with options := { f.options with precision := precision } }

/-- Replace the text of durations. -/
def setDurationText (f : TextFormatter) (write : Option (Int → String)) : TextFormatter :=
  { f with options := { f.options with durationText := write } }

/-- Replace the text of callers. -/
def setCallerText (f : TextFormatter) (write : Option (Caller → String)) : TextFormatter :=
  { f with options := { f.options with callerText := write } }

/-- Replace the zone of times. -/
def setZone (f : TextFormatter) (zone : Option Int) : TextFormatter :=
  { f with options := { f.options with zone := zone } }

/-- Reset both origins of the clock. -/
def setBaseTime (f : TextFormatter) (t : Instant) : TextFormatter :=
  { f with baseTime := t, last := t }

/-! ## Building a formatter -/

/-- Formatter with another palette; what it remembers is kept. -/
def withPalette (f : TextFormatter) (palette : SortedMap Level (List Sgr.Attribute)) :
    TextFormatter :=
  { f with options := { f.options with palette := palette } }

/-- Formatter with another layout of times. -/
def withTimeLayout (f : TextFormatter) (layout : TimeLayout) : Except LogError TextFormatter :=
  f.setTimeLayout layout

/-- Formatter with a name for a level. -/
def withLevelName (f : TextFormatter) (l : Level) (name : String) : TextFormatter :=
  f.setLevelName l name

/-- Formatter with a precision of durations. -/
def withPrecision (f : TextFormatter) (precision : Nat) : TextFormatter :=
  f.setPrecision (some precision)

/-- Formatter with a text of durations. -/
def withDurationText (f : TextFormatter) (write : Int → String) : TextFormatter :=
  f.setDurationText (some write)

/-- Formatter with a text of callers. -/
def withCallerText (f : TextFormatter) (write : Caller → String) : TextFormatter :=
  f.setCallerText (some write)

/-- Formatter with a zone of times. -/
def withZone (f : TextFormatter) (zone : Int) : TextFormatter := f.setZone (some zone)

/-- Formatter with both origins of its clock at an instant. -/
def withBaseTime (f : TextFormatter) (t : Instant) : TextFormatter := f.setBaseTime t

/-! ## Compiling and writing -/

/-- The kept template, compiled if there is none.  A failed compilation leaves nothing
behind. -/
def compile (f : TextFormatter) : Except LogError KeptTemplate × TextFormatter :=
  match f.kept with
  | some k => (.ok k, f)
  | none =>
      match Template.compile f.format f.color with
      | .error e => (.error e, f)
      | .ok c =>
          let k : KeptTemplate := ⟨f.compilations, c, []⟩
          (.ok k, { f with kept := some k, compilations := f.compilations + 1 })

/-- The kept template, for a caller that knows the format to be valid. -/
def compileOrStop (f : TextFormatter) : Except Fault KeptTemplate × TextFormatter :=
  match f.compile with
  | (.ok k, f) => (.ok k, f)
  | (.error e, f) => (.error (.unexpected e), f)

/-- What a rendering depends on, with the painters of a kept template. -/
def view (f : TextFormatter) (s : Settings) (k : KeptTemplate) : View where
  color := f.color
  options := f.options
  settings := s
  baseTime := f.baseTime
  last := f.last
  painter := k.painters.painter f.color f.options.palette

/-- Formatter that remembers the painters used by the rendering of an entry. -/
def remembering (f : TextFormatter) (s : Settings) (e : Entry) (k : KeptTemplate) :
    TextFormatter :=
  let used := (Line.trail (f.view s k) e k.template).fields
  let painters := k.painters.rememberAll f.color f.options.palette e.level used
  { f with kept := some { k with painters := painters } }

/-- Line of an entry.  The delta is counted from the last entry that was written. -/
def write (f : TextFormatter) (s : Settings) (e : Entry) : Except Stop String × TextFormatter :=
  match f.compile with
  | (.error error, f) => (.error (.failed error), f)
  | (.ok k, f) =>
      let next := f.remembering s e k
      match Line.render (f.view s k) e k.template with
      | .error fault => (.error (.stopped fault), next)
      | .ok line => (.ok line, { next with last := e.time })

/-- Short description of a formatter. -/
def summary (f : TextFormatter) : String :=
  "TemplateFormatter \x7b format: " ++ Text.quoted f.format ++ ", color: "
    ++ (if f.color then "true" else "false") ++ ", .. \x7d"

end TextFormatter

end Hooklog
