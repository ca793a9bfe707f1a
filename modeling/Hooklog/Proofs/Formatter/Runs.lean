import Hooklog.Formatter.Text

/-!
# Runs of a text formatter

A run is a sequence of calls on one text formatter.  `TextFormatter.perform` is one call, with
what it answers, and `TextFormatter.run` is all of them.  The settings of the process are read
anew by each line that is written.
-/

namespace Hooklog

/-- A call on a text formatter. -/
inductive FormatterCall where
  /-- Replace the template by the first format that is not empty. -/
  | setFormat (formats : List String)
  | setColor (color : Bool)
  | setPalette (palette : SortedMap Level (List Sgr.Attribute))
  | setTimeLayout (layout : TimeLayout)
  | setLevelName (level : Level) (name : String)
  | setPrecision (precision : Option Nat)
  | setDurationText (write : Option (Int → String))
  | setCallerText (write : Option (Caller → String))
  | setZone (zone : Option Int)
  | setBaseTime (time : Instant)
  | compile
  /-- Write an entry under the settings of the process. -/
  | write (settings : Settings) (e : Entry)

/-- What a call on a text formatter answers. -/
inductive FormatterAnswer where
  | nothing
  | result (result : Except LogError Unit)
  | template (result : Except LogError Template.Compiled)
  | line (result : Except Stop String)

/-- Whether a call replaces what a compiled template or its painters depend on. -/
def FormatterCall.replaces : FormatterCall → Bool
  | .setFormat _ | .setColor _ | .setPalette _ => true
  | _ => false

namespace TextFormatter

/-- One call. -/
def perform (f : TextFormatter) : FormatterCall → FormatterAnswer × TextFormatter
  | .setFormat formats => (.nothing, f.setFormat formats)
  | .setColor color => (.nothing, f.setColor color)
  | .setPalette palette => (.nothing, f.setPalette palette)
  | .setTimeLayout layout =>
      match f.setTimeLayout layout with
      | .error error => (.result (.error error), f)
      | .ok f => (.result (.ok ()), f)
  | .setLevelName level name => (.nothing, f.setLevelName level name)
  | .setPrecision precision => (.nothing, f.setPrecision precision)
  | .setDurationText write => (.nothing, f.setDurationText write)
  | .setCallerText write => (.nothing, f.setCallerText write)
  | .setZone zone => (.nothing, f.setZone zone)
  | .setBaseTime time => (.nothing, f.setBaseTime time)
  | .compile =>
      let (result, f) := f.compile
      (.template (result.map KeptTemplate.template), f)
  | .write settings e =>
      let (result, f) := f.write settings e
      (.line result, f)

/-- Calls one after the other, with their answers. -/
def run (f : TextFormatter) : List FormatterCall → List FormatterAnswer × TextFormatter
  | [] => ([], f)
  | c :: rest =>
      let (answer, f) := f.perform c
      let (answers, f) := f.run rest
      (answer :: answers, f)

/-- Formatter after some calls. -/
def after (f : TextFormatter) (calls : List FormatterCall) : TextFormatter := (f.run calls).2

theorem after_cons (f : TextFormatter) (c : FormatterCall) (rest : List FormatterCall) :
    f.after (c :: rest) = (f.perform c).2.after rest := rfl

theorem after_append (f : TextFormatter) (calls more : List FormatterCall) :
    f.after (calls ++ more) = (f.after calls).after more := by
  induction calls generalizing f with
  | nil => rfl
  | cons c rest ih => exact ih (f.perform c).2

end TextFormatter

end Hooklog
