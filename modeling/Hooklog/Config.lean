import Hooklog.Duration.Format
import Hooklog.Duration.Span
import Hooklog.Time.Rfc3339.Reader
import Hooklog.Text.Case

/-!
# Configurations

Values for the settings of the process, each of them optional.  They are read from named
variables; a value that cannot be read is left out, one that cannot be computed stops the
process.
-/

namespace Hooklog

/-- Optional values for the settings. -/
structure Config where
  /-- Template of console hooks. -/
  format : Option String
  /-- Template of file hooks. -/
  fileFormat : Option String
  reportCaller : Option Bool
  /-- Precision of written durations, in nanoseconds. -/
  precision : Option Nat
  durationFormat : Option DurationFormat
  baseTime : Option Instant
  deriving DecidableEq

namespace Config

/-- Nothing is configured. -/
def empty : Config := ⟨none, none, none, none, none, none⟩

def formatVariable : String := "MULTILOGGER_FORMAT"

def fileFormatVariable : String := "MULTILOGGER_FILE_FORMAT"

def callerVariable : String := "MULTILOGGER_CALLER"

def precisionVariable : String := "MULTILOGGER_DURATION_PRECISION"

def durationFormatVariable : String := "MULTILOGGER_DURATION_FORMAT"

def baseTimeVariable : String := "MULTILOGGER_BASETIME"

/-- Texts that switch something off. -/
def falseTexts : List String := ["", "0", "f", "false", "n", "no", "off"]

/-- Switch of a text: on, unless the text says otherwise. -/
def readSwitch (s : String) : Bool :=
  !falseTexts.contains (String.ofList (Text.lower (Text.trim s.toList)))

/-- Template of a variable, an empty one counting as absent. -/
def readFormat (s : String) : Option String := if s.isEmpty then none else some s

/-- Precision of a text. -/
def readPrecision (s : String) : Except Unread Nat := Span.read (Text.trim s.toList)

/-- Precision of an optional text. -/
def precisionOf : Option String → Except Fault (Option Nat)
  | some s => Unread.settled (readPrecision s)
  | none => .ok none

/-- Configuration of variables, unless reading the precision stops the process. -/
def ofVariables (lookup : String → Option String) : Except Fault Config :=
  match precisionOf (lookup precisionVariable) with
  | .error f => .error f
  | .ok precision =>
      .ok
        { format := (lookup formatVariable).bind readFormat
          fileFormat := (lookup fileFormatVariable).bind readFormat
          reportCaller := (lookup callerVariable).map readSwitch
          precision := precision
          durationFormat :=
            (lookup durationFormatVariable).bind fun s => (DurationFormat.read s).toOption
          baseTime :=
            (lookup baseTimeVariable).bind fun s => Rfc3339.readStrict? (Text.trim s.toList) }

end Config

end Hooklog
