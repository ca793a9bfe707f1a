import Hooklog.Field
import Hooklog.Level
import Hooklog.Time.Instant

/-!
# Entries

One message to be logged, with what is known about its origin.
-/

namespace Hooklog

/-- Place in a program that logs. -/
structure Caller where
  function : String
  file : String
  line : Nat
  deriving DecidableEq, Repr

namespace Caller

/-- File and line. -/
def place (c : Caller) : String := c.file ++ ":" ++ Decimal.naturalText c.line

/-- All parts, whether or not they are empty. -/
def fullText (c : Caller) : String := c.function ++ " " ++ c.place

/-- Function and place, leaving out what is missing. -/
def text (c : Caller) : String :=
  if c.file.isEmpty then c.function
  else if c.function.isEmpty then c.place
  else c.function ++ " " ++ c.place

end Caller

/-- A message with its level, time, module, fields and caller. -/
structure Entry where
  level : Level
  message : String
  time : Instant
  moduleName : String
  fields : Fields
  caller : Option Caller
  deriving DecidableEq

end Hooklog
