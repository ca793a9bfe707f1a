import Hooklog.Formatter.JsonLine
import Hooklog.Formatter.Text

/-!
# Formatters

What turns an entry into a line: a template or JSON.
-/

namespace Hooklog

/-- A formatter of lines. -/
inductive Formatter where
  | text (f : TextFormatter)
  | jsonLine (f : JsonLineFormatter)

namespace Formatter

/-- Line of an entry, and the formatter afterwards. -/
def write (s : Settings) (e : Entry) : Formatter → Except Stop String × Formatter
  | .text f =>
      let (result, f) := f.write s e
      (result, .text f)
  | .jsonLine f => (.ok (f.write e), .jsonLine f)

/-- Switch colors; JSON has none. -/
def setColor (color : Bool) : Formatter → Formatter
  | .text f => .text (f.setColor color)
  | .jsonLine f => .jsonLine f

/-- The formatter as one with a template. -/
def asText? : Formatter → Option TextFormatter
  | .text f => some f
  | .jsonLine _ => none

end Formatter

end Hooklog
