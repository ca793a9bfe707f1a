import Hooklog.Level
import Hooklog.Json.Value
import Hooklog.Json.Reader

/-!
# Levels in JSON text

A level is written as its text; integers and texts are read.
-/

namespace Hooklog.Level

/-- Written form of a level. -/
def toJson (l : Level) : Json := .string l.text

/-- Level that a document stands for. -/
def ofDocument? : Json.Document → Option Level
  | .number (.natural n) =>
      if Decimal.signed64.holds (n : Int) then (ofInt? (n : Int)).toOption else none
  | .number (.negative n) => (ofInt? n).toOption
  | .string (some s) => (read s).toOption
  | _ => none

end Hooklog.Level
