import Hooklog.Config
import Hooklog.Json.Value
import Hooklog.Json.Reader

/-!
# Configurations in JSON text

A configuration is an object with a member for each value, or an array of the values in
order.  Null and absence mean the same, unknown members are passed over, and no known
member may be repeated.
-/

namespace Hooklog.Config

/-- Written form of an optional text. -/
def optionalText : Option String → Json
  | some s => .string s
  | none => .null

/-- Written form of a configuration. -/
def toJson (c : Config) : Json :=
  .object [("format", optionalText c.format), ("file_format", optionalText c.fileFormat),
    ("report_caller", match c.reportCaller with
      | some b => .bool b
      | none => .null),
    ("duration_precision", optionalText (c.precision.map Span.text)),
    ("duration_style", optionalText (c.durationFormat.map DurationFormat.text)),
    ("base_time", optionalText (c.baseTime.map Rfc3339.text))]

/-- Optional text that a document stands for. -/
def textOf : Json.Document → Except Unread (Option String)
  | .null => .ok none
  | .string (some s) => .ok (some s)
  | _ => .error .malformed

/-- Optional switch that a document stands for. -/
def switchOf : Json.Document → Except Unread (Option Bool)
  | .null => .ok none
  | .bool b => .ok (some b)
  | _ => .error .malformed

/-- Optional value read from the text that a document stands for. -/
def readOf {α : Type} (read : String → Except Unread α) (d : Json.Document) :
    Except Unread (Option α) :=
  match textOf d with
  | .ok (some s) => (read s).map some
  | .ok none => .ok none
  | .error u => .error u

/-- A value of a configuration, by the way to take it from a document. -/
abbrev Member := Json.Document → Config → Except Unread Config

/-- The values with their names, in order. -/
def members : List (String × Member) :=
  [("format", fun d c => (textOf d).map fun v => { c with format := v }),
    ("file_format", fun d c => (textOf d).map fun v => { c with fileFormat := v }),
    ("report_caller", fun d c => (switchOf d).map fun v => { c with reportCaller := v }),
    ("duration_precision", fun d c =>
      (readOf readPrecision d).map fun v => { c with precision := v }),
    ("duration_style", fun d c =>
      (readOf (fun s => Unread.ofOption (DurationFormat.read s).toOption) d).map
        fun v => { c with durationFormat := v }),
    ("base_time", fun d c =>
      (readOf (fun s => Unread.ofOption (Rfc3339.readRelaxed? s.toList)) d).map
        fun v => { c with baseTime := v })]

/-- Configuration of the members of an object; `seen` are the known names so far. -/
def ofMembers (c : Config) (seen : List String) :
    List (Option String × Json.Document) → Except Unread Config
  | [] => .ok c
  | (none, _) :: _ => .error .malformed
  | (some name, d) :: rest =>
      match members.lookup name with
      | none => ofMembers c seen rest
      | some take =>
          if seen.contains name then .error .malformed
          else
            match take d c with
            | .ok c => ofMembers c (name :: seen) rest
            | .error u => .error u

/-- Configuration of the values of an array, in order; there may be fewer than all. -/
def ofItems (c : Config) :
    List (String × Member) → List Json.Document → Except Unread Config
  | _, [] => .ok c
  | [], _ :: _ => .error .malformed
  | (_, take) :: ms, d :: rest =>
      match take d c with
      | .ok c => ofItems c ms rest
      | .error u => .error u

/-- Configuration that a document stands for. -/
def ofDocument : Json.Document → Except Unread Config
  | .object ms => ofMembers empty [] ms
  | .array items => ofItems empty members items
  | _ => .error .malformed

/-- Configuration of a JSON text. -/
def readJson (s : String) : Except Unread Config :=
  match Json.read? s with
  | some d => ofDocument d
  | none => .error .malformed

end Hooklog.Config
