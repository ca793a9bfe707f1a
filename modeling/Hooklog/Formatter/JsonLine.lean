import Hooklog.Entry.Json
import Hooklog.Time.Stamp

/-!
# JSON lines

Entries written as one JSON object each.  A field never hides an attribute of the entry: a
field that bears the name of one is renamed.
-/

namespace Hooklog

/-- Formatter of JSON objects. -/
structure JsonLineFormatter where
  /-- Whether objects are laid out over several lines. -/
  isPretty : Bool
  timeLayout : TimeLayout
  deriving DecidableEq

namespace JsonLineFormatter

/-- Formatter with times in the form of RFC 3339. -/
def new (isPretty : Bool) : JsonLineFormatter := ⟨isPretty, .rfc3339⟩

/-- Formatter with another layout of times, one without unknown specifiers. -/
def withTimeLayout (f : JsonLineFormatter) (layout : TimeLayout) :
    Except LogError JsonLineFormatter :=
  match layout.validate with
  | .error e => .error e
  | .ok _ => .ok { f with timeLayout := layout }

/-- Names of the attributes of an entry. -/
def reservedKeys : List String := ["level", "module", "msg", "time", "func", "file"]

/-- Key of a field. -/
def fieldKey (name : String) : String :=
  if reservedKeys.contains name then "fields." ++ name else name

/-- Keys and values of fields. -/
def fieldMembers (f : Fields) : SortedMap String Json :=
  .ofList (f.toList.map fun p => (fieldKey p.1, p.2.toJson))

/-- Keys and values of the attributes of an entry. -/
def attributes (f : JsonLineFormatter) (e : Entry) : List (String × Json) :=
  [("level", .string e.level.text)]
    ++ (if e.moduleName.isEmpty then [] else [("module", .string e.moduleName)])
    ++ [("msg", .string e.message), ("time", .string (f.timeLayout.text e.time .universal))]
    ++ (match e.caller with
        | some c => [("func", .string c.function), ("file", .string c.place)]
        | none => [])

/-- Keys and values of an entry in ascending order. -/
def members (f : JsonLineFormatter) (e : Entry) : SortedMap String Json :=
  (fieldMembers e.fields).insertMany (f.attributes e)

/-- Line of an entry. -/
def write (f : JsonLineFormatter) (e : Entry) : String :=
  let object := Json.object (f.members e).toList
  (if f.isPretty then object.pretty else object.compact) ++ "\n"

end JsonLineFormatter

end Hooklog
