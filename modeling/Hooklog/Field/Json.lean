import Hooklog.Field
import Hooklog.Json.Value
import Hooklog.Json.Reader

/-!
# Fields in JSON text
-/

namespace Hooklog

/-- Written form of a field value. -/
def FieldValue.toJson : FieldValue → Json
  | .text s => .string s
  | .int n => .int n.toInt
  | .float x => .float x
  | .bool b => .bool b
  | .null => .null

/-- Field value that a document stands for.  An integer too large for 64 bits with a sign
becomes a float. -/
def FieldValue.ofDocument? : Json.Document → Option FieldValue
  | .null => some .null
  | .bool b => some (.bool b)
  | .string (some s) => some (.text s)
  | .number (.natural n) =>
      if Decimal.signed64.holds (n : Int) then some (.int (Int64.ofInt n))
      else some (.float (Binary64.ofInt n))
  | .number (.negative n) => some (.int (Int64.ofInt n))
  | .number (.float (some x)) => some (.float x)
  | _ => none

namespace Fields

/-- Written form of fields: an object with ascending keys. -/
def toJson (f : Fields) : Json := .object (f.toList.map fun p => (p.1, p.2.toJson))

/-- Fields of the members of an object, a repeated name keeping its last value. -/
def ofMembers? : Fields → List (Option String × Json.Document) → Option Fields
  | f, [] => some f
  | f, (some name, v) :: rest =>
      match FieldValue.ofDocument? v with
      | some value => ofMembers? (f.insert name value) rest
      | none => none
  | _, (none, _) :: _ => none

/-- Fields that a document stands for. -/
def ofDocument? : Json.Document → Option Fields
  | .object members => ofMembers? SortedMap.empty members
  | _ => none

/-- Fields of a JSON text. -/
def readJson? (s : String) : Option Fields :=
  match Json.read? s with
  | some d => ofDocument? d
  | none => none

end Fields

end Hooklog
