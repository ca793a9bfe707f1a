import Hooklog.SortedMap
import Hooklog.Decimal.Layout
import Hooklog.Decimal.Integer
import Hooklog.Text.Words

/-!
# Fields

Named values attached to an entry, kept sorted by name.
-/

namespace Hooklog

/-- Value of a field. -/
inductive FieldValue where
  | text (s : String)
  | int (n : Int64)
  | float (x : Binary64)
  | bool (b : Bool)
  | null
  deriving DecidableEq

namespace FieldValue

/-- Value of an integer: one that does not fit into 64 bits with a sign becomes its text. -/
def ofInt (n : Int) : FieldValue :=
  if Decimal.signed64.holds n then .int (Int64.ofInt n) else .text (Decimal.integerText n)

/-- Value of an optional integer. -/
def ofOption : Option Int → FieldValue
  | some n => ofInt n
  | none => .null

/-- Text of a value. -/
def toText : FieldValue → String
  | .text s => s
  | .int n => Decimal.integerText n.toInt
  | .float x => Decimal.plainText x
  | .bool true => "true"
  | .bool false => "false"
  | .null => "null"

def isNull : FieldValue → Bool
  | .null => true
  | _ => false

/-- Null, or a text without characters. -/
def isEmpty : FieldValue → Bool
  | .text s => s.isEmpty
  | .null => true
  | _ => false

end FieldValue

/-- Named values in the order of their names. -/
abbrev Fields := SortedMap String FieldValue

namespace Fields

/-- One named value as text. -/
def pairText (p : String × FieldValue) : String := p.1 ++ "=" ++ p.2.toText

/-- All values as text, separated by spaces. -/
def text (f : Fields) : String := Text.joinWith " " (f.toList.map pairText)

end Fields

end Hooklog
