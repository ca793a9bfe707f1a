import Hooklog.Decimal.Layout
import Hooklog.Decimal.Integer
import Hooklog.Text.Words

/-!
# JSON text

Values and their written forms: compact on one line, or indented by two spaces a level.
-/

namespace Hooklog

/-- A value to be written.  The members of an object are written in the order given. -/
inductive Json where
  | null
  | bool (b : Bool)
  | int (n : Int)
  | float (x : Binary64)
  | string (s : String)
  | array (items : List Json)
  | object (members : List (String × Json))

namespace Json

/-- Hexadecimal digits of a code point below 256. -/
def hexByte (n : Nat) : List Char :=
  let ds := Nat.toDigits 16 n
  List.replicate (2 - ds.length) '0' ++ ds

/-- Written form of a character between quotes. -/
def escapeChar (c : Char) : List Char :=
  if c = '"' then ['\\', '"']
  else if c = '\\' then ['\\', '\\']
  else if c = '\n' then ['\\', 'n']
  else if c = '\r' then ['\\', 'r']
  else if c = '\t' then ['\\', 't']
  else if c.toNat = 8 then ['\\', 'b']
  else if c.toNat = 12 then ['\\', 'f']
  else if c.toNat < 0x20 then ['\\', 'u', '0', '0'] ++ hexByte c.toNat
  else [c]

/-- A string between quotes. -/
def stringText (s : String) : String :=
  "\"" ++ String.ofList (s.toList.flatMap escapeChar) ++ "\""

/-- Text of a number; what is not finite is written as null. -/
def floatText (x : Binary64) : String :=
  if x.isFinite then Decimal.dataNumber.text x else "null"

mutual

/-- Text on one line. -/
def compact : Json → String
  | .null => "null"
  | .bool true => "true"
  | .bool false => "false"
  | .int n => Decimal.integerText n
  | .float x => floatText x
  | .string s => stringText s
  | .array items => "[" ++ Text.joinWith "," (compactItems items) ++ "]"
  | .object members => "\x7b" ++ Text.joinWith "," (compactMembers members) ++ "\x7d"

def compactItems : List Json → List String
  | [] => []
  | v :: rest => v.compact :: compactItems rest

def compactMembers : List (String × Json) → List String
  | [] => []
  | (k, v) :: rest => (stringText k ++ ":" ++ v.compact) :: compactMembers rest

end

/-- Line break and indentation of a level. -/
def indent (level : Nat) : String := "\n" ++ String.ofList (List.replicate (2 * level) ' ')

/-- Written parts between brackets, each on a line of its own. -/
def bracketed (opening closing : String) (level : Nat) (parts : List String) : String :=
  if parts.isEmpty then opening ++ closing
  else
    opening ++ Text.joinWith "," (parts.map (indent (level + 1) ++ ·)) ++ indent level ++ closing

mutual

/-- Text over several lines, at a level of indentation. -/
def prettyAt (level : Nat) : Json → String
  | .null => "null"
  | .bool true => "true"
  | .bool false => "false"
  | .int n => Decimal.integerText n
  | .float x => floatText x
  | .string s => stringText s
  | .array items => bracketed "[" "]" level (prettyItems level items)
  | .object members => bracketed "\x7b" "\x7d" level (prettyMembers level members)

def prettyItems (level : Nat) : List Json → List String
  | [] => []
  | v :: rest => prettyAt (level + 1) v :: prettyItems level rest

def prettyMembers (level : Nat) : List (String × Json) → List String
  | [] => []
  | (k, v) :: rest =>
      (stringText k ++ ": " ++ prettyAt (level + 1) v) :: prettyMembers level rest

end

/-- Text over several lines. -/
def pretty (v : Json) : String := v.prettyAt 0

end Json

end Hooklog
