import Hooklog.Template.Placeholder
import Hooklog.Sgr
import Hooklog.Text.Case
import Hooklog.Decimal.Integer

/-!
# Field specifications

What a placeholder renders and how.
-/

namespace Hooklog.Template

/-- What a placeholder renders. -/
inductive Token where
  | message
  | level
  | time
  /-- Time since the entry rendered before. -/
  | delta
  /-- Time since the formatter was made. -/
  | delay
  /-- Time since the reference instant of the process. -/
  | globalDelay
  | moduleName
  | function
  | file
  | line
  | caller
  /-- Every field that is not looked up by name elsewhere in the template. -/
  | fields
  /-- The field of a name. -/
  | field (name : String)
  /-- The style of field values. -/
  | valueStyle
  /-- The style of field keys. -/
  | keyStyle
  /-- Nothing but attributes. -/
  | unset
  deriving DecidableEq, Repr

namespace Token

/-- Reserved names. -/
def names : List (String × Token) :=
  [("message", .message), ("msg", .message), ("level", .level), ("lvl", .level),
    ("time", .time), ("delta", .delta), ("delay", .delay), ("globaldelay", .globalDelay),
    ("global", .globalDelay), ("module", .moduleName), ("func", .function), ("file", .file),
    ("line", .line), ("caller", .caller), ("fields", .fields), ("field", .valueStyle),
    ("key", .keyStyle)]

/-- Folding under which a name is compared with the reserved ones: ASCII letters in lower
case, with the two other characters that fold to one of them. -/
def foldChar (c : Char) : Char :=
  if c.toNat = 0x17F then 's' else if c.toNat = 0x212A then 'k' else c.toLower

/-- Token of a name.  A name that is a reserved one up to folding, but whose lower case is
none, stands for nothing. -/
def ofName (name : List Char) : Token :=
  match names.lookup (String.ofList (name.map foldChar)) with
  | none => .field (String.ofList name)
  | some _ => (names.lookup (String.ofList (Text.lower name))).getD .unset

/-- Key written in front of the value. -/
def key : Token → String
  | .message => "Message"
  | .level => "Level"
  | .time => "Time"
  | .delta => "Delta"
  | .delay => "Delay"
  | .globalDelay => "GlobalDelay"
  | .moduleName => "Module"
  | .function => "Func"
  | .file => "File"
  | .line => "Line"
  | .caller => "Caller"
  | .fields => "Fields"
  | .field name => name
  | .valueStyle => ""
  | .keyStyle => ""
  | .unset => ""

/-- Whether the token only sets the style of keys or values. -/
def isStyle : Token → Bool
  | .valueStyle => true
  | .keyStyle => true
  | _ => false

end Token

/-- Change of letter case. -/
inductive Transform where
  | none
  | upper
  | lower
  | title
  deriving DecidableEq, Repr

/-- Brackets around a value. -/
inductive Bracket where
  | none
  | square
  | curly
  | round
  | angle
  deriving DecidableEq, Repr

/-- Complete description of a field of a template. -/
structure FieldSpec where
  token : Token
  transform : Transform
  bracket : Bracket
  addSpace : Bool
  ignoreEmpty : Bool
  printKey : Bool
  plainKey : Bool
  /-- Whether the palette of the level applies. -/
  levelColor : Bool
  attributes : List Sgr.Attribute
  width : Option Int
  limit : Option Nat
  /-- Number of bytes of the skeleton before the value. -/
  position : Nat
  deriving DecidableEq

namespace FieldSpec

/-- A field without attributes. -/
def plain (token : Token) (levelColor : Bool) : FieldSpec where
  token := token
  transform := .none
  bracket := .none
  addSpace := false
  ignoreEmpty := false
  printKey := false
  plainKey := false
  levelColor := levelColor
  attributes := []
  width := none
  limit := none
  position := 0

/-- Changes made by the attribute keywords. -/
def keywords : List (String × (FieldSpec → FieldSpec)) :=
  [("color", fun s => { s with levelColor := true }),
    ("upper", fun s => { s with transform := .upper }),
    ("lower", fun s => { s with transform := .lower }),
    ("title", fun s => { s with transform := .title }),
    ("key", fun s => { s with printKey := true }),
    ("curly", fun s => { s with bracket := .curly }),
    ("curlybrackets", fun s => { s with bracket := .curly }),
    ("square", fun s => { s with bracket := .square }),
    ("squarebrackets", fun s => { s with bracket := .square }),
    ("round", fun s => { s with bracket := .round }),
    ("roundbrackets", fun s => { s with bracket := .round }),
    ("parens", fun s => { s with bracket := .round }),
    ("parenthesis", fun s => { s with bracket := .round }),
    ("angle", fun s => { s with bracket := .angle }),
    ("anglebrackets", fun s => { s with bracket := .angle }),
    ("space", fun s => { s with addSpace := true }),
    ("none", fun s => { s with plainKey := true }),
    ("ignore", fun s => { s with ignoreEmpty := true }),
    ("ignoreempty", fun s => { s with ignoreEmpty := true })]

/-- Change made by a name, if it is a keyword in some letter case. -/
def keyword? (name : String) : Option (FieldSpec → FieldSpec) :=
  keywords.lookup (Text.lowerString name)

/-- Field after the keywords among some names, from left to right. -/
def applyKeywords (s : FieldSpec) (names : List String) : FieldSpec :=
  names.foldl (fun s name => match keyword? name with
    | some change => change s
    | none => s) s

end FieldSpec

/-- Names among the attributes of a placeholder. -/
def Placeholder.names (p : Placeholder) : List String :=
  match p.attributes with
  | some a => (Text.words a).map String.ofList
  | none => []

/-- Names that are no keywords and so have to be colors. -/
def Placeholder.colorNames (p : Placeholder) : List String :=
  p.names.filter fun n => (FieldSpec.keyword? n).isNone

/-- What is wrong with the attributes of a placeholder. -/
def Placeholder.faults (p : Placeholder) : List TemplateFault :=
  if p.colorNames = [] then [] else Sgr.faultsOf p.colorNames

/-- Token of a placeholder. -/
def Placeholder.token (p : Placeholder) : Token :=
  match p.name with
  | some n => Token.ofName n
  | none => .unset

/-- Bounds of a width. -/
def widthBounds : Decimal.Bounds := Decimal.signed64

/-- Bounds of a limit. -/
def limitBounds : Decimal.Bounds := Decimal.unsigned64

/-- Field of a placeholder; colors are kept only when `color` holds.  A width or limit that
is no number within bounds counts as absent. -/
def Placeholder.spec (color : Bool) (p : Placeholder) : FieldSpec :=
  let base := (FieldSpec.plain p.token false).applyKeywords p.names
  { base with
    width := p.width.bind (Decimal.readWithin? widthBounds)
    limit := (p.limit.bind (Decimal.readWithin? limitBounds)).map Int.toNat
    attributes := if color then p.colorNames.filterMap Sgr.Attribute.named? else [] }

end Hooklog.Template
