import Hooklog.Proofs.Template.Items
import Hooklog.Proofs.Template.Source

/-!
# Written templates

Templates as their authors mean them: literal texts without percent signs, and between them
descriptions of placeholders with a width, a limit, a name and attributes.  A description has
a text and says which field it stands for; neither refers to the reader of templates.
-/

namespace Hooklog.Template

open Text

/-! ## Descriptions -/

/-- Character of a written name. -/
def isNameChar (c : Char) : Bool := isAsciiLetter c || isAsciiDigit c || c == '_'

/-- A placeholder as it is meant.  The name is a reserved one in any letter case or another
identifier, and every attribute a keyword or a color in any letter case. -/
structure Description where
  width : Option Int
  limit : Option Nat
  name : String
  attributes : List String
  width_holds : ∀ w, width = some w → widthBounds.holds w = true
  limit_holds : ∀ n : Nat, limit = some n → limitBounds.holds n = true
  name_chars : ∀ c ∈ name.toList, isNameChar c = true
  name_start : ∃ c rest, name.toList = c :: rest ∧ isAsciiDigit c = false
  attributes_known : ∀ a ∈ attributes, lowerString a ∈ knownNames

namespace Description

/-- Width as it is written. -/
def widthText (d : Description) : Option (List Char) :=
  d.width.map fun w => (Decimal.integerText w).toList

/-- Limit as it is written, without its point. -/
def limitText (d : Description) : Option (List Char) := d.limit.map Decimal.digitsOf

/-- Attributes as they are written, without their colon. -/
def attributesText (d : Description) : Option (List Char) :=
  if d.attributes = [] then none else some (joinWith "," d.attributes).toList

/-- Text of a description. -/
def text (d : Description) : List Char :=
  '%' :: d.widthText.getD [] ++ limitSource d.limitText ++ d.name.toList
    ++ attributesSource d.attributesText ++ ['%']

/-- What the name stands for: its token if it is reserved, else the field of that name. -/
def token (d : Description) : Token :=
  (Token.names.lookup (String.ofList (d.name.toList.map Char.toLower))).getD (.field d.name)

end Description

/-! ## Fields of descriptions -/

/-- The field that a description stands for.  Of several changes of case or brackets the last
one counts. -/
def Description.spec (d : Description) (color : Bool) (position : Nat) : FieldSpec where
  token := d.token
  transform := lastOf caseNames .none d.attributes
  bracket := lastOf bracketNames .none d.attributes
  addSpace := mentions ["space"] d.attributes
  ignoreEmpty := mentions ["ignore", "ignoreempty"] d.attributes
  printKey := mentions ["key"] d.attributes
  plainKey := mentions ["none"] d.attributes
  levelColor := mentions ["color"] d.attributes
  attributes := if color then d.attributes.filterMap Sgr.Attribute.named? else []
  width := d.width
  limit := d.limit
  position := position

/-! ## Templates -/

/-- A template as it is meant: a literal text, and descriptions each followed by a literal
text. -/
structure Written where
  first : String
  parts : List (Description × String)
  first_plain : '%' ∉ first.toList
  parts_plain : ∀ p ∈ parts, '%' ∉ p.2.toList

namespace Written

/-- Text of descriptions and the literal texts that follow them. -/
def partsText (parts : List (Description × String)) : List Char :=
  parts.flatMap fun p => p.1.text ++ p.2.toList

/-- Text of a template. -/
def text (t : Written) : List Char := t.first.toList ++ partsText t.parts

/-- Fields of descriptions after some bytes of literal text, without the styles. -/
def fieldsOf (color : Bool) (offset : Nat) : List (Description × String) → List FieldSpec
  | [] => []
  | (d, s) :: rest =>
      let later := fieldsOf color (offset + byteLength s.toList) rest
      if d.token.isStyle then later else d.spec color offset :: later

/-- Last style of a kind among descriptions. -/
def styleOf (style : Token) (default : FieldSpec) (color : Bool)
    (parts : List (Description × String)) : FieldSpec :=
  match (parts.filter fun p => decide (p.1.token = style)).getLast? with
  | some p => p.1.spec color 0
  | none => default

/-- The compiled template that a written one stands for. -/
def compiled (t : Written) (color : Bool) : Compiled where
  skeleton := t.first.toList ++ t.parts.flatMap fun p => p.2.toList
  fields := fieldsOf color (byteLength t.first.toList) t.parts
  keyStyle := styleOf .keyStyle defaultKeyStyle color t.parts
  valueStyle := styleOf .valueStyle defaultValueStyle color t.parts

end Written

end Hooklog.Template
