import Hooklog.Template.Spec
import Hooklog.Text.Utf8

/-!
# Compiled templates

A compiled template is its literal text, the skeleton, and the fields to be spliced into it
at their positions.  Styles of keys and values produce no text; the last one of each kind
holds for the whole template.
-/

namespace Hooklog.Template

/-- What one part of a template amounts to. -/
inductive Item where
  | text (s : List Char)
  | field (spec : FieldSpec)
  | keyStyle (spec : FieldSpec)
  | valueStyle (spec : FieldSpec)
  deriving DecidableEq

/-- What a field specification amounts to: without a value, its colors are switched on for
the literal text that follows. -/
def Item.ofSpec (spec : FieldSpec) : Item :=
  match spec.token with
  | .keyStyle => .keyStyle spec
  | .valueStyle => .valueStyle spec
  | .unset =>
      if spec.attributes = [] then .text [] else .text (Sgr.opening spec.attributes).toList
  | _ => .field spec

/-- What a segment amounts to. -/
def Segment.item (color : Bool) : Segment → Item
  | .literal c => .text [c]
  | .placeholder p => .ofSpec (p.spec color)

/-- What is wrong with a segment. -/
def Segment.faults : Segment → List TemplateFault
  | .literal _ => []
  | .placeholder p => p.faults

/-- Style of keys unless a template says otherwise: the color of the level. -/
def defaultKeyStyle : FieldSpec := .plain .keyStyle true

/-- Style of values unless a template says otherwise. -/
def defaultValueStyle : FieldSpec := .plain .valueStyle false

/-- A template ready for rendering. -/
structure Compiled where
  skeleton : List Char
  fields : List FieldSpec
  keyStyle : FieldSpec
  valueStyle : FieldSpec
  deriving DecidableEq

/-- Literal text of items. -/
def skeletonOf : List Item → List Char
  | [] => []
  | .text s :: rest => s ++ skeletonOf rest
  | _ :: rest => skeletonOf rest

/-- Fields of items with their positions, the first item standing at an offset. -/
def fieldsFrom (offset : Nat) : List Item → List FieldSpec
  | [] => []
  | .text s :: rest => fieldsFrom (offset + Text.byteLength s) rest
  | .field spec :: rest => { spec with position := offset } :: fieldsFrom offset rest
  | _ :: rest => fieldsFrom offset rest

/-- Style that an item sets, if it is one of a kind: of keys or of values. -/
def Item.style? (kind : Token) : Item → Option FieldSpec
  | .keyStyle spec => if kind = .keyStyle then some spec else none
  | .valueStyle spec => if kind = .valueStyle then some spec else none
  | _ => none

/-- Last style of a kind among items, after an earlier one. -/
def styleAfter (kind : Token) (style : FieldSpec) : List Item → FieldSpec
  | [] => style
  | item :: rest => styleAfter kind ((item.style? kind).getD style) rest

/-- Template of items. -/
def Compiled.ofItems (items : List Item) : Compiled where
  skeleton := skeletonOf items
  fields := fieldsFrom 0 items
  keyStyle := styleAfter .keyStyle defaultKeyStyle items
  valueStyle := styleAfter .valueStyle defaultValueStyle items

/-- Everything that is wrong with a template. -/
def faults (format : String) : List TemplateFault :=
  (segments format.toList).flatMap Segment.faults

/-- Items of a template. -/
def items (format : String) (color : Bool) : List Item :=
  (segments format.toList).map (Segment.item color)

/-- Template of a format.  Colors are checked also when they are not kept. -/
def compile (format : String) (color : Bool) : Except LogError Compiled :=
  if faults format = [] then .ok (.ofItems (items format color))
  else .error (.template (faults format))

end Hooklog.Template
