import Hooklog.Text.Case
import Hooklog.Text.Words
import Hooklog.Decimal.Integer
import Hooklog.Error
import Hooklog.Level

/-!
# Terminal attributes

Styles and colors of a terminal, their names and the control sequence that selects them.
-/

namespace Hooklog.Sgr

/-- One of the eight colors of a terminal. -/
inductive Color where
  | black
  | red
  | green
  | yellow
  | blue
  | magenta
  | cyan
  | white
  deriving DecidableEq, Repr

/-- Number of a color. -/
def Color.index : Color → Nat
  | .black => 0
  | .red => 1
  | .green => 2
  | .yellow => 3
  | .blue => 4
  | .magenta => 5
  | .cyan => 6
  | .white => 7

/-- Names of the colors. -/
def Color.names : List (String × Color) :=
  [("black", .black), ("red", .red), ("green", .green), ("yellow", .yellow), ("blue", .blue),
    ("magenta", .magenta), ("cyan", .cyan), ("white", .white)]

/-- A text style. -/
inductive Style where
  | reset
  | bold
  | faint
  | italic
  | underline
  | blinkSlow
  | blinkRapid
  | reverseVideo
  | concealed
  | crossedOut
  deriving DecidableEq, Repr

/-- Number of a style. -/
def Style.index : Style → Nat
  | .reset => 0
  | .bold => 1
  | .faint => 2
  | .italic => 3
  | .underline => 4
  | .blinkSlow => 5
  | .blinkRapid => 6
  | .reverseVideo => 7
  | .concealed => 8
  | .crossedOut => 9

/-- Names of the styles. -/
def Style.names : List (String × Style) :=
  [("reset", .reset), ("bold", .bold), ("faint", .faint), ("italic", .italic),
    ("underline", .underline), ("blinkslow", .blinkSlow), ("blink", .blinkSlow),
    ("blinkrapid", .blinkRapid), ("reversevideo", .reverseVideo), ("reverse", .reverseVideo),
    ("concealed", .concealed), ("secret", .concealed), ("crossedout", .crossedOut),
    ("strikethrough", .crossedOut), ("strike", .crossedOut)]

/-- A style, or a color of the text or of its background.  A color is one of the eight, plain or
bright, or it is mixed of red, green and blue.  Where the terminal cannot mix colors, the closest
of the others stands in the place of a mixed one. -/
inductive Attribute where
  | style (s : Style)
  | foreground (bright : Bool) (color : Color)
  | background (bright : Bool) (color : Color)
  | mixedForeground (red green blue : UInt8)
  | mixedBackground (red green blue : UInt8)
  deriving DecidableEq, Repr

/-- Parameter that selects an attribute, the first one if there are several. -/
def Attribute.code : Attribute → Nat
  | .style s => s.index
  | .foreground false c => 30 + c.index
  | .foreground true c => 90 + c.index
  | .background false c => 40 + c.index
  | .background true c => 100 + c.index
  | .mixedForeground .. => 38
  | .mixedBackground .. => 48

/-- Parameters behind the first one, which say what a color is mixed of. -/
def Attribute.mixture : Attribute → List Nat
  | .mixedForeground red green blue => [2, red.toNat, green.toNat, blue.toNat]
  | .mixedBackground red green blue => [2, red.toNat, green.toNat, blue.toNat]
  | _ => []

/-- Parameters that select attributes. -/
def codesOf (attributes : List Attribute) : List Nat :=
  attributes.flatMap fun a => a.code :: a.mixture

/-- Ways to write a color name, and what they select. -/
def colorForms : List (String × (Color → Attribute)) :=
  [("", .foreground false), ("fg", .foreground false), ("hi", .foreground true),
    ("fghi", .foreground true), ("bg", .background false), ("bghi", .background true)]

/-- All names in lower case. -/
def attributeNames : List (String × Attribute) :=
  Style.names.map (fun p => (p.1, .style p.2))
    ++ Color.names.flatMap fun c => colorForms.map fun f => (f.1 ++ c.1, f.2 c.2)

/-- Attribute of a name in any letter case. -/
def Attribute.named? (name : String) : Option Attribute :=
  attributeNames.lookup (Text.lowerString name)

/-- Names found in attribute specifications: each holds names separated by anything else. -/
def namesIn (specs : List String) : List String :=
  specs.flatMap fun s => (Text.words s.toList).map String.ofList

/-- Names that stand for no attribute. -/
def unknownNames (names : List String) : List String :=
  names.filter fun n => (Attribute.named? n).isNone

/-- What is wrong with a list of names: every unknown one, and that none is known. -/
def faultsOf (names : List String) : List TemplateFault :=
  (unknownNames names).map .unknownAttribute
    ++ (if names.filterMap Attribute.named? = [] then [.noAttribute] else [])

/-- Attributes of a list of names. -/
def resolveNames (names : List String) : Except (List TemplateFault) (List Attribute) :=
  if faultsOf names = [] then .ok (names.filterMap Attribute.named?) else .error (faultsOf names)

/-- Attributes of specifications. -/
def resolve (specs : List String) : Except LogError (List Attribute) :=
  match resolveNames (namesIn specs) with
  | .ok attributes => .ok attributes
  | .error faults => .error (.template faults)

/-- The escape character. -/
def escape : Char := Char.ofNat 0x1B

/-- Control sequence of some parameters. -/
def sequence (parameters : String) : String :=
  String.ofList [escape, '['] ++ parameters ++ "m"

/-- Control sequence that selects attributes. -/
def opening (attributes : List Attribute) : String :=
  sequence (Text.joinWith ";" ((codesOf attributes).map Decimal.naturalText))

/-- Control sequence that ends all attributes. -/
def closing : String := sequence "0"

/-- Text under attributes. -/
def paint (attributes : List Attribute) (text : String) : String :=
  opening attributes ++ text ++ closing

/-- Attributes of the standard levels. -/
def levelAttributes (l : Level) : List Attribute :=
  if l = Level.panic then [.foreground false .magenta, .style .bold]
  else if l = Level.fatal then [.foreground false .red, .style .bold]
  else if l = Level.error then [.foreground false .red]
  else if l = Level.warning then [.foreground false .yellow]
  else if l = Level.info then [.foreground false .blue, .style .bold]
  else if l = Level.debug then [.foreground false .green]
  else if l = Level.trace then [.foreground false .green, .style .faint]
  else []

end Hooklog.Sgr
