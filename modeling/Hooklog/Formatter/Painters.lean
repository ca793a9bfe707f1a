import Hooklog.Formatter.Line

/-!
# Remembered painters

A formatter remembers the control sequence of a field at a level from the first time that it
is asked for.  This module says which fields a rendering asks for, up to the fault that stops
it if there is one.  What is remembered is kept by field and not by placeholder; `Painters`
says where that makes a difference.
-/

namespace Hooklog

open Template

/-- Fields painted by a rendering, and whether it came to its end. -/
structure Trail where
  fields : List FieldSpec
  ended : Bool
  deriving DecidableEq

namespace Trail

/-- Nothing was painted. -/
def empty : Trail := ⟨[], true⟩

/-- One trail after another, unless the first was cut short. -/
def andThen (a b : Trail) : Trail :=
  if a.ended then ⟨a.fields ++ b.fields, b.ended⟩ else a

/-- Trails one after the other. -/
def sequence (trails : List Trail) : Trail := trails.foldr andThen empty

end Trail

namespace Line

/-- Trail of a dressed value: a field is painted once it has its size. -/
def dressedTrail (v : View) (spec : FieldSpec) (value : String) : Trail :=
  match sized spec (prepared v spec value) with
  | .ok _ => ⟨[spec], true⟩
  | .error _ => ⟨[], false⟩

/-- Trail of a value in a style. -/
def styledTrail (v : View) (style : FieldSpec) (value : String) : Trail :=
  if isSkipped style value then .empty else dressedTrail v style value

/-- Trail of a key and a value in the styles of a template. -/
def styledPairTrail (v : View) (c : Compiled) (key value : String) : Trail :=
  (styledTrail v c.keyStyle (key ++ "=")).andThen (styledTrail v c.valueStyle value)

/-- Trail of what is attached to a dressed value. -/
def attachedTrail (v : View) (c : Compiled) (spec : FieldSpec) (key value : String)
    (printKey : Bool) : Trail :=
  if spec.plainKey then .empty
  else if printKey then styledPairTrail v c key value
  else styledTrail v c.valueStyle value

/-- Trail of a field with a value. -/
def fieldTrail (v : View) (l : Level) (c : Compiled) (spec : FieldSpec) (key value : String)
    (printKey : Bool) : Trail :=
  if isSkipped spec value then .empty
  else
    match dressed v l spec value with
    | .ok s => (dressedTrail v spec value).andThen (attachedTrail v c spec key s printKey)
    | .error _ => dressedTrail v spec value

/-- Trail of a field other than the remaining ones. -/
def valueTrail (v : View) (e : Entry) (c : Compiled) (spec : FieldSpec) : Trail :=
  match valueOf v e spec with
  | .ok value => fieldTrail v e.level c spec spec.token.key value.1 (spec.printKey && value.2)
  | .error _ => ⟨[], false⟩

/-- Trail of one of the remaining fields. -/
def remainingTrail (v : View) (c : Compiled) (spec : FieldSpec) (p : String × FieldValue) :
    Trail :=
  if spec.plainKey then .empty else styledPairTrail v c p.1 p.2.toText

/-- Trail of a field that shows the remaining fields. -/
def remainingFieldTrail (v : View) (e : Entry) (c : Compiled) (spec : FieldSpec) : Trail :=
  let listed := Trail.sequence ((remaining c e spec).map (remainingTrail v c spec))
  match allOk (remainingText v e.level c spec) (remaining c e spec) with
  | .error _ => listed
  | .ok parts =>
      let list := Text.joinWith " " parts
      listed.andThen (fieldTrail v e.level c spec Token.fields.key list
        (spec.printKey && (!spec.ignoreEmpty || !list.isEmpty)))

/-- Trail of the line of an entry: the lists of remaining fields come last. -/
def trail (v : View) (e : Entry) (c : Compiled) : Trail :=
  let own := c.fields.filter fun spec => spec.token ≠ .fields
  let lists := c.fields.filter fun spec => spec.token = .fields
  Trail.sequence (own.map (valueTrail v e c) ++ lists.map (remainingFieldTrail v e c))

end Line

/-- Control sequences remembered by field and level.  Two placeholders that agree in everything,
their offset in the literal text included, are one field and share what is remembered.  Kept
apart they could come to differ: if a rendering stops between the two, and the palette changes
before the next one while the compiled template is kept. -/
abbrev Painters := List ((FieldSpec × Level) × Option String)

namespace Painters

/-- Control sequence of a field at a level: the remembered one, or that of a palette. -/
def painter (p : Painters) (color : Bool) (palette : SortedMap Level (List Sgr.Attribute))
    (spec : FieldSpec) (l : Level) : Option String :=
  (p.lookup (spec, l)).getD (painterOf color palette spec l)

/-- Remember the control sequence of a field at a level unless one is remembered. -/
def remember (p : Painters) (color : Bool) (palette : SortedMap Level (List Sgr.Attribute))
    (l : Level) (spec : FieldSpec) : Painters :=
  match p.lookup (spec, l) with
  | some _ => p
  | none => ((spec, l), painterOf color palette spec l) :: p

/-- Remember the control sequences of several fields at a level. -/
def rememberAll (p : Painters) (color : Bool)
    (palette : SortedMap Level (List Sgr.Attribute)) (l : Level) (specs : List FieldSpec) :
    Painters :=
  specs.foldl (fun p spec => p.remember color palette l spec) p

end Painters

end Hooklog
