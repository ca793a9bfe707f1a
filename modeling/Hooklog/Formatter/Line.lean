import Hooklog.Formatter.Options
import Hooklog.Settings
import Hooklog.Sgr.Strip
import Hooklog.Template.Compiled

/-!
# Rendered lines

The line of an entry under a compiled template.  Each field is computed from the entry and
dressed: control sequences are removed unless colors are on, then letter case, limit,
width, brackets and space are applied, and the result is painted.  The fields are spliced
into the skeleton at their positions.
-/

namespace Hooklog

open Template

/-- What a rendering depends on besides template and entry. -/
structure View where
  color : Bool
  options : RenderOptions
  settings : Settings
  /-- Origin of the delay. -/
  baseTime : Instant
  /-- Origin of the delta: the time of the entry rendered before. -/
  last : Instant
  /-- Control sequence in front of a field, by field and level. -/
  painter : FieldSpec → Level → Option String

/-- Control sequence in front of a field at a level, if it is painted at all. -/
def painterOf (color : Bool) (palette : SortedMap Level (List Sgr.Attribute)) (spec : FieldSpec)
    (l : Level) : Option String :=
  let colors := if spec.levelColor then (palette.get? l).getD [] else []
  let attributes := if color then spec.attributes ++ colors else []
  if attributes = [] then none else some (Sgr.opening attributes)

/-- Brackets around a text. -/
def Template.Bracket.wrap : Bracket → List Char → List Char
  | .none, s => s
  | .square, s => '[' :: s ++ [']']
  | .curly, s => '{' :: s ++ ['}']
  | .round, s => '(' :: s ++ [')']
  | .angle, s => '<' :: s ++ ['>']

/-- Text in another letter case. -/
def Template.Transform.apply : Transform → List Char → List Char
  | .none, s => s
  | .upper, s => Text.upper s
  | .lower, s => Text.lower s
  | .title, s => Text.title s

/-- Largest width that a text can be filled up to. -/
def maxWidth : Nat := 65535

/-- Text filled up with spaces: on the left, or on the right for a negative width. -/
def fillWidth (width : Int) (s : List Char) : Except Fault (List Char) :=
  if maxWidth < width.natAbs then .error .oversizedWidth
  else
    let blanks := List.replicate (width.natAbs - s.length) ' '
    .ok (if width < 0 then s ++ blanks else blanks ++ s)

namespace Line

/-- Text cut to the limit and filled up to the width of a field. -/
def sized (spec : FieldSpec) (s : List Char) : Except Fault (List Char) :=
  let s := match spec.limit with
    | some n => s.take n
    | none => s
  match spec.width with
  | some w => fillWidth w s
  | none => .ok s

/-- Text between the brackets of a field, with its space. -/
def framed (spec : FieldSpec) (s : List Char) : List Char :=
  spec.bracket.wrap s ++ (if spec.addSpace then [' '] else [])

/-- Value of a field as it is sized: without control sequences unless colors are on, and in
the letter case of the field. -/
def prepared (v : View) (spec : FieldSpec) (value : String) : List Char :=
  spec.transform.apply (if v.color then value.toList else Sgr.strip value.toList)

/-- Painted text. -/
def painted (v : View) (l : Level) (spec : FieldSpec) (s : List Char) : String :=
  match v.painter spec l with
  | some opening => opening ++ String.ofList s ++ Sgr.closing
  | none => String.ofList s

/-- Dressed value of a field. -/
def dressed (v : View) (l : Level) (spec : FieldSpec) (value : String) : Except Fault String :=
  match sized spec (prepared v spec value) with
  | .ok s => .ok (painted v l spec (framed spec s))
  | .error f => .error f

/-- Whether a value is left out. -/
def isSkipped (spec : FieldSpec) (value : String) : Bool :=
  spec.ignoreEmpty && Text.isBlankString value

/-- Value in a style. -/
def styled (v : View) (l : Level) (style : FieldSpec) (value : String) : Except Fault String :=
  if isSkipped style value then .ok "" else dressed v l style value

/-- Key and value in the styles of the template. -/
def styledPair (v : View) (l : Level) (c : Compiled) (key value : String) :
    Except Fault String :=
  match styled v l c.keyStyle (key ++ "=") with
  | .error f => .error f
  | .ok k =>
      match styled v l c.valueStyle value with
      | .error f => .error f
      | .ok w => .ok (k ++ w)

/-- Dressed value with its key, or in the style of values. -/
def attached (v : View) (l : Level) (c : Compiled) (spec : FieldSpec) (key value : String)
    (printKey : Bool) : Except Fault String :=
  if printKey then
    if spec.plainKey then .ok (key ++ "=" ++ value) else styledPair v l c key value
  else if spec.plainKey then .ok value else styled v l c.valueStyle value

/-- Text of a field with a value. -/
def fieldText (v : View) (l : Level) (c : Compiled) (spec : FieldSpec) (key value : String)
    (printKey : Bool) : Except Fault String :=
  if isSkipped spec value then .ok ""
  else
    match dressed v l spec value with
    | .ok s => attached v l c spec key s printKey
    | .error f => .error f

/-- Precision in force: that of the formatter, else that of the process; a millisecond if it
is beyond the range of durations. -/
def precision (v : View) : Int :=
  let span := match v.options.precision with
    | some p => if p = 0 then v.settings.precision.value else p
    | none => v.settings.precision.value
  if span ≤ (Nat.pow 2 63 - 1) * 1000000 then span else Duration.millisecond

/-- Text of a duration. -/
def durationText (v : View) (d : Int) : String :=
  match v.options.durationText with
  | some f => f d
  | none => v.settings.durationFormat.value.format d

/-- Text of the time between two instants; one that rounds to nothing is written as less
than the precision. -/
def elapsed (v : View) (t origin : Instant) : String :=
  let d := Duration.roundTo (t.since origin) (precision v)
  if d = 0 then "<" ++ durationText v (precision v) else durationText v d

/-- Zone of times. -/
def zone (v : View) : Zone :=
  match v.options.zone with
  | some z => .east z
  | none => Zone.ofOption v.settings.displayZone

/-- Text of a caller. -/
def callerText (v : View) (c : Caller) : String :=
  match v.options.callerText with
  | some f => f c
  | none => c.text

/-- Value of a named field, absent when there is nothing to show. -/
def lookup (e : Entry) (spec : FieldSpec) (name : String) : Option String :=
  match e.fields.get? name with
  | none => none
  | some .null => if spec.ignoreEmpty then none else some FieldValue.null.toText
  | some (.text s) => if s.isEmpty then none else some s
  | some value => some value.toText

/-- Value of a token other than the list of remaining fields, and whether its key may be
written.  Only a time can fail to have one. -/
def valueOf (v : View) (e : Entry) (spec : FieldSpec) : Except Fault (String × Bool) :=
  match spec.token with
  | .field name =>
      match lookup e spec name with
      | some s => .ok (s, true)
      | none => .ok ("", false)
  | .message => .ok (e.message, true)
  | .level => .ok ((v.options.levelNames.get? e.level).getD e.level.text, true)
  | .time => (v.options.timeLayout.format e.time (zone v)).map fun s => (s, true)
  | .delta => .ok (elapsed v e.time v.last, true)
  | .delay => .ok (elapsed v e.time v.baseTime, true)
  | .globalDelay => .ok (elapsed v e.time v.settings.globalTime.value, true)
  | .moduleName => .ok (e.moduleName, true)
  | .function => .ok ((e.caller.map (·.function)).getD "", true)
  | .file => .ok ((e.caller.map (·.file)).getD "", true)
  | .line => .ok ((e.caller.map fun c => Decimal.naturalText c.line).getD "", true)
  | .caller => .ok ((e.caller.map (callerText v)).getD "", true)
  | _ => .ok ("", true)

/-- Names looked up by the fields of a template. -/
def namesUsed (c : Compiled) : List String :=
  c.fields.filterMap fun spec => match spec.token with
    | .field name => some name
    | _ => none

/-- Fields listed by a field that shows the remaining ones. -/
def remaining (c : Compiled) (e : Entry) (spec : FieldSpec) : List (String × FieldValue) :=
  e.fields.toList.filter fun p =>
    !(namesUsed c).contains p.1 && !(spec.ignoreEmpty && p.2.isNull)

/-- One of the remaining fields. -/
def remainingText (v : View) (l : Level) (c : Compiled) (spec : FieldSpec)
    (p : String × FieldValue) : Except Fault String :=
  if spec.plainKey then .ok (Fields.pairText p) else styledPair v l c p.1 p.2.toText

/-- Texts that all succeed, in order. -/
def allOk {α : Type} (f : α → Except Fault String) : List α → Except Fault (List String)
  | [] => .ok []
  | a :: rest =>
      match f a with
      | .error e => .error e
      | .ok s =>
          match allOk f rest with
          | .error e => .error e
          | .ok ss => .ok (s :: ss)

/-- Text of a field that shows the remaining fields. -/
def remainingFieldText (v : View) (e : Entry) (c : Compiled) (spec : FieldSpec) :
    Except Fault String :=
  match allOk (remainingText v e.level c spec) (remaining c e spec) with
  | .error f => .error f
  | .ok parts =>
      let list := Text.joinWith " " parts
      fieldText v e.level c spec Token.fields.key list
        (spec.printKey && (!spec.ignoreEmpty || !list.isEmpty))

/-- Text of a field of a template, nothing for a list of remaining fields. -/
def ownText (v : View) (e : Entry) (c : Compiled) (spec : FieldSpec) : Except Fault String :=
  if spec.token = .fields then .ok ""
  else
    match valueOf v e spec with
    | .error f => .error f
    | .ok value => fieldText v e.level c spec spec.token.key value.1 (spec.printKey && value.2)

/-- Text of a list of remaining fields, nothing for another field. -/
def listText (v : View) (e : Entry) (c : Compiled) (spec : FieldSpec) : Except Fault String :=
  if spec.token = .fields then remainingFieldText v e c spec else .ok ""

/-- Texts of the fields of a template.  The lists of remaining fields are made last, so that
a fault of another field comes before theirs. -/
def texts (v : View) (e : Entry) (c : Compiled) : Except Fault (List String) :=
  match allOk (ownText v e c) c.fields with
  | .error f => .error f
  | .ok own =>
      match allOk (listText v e c) c.fields with
      | .error f => .error f
      | .ok lists => .ok (own.zipWith (· ++ ·) lists)

/-- Leading characters of a text that take some bytes, and the rest. -/
def splitAtByte : Nat → List Char → List Char × List Char
  | _, [] => ([], [])
  | n, c :: rest =>
      if c.utf8Size ≤ n then
        let p := splitAtByte (n - c.utf8Size) rest
        (c :: p.1, p.2)
      else ([], c :: rest)

/-- Texts spliced into the rest of a skeleton, of which some bytes have been written. -/
def splice (written : Nat) (rest : List Char) : List (Nat × String) → List Char
  | [] => rest
  | (position, s) :: more =>
      let p := splitAtByte (position - written) rest
      p.1 ++ s.toList ++ splice position p.2 more

/-- Line of an entry. -/
def render (v : View) (e : Entry) (c : Compiled) : Except Fault String :=
  match texts v e c with
  | .error f => .error f
  | .ok texts =>
      .ok (String.ofList
        (splice 0 c.skeleton ((c.fields.map (·.position)).zip texts) ++ ['\n']))

end Line

end Hooklog
