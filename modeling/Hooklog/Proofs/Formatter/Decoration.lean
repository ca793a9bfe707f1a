import Hooklog.Formatter.Text
import Hooklog.Proofs.Formatter.ColorModes
import Hooklog.Proofs.Formatter.Coloring
import Hooklog.Proofs.Formatter.Interpretation
import Hooklog.Proofs.Template.Names

/-!
# Colors only decorate

A template is compiled twice, with its colors and without.  The two compiled templates differ
in the colors of their fields, in the control sequences within their skeletons, and so in
positions.  Rendering keeps them apart by control sequences alone, which are removed from the
line in colors to get the other one.
-/

namespace Hooklog

open Text Sgr Template

/-- A part of a template that is a plain character, or a placeholder that leaves letter case
and size of its text alone if it is a style or a list of fields. -/
def Template.Segment.Decorates : Segment → Prop
  | .literal c => IsPlain c
  | .placeholder p =>
      (p.token.isStyle = true → (p.spec false).Bare) ∧
        (p.token = .fields → (p.spec false).KeepsText)

instance : (seg : Segment) → Decidable seg.Decorates
  | .literal c => inferInstanceAs (Decidable (IsPlain c))
  | .placeholder p => inferInstanceAs (Decidable
      ((p.token.isStyle = true → (p.spec false).Bare) ∧
        (p.token = .fields → (p.spec false).KeepsText)))

/-- A template all of whose parts can be compared with and without colors. -/
def Template.OnlyDecorates (format : String) : Prop :=
  ∀ seg ∈ segments format.toList, seg.Decorates

instance (format : String) : Decidable (OnlyDecorates format) :=
  inferInstanceAs (Decidable (∀ seg ∈ segments format.toList, seg.Decorates))

namespace Line

/-- A template has bare styles, its own or those without a placeholder. -/
theorem bare_lastSpec {format : String} (h : OnlyDecorates format) {style : FieldSpec}
    (hstyle : style.Bare) {t : Token} (ht : t.isStyle = true) :
    (lastSpec style false (placeholdersOf t (segments format.toList))).Bare := by
  refine lastSpec_induction hstyle fun p hp => ?_
  obtain ⟨hmem, htoken⟩ := mem_placeholdersOf_iff.mp hp
  exact (h _ hmem).1 (htoken ▸ ht)

theorem recolored_ofItems {format : String} (h : OnlyDecorates format) :
    Recolored (.ofItems (items format false)) (.ofItems (items format true)) := by
  have hmodes := sameUpToColors_ofItems format
  refine ⟨⟨hmodes.keyStyle, hmodes.valueStyle, ?_, ?_⟩, hmodes.fields, fun spec hspec => ?_,
    fun spec hspec hfields => ?_⟩
  · rw [Compiled.ofItems, items, styleAfter_eq Token.isStyle_keyStyle]
    exact bare_lastSpec h ⟨⟨rfl, rfl, rfl⟩, rfl⟩ rfl
  · rw [Compiled.ofItems, items, styleAfter_eq Token.isStyle_valueStyle]
    exact bare_lastSpec h ⟨⟨rfl, rfl, rfl⟩, rfl⟩ rfl
  · obtain ⟨p, _, hp, rfl⟩ := exists_placeholder_of_mem_fieldsFrom hspec
    show Plain (p.spec false).token.key
    rw [p.spec_token]
    exact (named_of_mem_segments hp).plain_key
  · obtain ⟨p, _, hp, rfl⟩ := exists_placeholder_of_mem_fieldsFrom hspec
    have hkeeps := (h _ hp).2 ((p.spec_token false).symm.trans hfields)
    exact ⟨hkeeps.transform, hkeeps.width, hkeeps.limit⟩

/-! ## The two lines -/

/-- The colors of a placeholder without a name are a control sequence, or nothing. -/
theorem painted_switchText (p : Placeholder) :
    Painted (p.switchText false) (p.switchText true) := by
  show Painted [] (p.switchText true)
  unfold Placeholder.switchText
  split
  · rename_i hcolors
    rw [← List.append_nil (Sgr.opening p.colors).toList]
    exact .sequence hcolors.2 .nil
  · exact .nil

/-- Texts that agree are spliced into skeletons that agree. -/
theorem painted_spliced {segs : List Segment} (h : ∀ seg ∈ segs, seg.Decorates) {m n : Nat}
    {ss ts : List String} (hst : List.Forall₂ PaintedString ss ts)
    (hlength : (fieldsFrom m (segs.map (Segment.item false))).length = ss.length) :
    Painted (spliced m (segs.map (Segment.item false)) ss)
      (spliced n (segs.map (Segment.item true)) ts) := by
  induction segs generalizing m n ss ts with
  | nil => exact .nil
  | cons seg rest ih =>
      obtain ⟨hseg, hrest⟩ := List.forall_mem_cons.mp h
      rw [List.map_cons] at hlength
      rw [List.map_cons, List.map_cons]
      cases seg with
      | literal ch =>
          rw [Segment.item, Segment.item, spliced_text, spliced_text]
          exact .char hseg (ih hrest hst hlength)
      | placeholder p =>
          rcases p.token.kind with hvalue | hunset | hstyle
          · rw [item_of_value hvalue, fieldsFrom, List.length_cons] at hlength
            rw [item_of_value hvalue, item_of_value hvalue]
            -- there is a text for this field, since there are as many as fields
            cases hst with
            | nil => exact absurd hlength (Nat.succ_ne_zero _)
            | cons hfirst hmore =>
                rw [spliced_field, spliced_field]
                exact Painted.append hfirst (ih hrest hmore (Nat.succ.inj hlength))
          · rw [item_of_unset hunset] at hlength
            rw [item_of_unset hunset, item_of_unset hunset, spliced_text, spliced_text]
            exact (painted_switchText p).append (ih hrest hst hlength)
          · rw [fieldsFrom_style hstyle] at hlength
            rw [spliced_style hstyle, spliced_style hstyle]
            exact ih hrest hst hlength

/-- Both lines agree, or both renderings stop at the same fault. -/
theorem render_agree {v : View} {e : Entry} {format : String} (hv : v.Colored)
    (hformat : OnlyDecorates format) (h : PlainInput v.uncolored e) :
    Agree PaintedString (render v.uncolored e (.ofItems (items format false)))
      (render v e (.ofItems (items format true))) := by
  have htexts := texts_agree hv h (recolored_ofItems hformat)
  unfold render
  rcases htexts.fault_or_text with ⟨fault, hplain, hcolored⟩ | ⟨ss, ts, hst, hplain, hcolored⟩
  · rw [hplain, hcolored]
    exact .fault fault
  · rw [hplain, hcolored]
    have hlength := (texts_eq_ok_iff.mp hplain).length_eq
    have hline := painted_spliced (n := 0) hformat hst hlength
    exact .text (.ofList (hline.append (.char (by decide) .nil)))

end Line

namespace TextFormatter

/-- What a rendering of a formatter depends on, colors apart. -/
def bareView (f : TextFormatter) (s : Settings) : View where
  color := false
  options := f.options
  settings := s
  baseTime := f.baseTime
  last := f.last
  painter := fun _ _ => none

/-- View of a formatter in colors that remembers no painter. -/
def colorView (f : TextFormatter) (s : Settings) : View :=
  { f.bareView s with color := true, painter := painterOf true f.options.palette }

theorem colored_colorView (f : TextFormatter) (s : Settings) : (f.colorView s).Colored where
  color := rfl
  painter spec l opening h := by
    change painterOf true f.options.palette spec l = some opening at h
    unfold painterOf at h
    dsimp only at h
    rw [if_pos (rfl : true = true)] at h
    by_cases hnone : spec.attributes ++
        (if spec.levelColor = true then (f.options.palette.get? l).getD [] else []) = []
    · rw [if_pos hnone] at h
      exact absurd h.symm (Option.some_ne_none opening)
    · rw [if_neg hnone] at h
      exact ⟨_, hnone, (Option.some.inj h).symm⟩

/-- Without colors nothing is painted, whatever the palette. -/
theorem painterOf_false (palette : SortedMap Level (List Sgr.Attribute)) :
    painterOf false palette = fun _ _ => none := by
  funext spec l
  unfold painterOf
  dsimp only
  rw [if_neg Bool.false_ne_true, if_pos rfl]

/-- View of a formatter in a color mode that has just been set. -/
def freshView (f : TextFormatter) (s : Settings) (color : Bool) : View :=
  if color then f.colorView s else f.bareView s

theorem view_setColor (f : TextFormatter) (color : Bool) (s : Settings) (serial : Nat)
    (c : Compiled) : (f.setColor color).view s ⟨serial, c, []⟩ = f.freshView s color := by
  cases color with
  | false =>
      show { f.bareView s with painter := painterOf false f.options.palette } = f.bareView s
      rw [painterOf_false]
      rfl
  | true => rfl

/-- A formatter whose color mode has just been set compiles its template in that mode. -/
theorem compile_setColor {f : TextFormatter} {color : Bool} {c : Compiled}
    (hc : Template.compile f.format color = .ok c) :
    (f.setColor color).compile =
      (.ok ⟨f.compilations, c, []⟩,
        { f.setColor color with
          kept := some ⟨f.compilations, c, []⟩
          compilations := f.compilations + 1 }) := by
  unfold TextFormatter.compile
  dsimp only [setColor]
  rw [hc]

/-- The line of a formatter whose color mode has just been set is rendered in that mode, and
no painter is remembered. -/
theorem write_setColor {f : TextFormatter} {color : Bool} {c : Compiled}
    (hc : Template.compile f.format color = .ok c) (s : Settings) (e : Entry) :
    ((f.setColor color).write s e).1 =
      match Line.render (f.freshView s color) e c with
      | .error fault => .error (.stopped fault)
      | .ok line => .ok line := by
  rw [← view_setColor f color s f.compilations c, write, compile_setColor hc]
  dsimp only
  split
  · rename_i fault hfault
    change Line.render ((f.setColor color).view s ⟨f.compilations, c, []⟩) e c = _ at hfault
    rw [hfault]
  · rename_i line hline
    change Line.render ((f.setColor color).view s ⟨f.compilations, c, []⟩) e c = _ at hline
    rw [hline]

/-- A template that is refused is refused in both color modes. -/
theorem write_setColor_of_faults {f : TextFormatter} (hfaults : faults f.format ≠ [])
    (color : Bool) (s : Settings) (e : Entry) :
    ((f.setColor color).write s e).1 =
      .error (.failed (.template (faults f.format))) := by
  have hrefused : Template.compile f.format color = .error (.template (faults f.format)) :=
    if_neg hfaults
  unfold write TextFormatter.compile
  dsimp only [setColor]
  rw [hrefused]

/-- Colors only decorate: removing control sequences from the line in colors gives the line
without colors, from the same format, options and clock.  Where one of the lines cannot be
made, neither can the other, for the same reason. -/
theorem stripString_write (f : TextFormatter) (s : Settings) (e : Entry)
    (hformat : OnlyDecorates f.format)
    (hinput : Line.PlainInput (f.bareView s) e) :
    ((f.setColor true).write s e).1.map stripString = ((f.setColor false).write s e).1 := by
  by_cases hfaults : faults f.format = []
  · have hcompiled : ∀ color, Template.compile f.format color =
        .ok (.ofItems (items f.format color)) :=
      fun color => compile_eq_ok_iff.mpr ⟨hfaults, rfl⟩
    rw [write_setColor (hcompiled true), write_setColor (hcompiled false)]
    have hagree : Line.Agree PaintedString
        (Line.render (f.freshView s false) e (.ofItems (items f.format false)))
        (Line.render (f.freshView s true) e (.ofItems (items f.format true))) :=
      Line.render_agree (f.colored_colorView s) hformat hinput
    rcases hagree.fault_or_text with ⟨fault, hplain, hcolor⟩ | ⟨ss, ts, hst, hplain, hcolor⟩
    · rw [hplain, hcolor]
      rfl
    · rw [hplain, hcolor]
      show Except.ok (stripString ts) = .ok ss
      rw [hst.stripString_eq]
  · rw [write_setColor_of_faults hfaults, write_setColor_of_faults hfaults]
    rfl

/-- What the entry with one field is made of is of every kind that holds the plain characters. -/
theorem inputOf_plainEntry {P : Char → Prop} (hP : ∀ c, IsPlain c → P c) {v : View}
    (hoptions : v.options = .standard) : Line.InputOf P v Line.plainEntry where
  message := madeOf_of_plain hP (by decide)
  moduleName := madeOf_of_plain hP (by decide)
  fieldKey := by
    intro p hp
    obtain rfl := List.mem_singleton.mp hp
    exact madeOf_of_plain hP (by decide)
  fieldText := by
    intro p hp s hs
    obtain rfl := List.mem_singleton.mp hp
    obtain rfl := FieldValue.text.inj hs
    exact madeOf_of_plain hP (by decide)
  caller c hc := absurd hc.symm (Option.some_ne_none c)
  levelName name hname := by
    rw [hoptions] at hname
    exact absurd hname.symm (Option.some_ne_none name)
  timeLayout := by
    rw [hoptions]
    trivial
  nanos := by decide
  durationText write hwrite := by
    rw [hoptions] at hwrite
    exact absurd hwrite.symm (Option.some_ne_none write)
  callerText write hwrite := by
    rw [hoptions] at hwrite
    exact absurd hwrite.symm (Option.some_ne_none write)

/-- Formatter of a template that paints keys, values and lists one within the other. -/
def nestedColors : TextFormatter :=
  .new false ["%level:color,key,square%%key:red%%field:blue,curly%%:bold%| %-3message:upper% " ++
    "%fields:key%"] ⟨0, 0⟩

/-- Line of that formatter without colors. -/
def nestedLine : String :=
  "Level=\x7b[info]\x7d| \x7bM  \x7d Fields=\x7bk=\x7bv\x7d\x7d\n"

/-- Nested paint is removed without a trace. -/
theorem stripString_write_nested :
    OnlyDecorates nestedColors.format ∧
      Line.PlainInput (nestedColors.bareView Line.plainView.settings) Line.plainEntry ∧
      ∃ colored, colored ≠ nestedLine ∧ stripString colored = nestedLine ∧
        ((nestedColors.setColor true).write Line.plainView.settings Line.plainEntry).1 =
          .ok colored := by
  have hformat : OnlyDecorates nestedColors.format := by decide +kernel
  have hinput : Line.PlainInput (nestedColors.bareView Line.plainView.settings)
      Line.plainEntry := inputOf_plainEntry (fun _ h => h) rfl
  have hplain : ((nestedColors.setColor false).write Line.plainView.settings
      Line.plainEntry).1 = .ok nestedLine :=
    Line.eq_ok_of_toOption (by decide +kernel)
  have hpainted : ((nestedColors.setColor true).write Line.plainView.settings
      Line.plainEntry).1.toOption ≠ some nestedLine := by
    decide +kernel
  have hstrip := stripString_write nestedColors Line.plainView.settings Line.plainEntry hformat
    hinput
  rw [hplain] at hstrip
  refine ⟨hformat, hinput, ?_⟩
  cases hcolored : ((nestedColors.setColor true).write Line.plainView.settings
      Line.plainEntry).1 with
  | error stop =>
      rw [hcolored] at hstrip
      exact absurd hstrip (by simp [Except.map])
  | ok colored =>
      rw [hcolored] at hstrip hpainted
      exact ⟨colored, fun h => hpainted (congrArg some h), Except.ok.inj hstrip, rfl⟩

end TextFormatter

end Hooklog
