import Hooklog.Proofs.Sgr.Painted
import Hooklog.Proofs.Sgr.PlainCase
import Hooklog.Proofs.Template.Items
import Mathlib.Data.List.Forall2

/-!
# Dressing with and without colors

Two renderings of the same field, one in colors and one without, are compared step by step.
Either both stop at the same fault, or the colored text is the other one with control
sequences between its characters.  Each step of the dressing keeps this relation.  Letter
case, limit and width are applied before a value is painted; a style, which is applied to
text that is painted already, must leave them alone.
-/

namespace Hooklog

open Sgr Template

/-- A string with control sequences of attributes between the characters of a plain one. -/
def Sgr.PaintedString (s t : String) : Prop := Painted s.toList t.toList

namespace Sgr.PaintedString

theorem of_plain {s : String} (h : Plain s) : PaintedString s s := Painted.of_plainText h

theorem ofList {s t : List Char} (h : Painted s t) :
    PaintedString (String.ofList s) (String.ofList t) := by
  unfold PaintedString
  rw [String.toList_ofList, String.toList_ofList]
  exact h

theorem append {s t s' t' : String} (h : PaintedString s t) (h' : PaintedString s' t') :
    PaintedString (s ++ s') (t ++ t') := by
  unfold PaintedString
  rw [String.toList_append, String.toList_append]
  exact Painted.append h h'

theorem plain {s t : String} (h : PaintedString s t) : Plain s := Painted.plainText h

/-- Removing control sequences gives the plain string back. -/
theorem stripString_eq {s t : String} (h : PaintedString s t) : stripString t = s := by
  rw [stripString, Painted.strip_eq h, String.ofList_toList]

theorem joinWith {sep : String} (hsep : Plain sep) {ss ts : List String}
    (h : List.Forall₂ PaintedString ss ts) :
    PaintedString (Text.joinWith sep ss) (Text.joinWith sep ts) := by
  induction h with
  | nil => exact of_plain plainText_nil
  | cons hfirst hrest ih =>
      cases hrest with
      | nil => exact hfirst
      | cons hsecond hmore => exact (hfirst.append (of_plain hsep)).append ih

end Sgr.PaintedString

/-! ## Fields that differ in color -/

/-- Two fields that differ in colors and place at most. -/
def Template.FieldSpec.SameShape (a b : FieldSpec) : Prop :=
  ∃ (attributes : List Sgr.Attribute) (position : Nat),
    b = { a with attributes := attributes, position := position }

/-- A field that leaves letter case and size of its text alone. -/
structure Template.FieldSpec.KeepsText (spec : FieldSpec) : Prop where
  transform : spec.transform = .none
  width : spec.width = none
  limit : spec.limit = none

instance (spec : FieldSpec) : Decidable spec.KeepsText :=
  decidable_of_iff (spec.transform = .none ∧ spec.width = none ∧ spec.limit = none)
    ⟨fun h => ⟨h.1, h.2.1, h.2.2⟩, fun h => ⟨h.transform, h.width, h.limit⟩⟩

/-- A style that leaves letter case and size of its text alone and leaves nothing out. -/
structure Template.FieldSpec.Bare (spec : FieldSpec) : Prop extends spec.KeepsText where
  ignoreEmpty : spec.ignoreEmpty = false

instance (spec : FieldSpec) : Decidable spec.Bare :=
  decidable_of_iff (spec.KeepsText ∧ spec.ignoreEmpty = false)
    ⟨fun h => ⟨h.1, h.2⟩, fun h => ⟨h.toKeepsText, h.ignoreEmpty⟩⟩

namespace Template.FieldSpec.SameShape

variable {a b : FieldSpec} (h : a.SameShape b)

include h

theorem token_eq : b.token = a.token := by
  obtain ⟨_, _, rfl⟩ := h
  rfl

theorem transform_eq : b.transform = a.transform := by
  obtain ⟨_, _, rfl⟩ := h
  rfl

theorem ignoreEmpty_eq : b.ignoreEmpty = a.ignoreEmpty := by
  obtain ⟨_, _, rfl⟩ := h
  rfl

theorem printKey_eq : b.printKey = a.printKey := by
  obtain ⟨_, _, rfl⟩ := h
  rfl

theorem plainKey_eq : b.plainKey = a.plainKey := by
  obtain ⟨_, _, rfl⟩ := h
  rfl

theorem sized_eq (s : List Char) : Line.sized b s = Line.sized a s := by
  obtain ⟨_, _, rfl⟩ := h
  rfl

theorem keepsText (ha : a.KeepsText) : b.KeepsText := by
  obtain ⟨_, _, rfl⟩ := h
  exact ⟨ha.transform, ha.width, ha.limit⟩

theorem bare (ha : a.Bare) : b.Bare :=
  ⟨h.keepsText ha.toKeepsText, h.ignoreEmpty_eq.trans ha.ignoreEmpty⟩

end Template.FieldSpec.SameShape

/-- A view in colors: its painters write control sequences of attributes. -/
structure View.Colored (v : View) : Prop where
  color : v.color = true
  painter : ∀ spec l opening, v.painter spec l = some opening →
    ∃ attributes : List Sgr.Attribute, attributes ≠ [] ∧ opening = Sgr.opening attributes

/-- The same view without colors. -/
def View.uncolored (v : View) : View := { v with color := false, painter := fun _ _ => none }

/-- Two outcomes that are the same fault, or related texts. -/
inductive Line.Agree {α : Type} (R : α → α → Prop) : Except Fault α → Except Fault α → Prop where
  | fault (f : Fault) : Agree R (.error f) (.error f)
  | text {s t : α} : R s t → Agree R (.ok s) (.ok t)

namespace Line

theorem Agree.fault_or_text {α : Type} {R : α → α → Prop} {x y : Except Fault α}
    (h : Agree R x y) :
    (∃ f, x = .error f ∧ y = .error f) ∨ ∃ s t, R s t ∧ x = .ok s ∧ y = .ok t := by
  cases h with
  | fault f => exact Or.inl ⟨f, rfl, rfl⟩
  | text hst => exact Or.inr ⟨_, _, hst, rfl, rfl⟩

section Dressing

variable {v : View} {l : Level} {a b : FieldSpec}

/-! ## One step after the other -/

/-- Paint is put around a text and nowhere else. -/
theorem painted_agree (hv : v.Colored) {s t : List Char} (h : Painted s t) :
    PaintedString (String.ofList s) (painted v l b t) := by
  unfold painted
  split
  · rename_i opening hopening
    obtain ⟨attributes, hne, rfl⟩ := hv.painter b l opening hopening
    unfold PaintedString
    rw [String.toList_append, String.toList_append, String.toList_ofList, String.toList_ofList]
    exact h.paint hne
  · exact .ofList h

/-- Brackets and space are the same plain text around every text. -/
theorem exists_frame (spec : FieldSpec) : ∃ left right, PlainText left ∧ PlainText right ∧
    ∀ s, framed spec s = left ++ (s ++ right) := by
  obtain ⟨left, right, hleft, hright, hwrap⟩ : ∃ left right, PlainText left ∧ PlainText right ∧
      ∀ s, spec.bracket.wrap s = left ++ (s ++ right) := by
    cases spec.bracket with
    | none => exact ⟨[], [], by decide, by decide, fun s => (List.append_nil s).symm⟩
    | square => exact ⟨['['], [']'], by decide, by decide, fun _ => rfl⟩
    | curly => exact ⟨['{'], ['}'], by decide, by decide, fun _ => rfl⟩
    | round => exact ⟨['('], [')'], by decide, by decide, fun _ => rfl⟩
    | angle => exact ⟨['<'], ['>'], by decide, by decide, fun _ => rfl⟩
  have hspace : PlainText (if spec.addSpace then [' '] else []) := by split <;> decide
  refine ⟨left, right ++ (if spec.addSpace then [' '] else []), hleft,
    plainText_append.mpr ⟨hright, hspace⟩, fun s => ?_⟩
  rw [framed, hwrap, List.append_assoc, List.append_assoc]

theorem framed_agree (h : a.SameShape b) {s t : List Char} (hst : Painted s t) :
    Painted (framed a s) (framed b t) := by
  obtain ⟨_, _, rfl⟩ := h
  obtain ⟨left, right, hleft, hright, hframed⟩ := exists_frame a
  show Painted (framed a s) (framed a t)
  rw [hframed, hframed]
  exact (Painted.of_plainText hleft).append (hst.append (.of_plainText hright))

/-- Text cut to the limit of a field. -/
def limited (spec : FieldSpec) (s : List Char) : List Char :=
  match spec.limit with
  | some n => s.take n
  | none => s

theorem exists_spaces_of_fillWidth {w : Int} {s t : List Char} (h : fillWidth w s = .ok t) :
    ∃ m n, t = List.replicate m ' ' ++ (s ++ List.replicate n ' ') := by
  unfold fillWidth at h
  split at h
  · simp at h
  · obtain rfl := Except.ok.inj h
    split
    · exact ⟨0, _, rfl⟩
    · exact ⟨w.natAbs - s.length, 0, by simp⟩

/-- The limit cuts before the width fills. -/
theorem exists_spaces {spec : FieldSpec} {s t : List Char} (h : sized spec s = .ok t) :
    ∃ m n, t = List.replicate m ' ' ++ (limited spec s ++ List.replicate n ' ') := by
  simp only [sized] at h
  cases hwidth : spec.width with
  | none =>
      rw [hwidth] at h
      have hlimited : limited spec s = t := Except.ok.inj h
      exact ⟨0, 0, by simp [hlimited]⟩
  | some w =>
      rw [hwidth] at h
      exact exists_spaces_of_fillWidth h

theorem plainText_sized {spec : FieldSpec} {s t : List Char} (hs : PlainText s)
    (h : sized spec s = .ok t) : PlainText t := by
  have hspaces : ∀ n, PlainText (List.replicate n ' ') := fun n => plainText_replicate (by decide)
  have hlimited : PlainText (limited spec s) := by
    unfold limited
    split
    · exact hs.take _
    · exact hs
  obtain ⟨m, n, rfl⟩ := exists_spaces h
  exact plainText_append.mpr ⟨hspaces m, plainText_append.mpr ⟨hlimited, hspaces n⟩⟩

/-- A field that leaves size alone keeps the text. -/
theorem sized_of_keepsText (h : a.KeepsText) (s : List Char) : sized a s = .ok s := by
  simp only [sized, h.width, h.limit]

/-! ## Dressed values -/

/-- In colors control sequences are kept. -/
theorem prepared_of_color (hv : v.color = true) (spec : FieldSpec) (value : String) :
    prepared v spec value = spec.transform.apply value.toList := by
  rw [prepared, if_pos hv]

/-- A plain value gets its letter case and its size before it is painted. -/
theorem dressed_agree (hv : v.Colored) (h : a.SameShape b) {value : String}
    (hvalue : Plain value) :
    Agree PaintedString (dressed v.uncolored l a value) (dressed v l b value) := by
  have hplain : prepared v.uncolored a value = a.transform.apply value.toList := by
    show a.transform.apply (Sgr.strip value.toList) = _
    rw [strip_of_plainText hvalue]
  have hcolored : prepared v b value = a.transform.apply value.toList := by
    rw [prepared_of_color hv.color, h.transform_eq]
  unfold dressed
  rw [hplain, hcolored, h.sized_eq]
  cases hs : sized a (a.transform.apply value.toList) with
  | error fault => exact .fault fault
  | ok s =>
      have hs : PlainText s := plainText_sized (plainText_apply _ hvalue) hs
      -- without colors there is no painter at all
      show Agree PaintedString (.ok (String.ofList (framed a s)))
        (.ok (painted v l b (framed b s)))
      exact .text (painted_agree hv (framed_agree h (.of_plainText hs)))

/-- Without colors a field that keeps its text only puts brackets and space around it. -/
theorem dressed_uncolored (ha : a.KeepsText) {s : String} (hs : Plain s) :
    dressed v.uncolored l a s = .ok (String.ofList (framed a s.toList)) := by
  have hprepared : prepared v.uncolored a s = s.toList := by
    show a.transform.apply (Sgr.strip s.toList) = s.toList
    rw [ha.transform, strip_of_plainText hs]
    rfl
  rw [dressed, hprepared, sized_of_keepsText ha]
  rfl

/-- Text that is painted already keeps its case and its size. -/
theorem dressed_again (hv : v.Colored) (h : a.SameShape b) (ha : a.KeepsText) {s t : String}
    (hst : PaintedString s t) :
    Agree PaintedString (dressed v.uncolored l a s) (dressed v l b t) := by
  have hcolored : dressed v l b t = .ok (painted v l b (framed b t.toList)) := by
    have hprepared : prepared v b t = t.toList := by
      rw [prepared_of_color hv.color, (h.keepsText ha).transform]
      rfl
    rw [dressed, hprepared, sized_of_keepsText (h.keepsText ha)]
  rw [dressed_uncolored ha hst.plain, hcolored]
  exact .text (painted_agree hv (framed_agree h hst))

theorem styled_eq_dressed (ha : a.Bare) (l : Level) (s : String) :
    styled v l a s = dressed v l a s := by
  rw [styled, isSkipped, ha.ignoreEmpty, Bool.false_and]
  rfl

theorem styled_agree (hv : v.Colored) (h : a.SameShape b) (ha : a.Bare) {s t : String}
    (hst : PaintedString s t) :
    Agree PaintedString (styled v.uncolored l a s) (styled v l b t) := by
  rw [styled_eq_dressed ha, styled_eq_dressed (h.bare ha)]
  exact dressed_again hv h ha.toKeepsText hst

theorem mem_framed {spec : FieldSpec} {s : List Char} {ch : Char} (h : ch ∈ s) :
    ch ∈ framed spec s := by
  obtain ⟨left, right, -, -, hframed⟩ := exists_frame spec
  rw [hframed]
  exact List.mem_append_right left (List.mem_append_left right h)

/-! ## Keys and values -/

/-- Two templates whose styles differ in color at most and dress nothing but color, brackets
and space. -/
structure SameStyles (c d : Compiled) : Prop where
  keyStyle : c.keyStyle.SameShape d.keyStyle
  valueStyle : c.valueStyle.SameShape d.valueStyle
  bareKey : c.keyStyle.Bare
  bareValue : c.valueStyle.Bare

variable {c d : Compiled} {key : String}

theorem plain_equals (hkey : Plain key) : Plain (key ++ "=") :=
  plain_append.mpr ⟨hkey, by decide⟩

theorem styledPair_agree (hv : v.Colored) (hcd : SameStyles c d) (hkey : Plain key)
    {s t : String} (hst : PaintedString s t) :
    Agree PaintedString (styledPair v.uncolored l c key s) (styledPair v l d key t) := by
  have hk := styled_agree (l := l) hv hcd.keyStyle hcd.bareKey
    (PaintedString.of_plain (plain_equals hkey))
  have hw := styled_agree (l := l) hv hcd.valueStyle hcd.bareValue hst
  unfold styledPair
  rcases hk.fault_or_text with ⟨f, hplain, hcolored⟩ | ⟨k, k', hkeys, hplain, hcolored⟩
  · rw [hplain, hcolored]
    exact .fault f
  · rw [hplain, hcolored]
    rcases hw.fault_or_text with ⟨f, hplain, hcolored⟩ | ⟨w, w', hvalues, hplain, hcolored⟩
    · rw [hplain, hcolored]
      exact .fault f
    · rw [hplain, hcolored]
      exact .text (hkeys.append hvalues)

theorem attached_agree (hv : v.Colored) (hcd : SameStyles c d) (h : a.SameShape b)
    (hkey : Plain key) {s t : String} (hst : PaintedString s t) (printKey : Bool) :
    Agree PaintedString (attached v.uncolored l c a key s printKey)
      (attached v l d b key t printKey) := by
  unfold attached
  rw [h.plainKey_eq]
  split
  · split
    · exact .text ((PaintedString.of_plain (plain_equals hkey)).append hst)
    · exact styledPair_agree hv hcd hkey hst
  · split
    · exact .text hst
    · exact styled_agree hv hcd.valueStyle hcd.bareValue hst

/-- Fields that are left out together and dressed alike have texts that agree. -/
theorem fieldText_agree_of (hv : v.Colored) (hcd : SameStyles c d) (h : a.SameShape b)
    (hkey : Plain key) {s t : String} (hskip : isSkipped b t = isSkipped a s)
    (hdressed : Agree PaintedString (dressed v.uncolored l a s) (dressed v l b t))
    (printKey : Bool) :
    Agree PaintedString (fieldText v.uncolored l c a key s printKey)
      (fieldText v l d b key t printKey) := by
  unfold fieldText
  rw [hskip]
  split
  · exact .text (.of_plain (by decide))
  · rcases hdressed.fault_or_text with ⟨f, hplain, hcolored⟩ | ⟨x, y, hxy, hplain, hcolored⟩
    · rw [hplain, hcolored]
      exact .fault f
    · rw [hplain, hcolored]
      exact attached_agree hv hcd h hkey hxy printKey

theorem fieldText_agree (hv : v.Colored) (hcd : SameStyles c d) (h : a.SameShape b)
    (hkey : Plain key) {value : String} (hvalue : Plain value) (printKey : Bool) :
    Agree PaintedString (fieldText v.uncolored l c a key value printKey)
      (fieldText v l d b key value printKey) := by
  have hskip : isSkipped b value = isSkipped a value := by
    rw [isSkipped, isSkipped, h.ignoreEmpty_eq]
  exact fieldText_agree_of hv hcd h hkey hskip (dressed_agree hv h hvalue) printKey

end Dressing

end Line

end Hooklog
