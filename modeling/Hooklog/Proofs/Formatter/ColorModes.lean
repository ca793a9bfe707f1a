import Hooklog.Proofs.Formatter.Dressing
import Hooklog.Proofs.Template.Items
import Hooklog.Proofs.Template.Positions

/-!
# Color modes

A template is compiled with its colors or without.  Both modes check the same names and find the
same faults, each unknown name where it stands.  The compiled templates differ in the colors of
their fields and in the control sequences that switch colors between their literal characters, and
so in positions.

* `attributeList` lists the names among the attributes of a template, and `filter_faults` finds
  the unknown ones of them among its faults.
* `SameUpToColors` relates the two compiled templates.
* `compile_color_modes` is the main statement.
-/

namespace Hooklog.Template

/-! ## Unknown names -/

/-- Names among the attributes of a segment. -/
def Segment.names : Segment → List String
  | .literal _ => []
  | .placeholder p => p.names

/-- Names among the attributes of a template, from left to right. -/
def attributeList (format : String) : List String :=
  (segments format.toList).flatMap Segment.names

/-- The faults of a template are its unknown names, in their order, and notes between them. -/
theorem filter_faults (format : String) :
    (faults format).filter (· ≠ .noAttribute) =
      (unknownOf (attributeList format)).map .unknownAttribute := by
  unfold faults attributeList unknownOf
  rw [List.filter_flatMap, List.filter_flatMap, List.map_flatMap]
  congr 1
  funext seg
  cases seg with
  | literal c => rfl
  | placeholder p => exact p.filter_faults

theorem faults_eq_nil_iff (format : String) :
    faults format = [] ↔ unknownOf (attributeList format) = [] := by
  unfold faults attributeList unknownOf
  rw [List.filter_flatMap, List.flatMap_eq_nil_iff, List.flatMap_eq_nil_iff]
  refine forall₂_congr fun seg _ => ?_
  cases seg with
  | literal c => exact ⟨fun _ => rfl, fun _ => rfl⟩
  | placeholder p => exact p.faults_eq_nil_iff

/-! ## Fields and styles -/

theorem FieldSpec.SameShape.moved {a b : FieldSpec} (h : a.SameShape b) (m n : Nat) :
    FieldSpec.SameShape { a with position := m } { b with position := n } := by
  obtain ⟨attributes, _, rfl⟩ := h
  exact ⟨attributes, n, rfl⟩

theorem sameShape_spec (p : Placeholder) : (p.spec false).SameShape (p.spec true) :=
  ⟨(p.spec true).attributes, (p.spec true).position, rfl⟩

/-- The fields of both templates are the same up to colors and places. -/
theorem sameShape_fieldsFrom (segs : List Segment) (m n : Nat) :
    List.Forall₂ FieldSpec.SameShape (fieldsFrom m (segs.map (Segment.item false)))
      (fieldsFrom n (segs.map (Segment.item true))) := by
  induction segs generalizing m n with
  | nil => exact .nil
  | cons seg rest ih =>
      rw [List.map_cons, List.map_cons]
      cases seg with
      | literal ch => exact ih _ _
      | placeholder p =>
          rcases p.token.kind with hvalue | hunset | hstyle
          · rw [item_of_value hvalue, item_of_value hvalue]
            exact .cons ((sameShape_spec p).moved m n) (ih m n)
          · -- the control sequence of the colors moves the fields behind it
            rw [item_of_unset hunset, item_of_unset hunset]
            exact ih _ _
          · rw [fieldsFrom_style hstyle, fieldsFrom_style hstyle]
            exact ih m n

/-- The last styles of both templates are the same up to colors. -/
theorem sameShape_lastSpec (style : FieldSpec) (ps : List Placeholder) :
    (lastSpec style false ps).SameShape (lastSpec style true ps) := by
  unfold lastSpec
  cases ps.getLast? with
  | none => exact ⟨style.attributes, style.position, rfl⟩
  | some p => exact sameShape_spec p

/-! ## Skeletons -/

/-- Literal character of a segment. -/
def Segment.literalText : Segment → List Char
  | .literal c => [c]
  | .placeholder _ => []

/-- Control sequence that a segment puts between literal characters to switch colors. -/
def Segment.switchText : Segment → List Char
  | .literal _ => []
  | .placeholder p => if p.token = .unset then p.switchText true else []

/-- Only segments that switch colors differ between the two skeletons. -/
theorem skeletonOf_eq (color : Bool) (segs : List Segment) :
    skeletonOf (segs.map (Segment.item color)) =
      segs.flatMap fun seg => seg.literalText ++ if color then seg.switchText else [] := by
  induction segs with
  | nil => rfl
  | cons seg rest ih =>
      rw [List.map_cons, List.flatMap_cons, ← ih]
      cases seg with
      | literal c => cases color <;> rfl
      | placeholder p =>
          rw [Segment.literalText, Segment.switchText, List.nil_append]
          by_cases hunset : p.token = .unset
          · rw [item_of_unset hunset, skeletonOf, if_pos hunset]
            cases color <;> rfl
          · have hnothing : skeletonOf (Segment.item color (.placeholder p) ::
                rest.map (Segment.item color)) = skeletonOf (rest.map (Segment.item color)) := by
              rcases p.token.kind with hvalue | hswitch | hstyle
              · rw [item_of_value hvalue]
                rfl
              · exact absurd hswitch hunset
              · rcases item_of_style hstyle color with hitem | hitem
                · rw [hitem]
                  rfl
                · rw [hitem]
                  rfl
            rw [hnothing, if_neg hunset, ite_self]
            rfl

/-! ## The two modes -/

/-- Templates compiled without colors and with them from one format. -/
structure SameUpToColors (format : String) (off on : Compiled) : Prop where
  fields : List.Forall₂ FieldSpec.SameShape off.fields on.fields
  keyStyle : off.keyStyle.SameShape on.keyStyle
  valueStyle : off.valueStyle.SameShape on.valueStyle
  plainFields : ∀ spec ∈ off.fields, spec.attributes = []
  plainKey : off.keyStyle.attributes = []
  plainValue : off.valueStyle.attributes = []
  offSkeleton : off.skeleton = (segments format.toList).flatMap Segment.literalText
  onSkeleton : on.skeleton =
    (segments format.toList).flatMap fun seg => seg.literalText ++ seg.switchText

theorem sameUpToColors_ofItems (format : String) :
    SameUpToColors format (.ofItems (items format false)) (.ofItems (items format true)) where
  fields := sameShape_fieldsFrom _ 0 0
  keyStyle := by
    rw [Compiled.ofItems, Compiled.ofItems, items, items, styleAfter_eq Token.isStyle_keyStyle,
      styleAfter_eq Token.isStyle_keyStyle]
    exact sameShape_lastSpec _ _
  valueStyle := by
    rw [Compiled.ofItems, Compiled.ofItems, items, items, styleAfter_eq Token.isStyle_valueStyle,
      styleAfter_eq Token.isStyle_valueStyle]
    exact sameShape_lastSpec _ _
  plainFields spec hspec := by
    obtain ⟨p, _, -, rfl⟩ := exists_placeholder_of_mem_fieldsFrom hspec
    rfl
  plainKey := by
    rw [Compiled.ofItems, items, styleAfter_eq Token.isStyle_keyStyle]
    exact lastSpec_induction (P := fun spec => spec.attributes = []) rfl fun _ _ => rfl
  plainValue := by
    rw [Compiled.ofItems, items, styleAfter_eq Token.isStyle_valueStyle]
    exact lastSpec_induction (P := fun spec => spec.attributes = []) rfl fun _ _ => rfl
  offSkeleton := by
    rw [Compiled.ofItems, items, skeletonOf_eq]
    simp
  onSkeleton := by
    rw [Compiled.ofItems, items, skeletonOf_eq]
    simp

/-- Compiling does not depend on colors.  Either all attributes of a template are known, and both
modes give templates that agree up to colors, the one without colors having none; or some are not,
and both modes report the same faults: every unknown name where it stands, as often as it stands
there, and besides these only notes that a placeholder names no color at all. -/
theorem compile_color_modes (format : String) :
    (∃ off on, compile format false = .ok off ∧ compile format true = .ok on ∧
        (∀ n ∈ attributeList format, IsKnown n) ∧ SameUpToColors format off on) ∨
      ∃ fs, compile format false = .error (.template fs) ∧
        compile format true = .error (.template fs) ∧
        (∃ n ∈ attributeList format, ¬IsKnown n) ∧
        fs.filter (· ≠ .noAttribute) =
          (unknownOf (attributeList format)).map .unknownAttribute := by
  have hknown : faults format = [] ↔ ∀ n ∈ attributeList format, IsKnown n :=
    (faults_eq_nil_iff format).trans unknownOf_eq_nil_iff
  by_cases hfaults : faults format = []
  · exact Or.inl ⟨_, _, compile_eq_ok_iff.mpr ⟨hfaults, rfl⟩,
      compile_eq_ok_iff.mpr ⟨hfaults, rfl⟩, hknown.mp hfaults, sameUpToColors_ofItems format⟩
  · have hunknown : ∃ n ∈ attributeList format, ¬IsKnown n := by
      by_contra hnone
      exact hfaults (hknown.mpr fun n hn => not_not.mp fun h => hnone ⟨n, hn, h⟩)
    exact Or.inr ⟨faults format, if_neg hfaults, if_neg hfaults, hunknown,
      filter_faults format⟩

/-- Keywords and colors share the attributes of a placeholder. -/
example : faults "%message:rouge% %level:upper,vert% %:Bleu+BOLD%" =
    [.unknownAttribute "rouge", .noAttribute, .unknownAttribute "vert", .noAttribute,
      .unknownAttribute "Bleu"] := by
  decide +kernel

end Hooklog.Template
