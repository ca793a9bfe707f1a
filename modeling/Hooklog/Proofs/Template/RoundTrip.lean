import Hooklog.Proofs.Template.Positions
import Hooklog.Proofs.Template.Scanning

/-!
# Reading back written templates

Compiling the text of a written template gives the template that it stands for: its literal
texts as the skeleton, the described fields at the places where they were written, and the
last styles of keys and values.
-/

namespace Hooklog.Template

open Text

/-! ## What a description is read as -/

namespace Description

variable (d : Description)

theorem ascii_of_mem_name : ∀ c ∈ d.name.toList, c.toNat < 0x80 :=
  fun c hc => ascii_of_isNameChar (d.name_chars c hc)

theorem placeholder_token : d.placeholder.token = d.token := by
  have hfold : d.name.toList.map Token.foldChar = d.name.toList.map Char.toLower :=
    List.map_congr_left fun c hc => Token.foldChar_of_ascii (d.ascii_of_mem_name c hc)
  show Token.ofName d.name.toList = d.token
  rw [Token.ofName, token, hfold, lower_of_ascii d.ascii_of_mem_name, String.ofList_toList]
  cases Token.names.lookup (String.ofList (d.name.toList.map Char.toLower)) with
  | none => rfl
  | some t => rfl

/-- A description always has a name. -/
theorem token_ne_unset : d.token ≠ .unset := by
  have hnames : ∀ p ∈ Token.names, p.2 ≠ .unset := by decide
  unfold token
  cases hlookup : Token.names.lookup (String.ofList (d.name.toList.map Char.toLower)) with
  | none => simp
  | some t => exact hnames _ (mem_of_lookup hlookup)

theorem placeholder_names : d.placeholder.names = d.attributes := by
  rw [Placeholder.names, placeholder, attributesText]
  by_cases h : d.attributes = []
  · rw [if_pos h, h]
  · rw [if_neg h]
    exact words_joinWith fun a ha => isWordText_of_known (d.attributes_known a ha)

theorem placeholder_colors :
    d.placeholder.colors = d.attributes.filterMap Sgr.Attribute.named? := by
  rw [Placeholder.colors_eq, placeholder_names]

/-- Nothing is wrong with known attributes. -/
theorem placeholder_faults : d.placeholder.faults = [] := by
  rw [Placeholder.faults_eq_nil_iff, unknownOf_eq_nil_iff, placeholder_names]
  exact d.attributes_known

theorem readWidth : d.widthText.bind (Decimal.readWithin? widthBounds) = d.width := by
  rw [widthText]
  cases hwidth : d.width with
  | none => rfl
  | some w => exact Decimal.readWithin?_integerText (d.width_holds w hwidth)

theorem readLimit :
    (d.limitText.bind (Decimal.readWithin? limitBounds)).map Int.toNat = d.limit := by
  rw [limitText]
  cases hlimit : d.limit with
  | none => rfl
  | some n =>
      rw [Option.map_some, Option.bind_some,
        Decimal.readWithin?_digitsOf (d.limit_holds n hlimit)]
      rfl

/-- A description is read as the field that it stands for. -/
theorem placeholder_spec (color : Bool) : d.placeholder.spec color = d.spec color 0 := by
  rw [Placeholder.spec, applyKeywords_eq, d.placeholder_names, d.placeholder_token]
  show FieldSpec.mk _ _ _ _ _ _ _ _ (if color then d.placeholder.colors else [])
    (d.widthText.bind _) ((d.limitText.bind _).map _) _ = _
  rw [d.placeholder_colors, d.readWidth, d.readLimit]
  simp only [FieldSpec.plain, Bool.false_or]
  rfl

/-- A description followed by more text is the first part of it. -/
theorem segments_text_append (rest : List Char) :
    segments (d.text ++ rest) = .placeholder d.placeholder :: segments rest := by
  have htext : d.text ++ rest = '%' :: (d.placeholder.body ++ '%' :: rest) := by
    simp [text, Placeholder.body, placeholder]
  rw [htext, segments_percent_of_some (d.scan?_written rest)]

end Description

/-! ## Literal texts -/

/-- Parts of a literal text. -/
def literals (s : List Char) : List Segment := s.map Segment.literal

theorem segments_append_of_notMem {s : List Char} (h : '%' ∉ s) (rest : List Char) :
    segments (s ++ rest) = literals s ++ segments rest := by
  induction s with
  | nil => rfl
  | cons c s ih =>
      rw [List.mem_cons, not_or] at h
      rw [List.cons_append, segments_cons_of_ne (Ne.symm h.1), ih h.2]
      rfl

section Literals

variable (color : Bool) (s : List Char) (rest : List Segment)

theorem faults_literals :
    (literals s ++ rest).flatMap Segment.faults = rest.flatMap Segment.faults := by
  induction s with
  | nil => rfl
  | cons c s ih => exact ih

theorem skeletonOf_literals :
    skeletonOf ((literals s ++ rest).map (Segment.item color)) =
      s ++ skeletonOf (rest.map (Segment.item color)) := by
  induction s with
  | nil => rfl
  | cons c s ih => exact congrArg (c :: ·) ih

theorem fieldsFrom_literals (offset : Nat) :
    fieldsFrom offset ((literals s ++ rest).map (Segment.item color)) =
      fieldsFrom (offset + byteLength s) (rest.map (Segment.item color)) := by
  induction s generalizing offset with
  | nil => rfl
  | cons c s ih =>
      have hlength : byteLength (c :: s) = byteLength [c] + byteLength s :=
        byteLength_append [c] s
      rw [hlength, ← Nat.add_assoc]
      exact ih (offset + byteLength [c])

theorem styleAfter_literals (kind : Token) (style : FieldSpec) :
    styleAfter kind style ((literals s ++ rest).map (Segment.item color)) =
      styleAfter kind style (rest.map (Segment.item color)) := by
  induction s with
  | nil => rfl
  | cons c s ih => exact ih

end Literals

/-! ## Descriptions among literal texts -/

namespace Written

/-- Parts of descriptions and the literal texts that follow them. -/
def partsOf : List (Description × String) → List Segment
  | [] => []
  | (d, s) :: rest => .placeholder d.placeholder :: (literals s.toList ++ partsOf rest)

theorem segments_partsText {parts : List (Description × String)}
    (h : ∀ p ∈ parts, '%' ∉ p.2.toList) : segments (partsText parts) = partsOf parts := by
  induction parts with
  | nil => exact segments_nil
  | cons p rest ih =>
      have hrest := fun q hq => h q (List.mem_cons_of_mem p hq)
      have htext : partsText (p :: rest) = p.1.text ++ (p.2.toList ++ partsText rest) := by
        rw [partsText, List.flatMap_cons, List.append_assoc]
        rfl
      rw [htext, p.1.segments_text_append,
        segments_append_of_notMem (h p List.mem_cons_self), ih hrest]
      rfl

/-- Parts of a written template. -/
theorem segments_text (t : Written) :
    segments t.text = literals t.first.toList ++ partsOf t.parts := by
  rw [text, segments_append_of_notMem t.first_plain, segments_partsText t.parts_plain]

theorem faults_partsOf (parts : List (Description × String)) :
    (partsOf parts).flatMap Segment.faults = [] := by
  induction parts with
  | nil => rfl
  | cons p rest ih =>
      rw [partsOf, List.flatMap_cons, faults_literals, ih, Segment.faults,
        p.1.placeholder_faults]
      rfl

variable (color : Bool)

/-- A description is a field or one of the two styles. -/
theorem item_cases (d : Description) :
    (d.token.isStyle = false ∧
        Segment.item color (.placeholder d.placeholder) = .field (d.spec color 0)) ∨
      (d.token = .keyStyle ∧
        Segment.item color (.placeholder d.placeholder) = .keyStyle (d.spec color 0)) ∨
      (d.token = .valueStyle ∧
        Segment.item color (.placeholder d.placeholder) = .valueStyle (d.spec color 0)) := by
  have htoken := d.placeholder_token
  rw [← d.placeholder_spec color]
  rcases d.token.kind with hvalue | hunset | hstyle
  · exact Or.inl ⟨hvalue.1, item_of_value (htoken ▸ hvalue) color⟩
  · exact absurd hunset d.token_ne_unset
  · rcases Token.eq_of_isStyle hstyle with hkey | hvalue
    · exact Or.inr (Or.inl ⟨hkey, item_of_keyStyle (htoken.trans hkey) color⟩)
    · exact Or.inr (Or.inr ⟨hvalue, item_of_valueStyle (htoken.trans hvalue) color⟩)

theorem skeletonOf_partsOf (parts : List (Description × String)) :
    skeletonOf ((partsOf parts).map (Segment.item color)) =
      parts.flatMap fun p => p.2.toList := by
  induction parts with
  | nil => rfl
  | cons p rest ih =>
      rw [partsOf, List.map_cons, List.flatMap_cons, ← ih, ← skeletonOf_literals]
      rcases item_cases color p.1 with ⟨-, hitem⟩ | ⟨-, hitem⟩ | ⟨-, hitem⟩ <;> rw [hitem] <;> rfl

/-- The fields of a written template stand where they were written. -/
theorem fieldsFrom_partsOf (offset : Nat) (parts : List (Description × String)) :
    fieldsFrom offset ((partsOf parts).map (Segment.item color)) =
      fieldsOf color offset parts := by
  induction parts generalizing offset with
  | nil => rfl
  | cons p rest ih =>
      rw [partsOf, List.map_cons, fieldsOf, ← ih, ← fieldsFrom_literals]
      rcases item_cases color p.1 with ⟨htoken, hitem⟩ | ⟨htoken, hitem⟩ | ⟨htoken, hitem⟩
      · rw [hitem, htoken]
        rfl
      · rw [hitem, htoken]
        rfl
      · rw [hitem, htoken]
        rfl

theorem styleOf_cons_of_eq {style : Token} {p : Description × String} (h : p.1.token = style)
    (default : FieldSpec) (rest : List (Description × String)) :
    styleOf style default color (p :: rest) = styleOf style (p.1.spec color 0) color rest := by
  unfold styleOf
  rw [List.filter_cons_of_pos (by rw [h]; exact decide_eq_true rfl), List.getLast?_cons]
  cases (rest.filter fun q => decide (q.1.token = style)).getLast? with
  | none => rfl
  | some q => rfl

theorem styleOf_cons_of_ne {style : Token} {p : Description × String} (h : p.1.token ≠ style)
    (default : FieldSpec) (rest : List (Description × String)) :
    styleOf style default color (p :: rest) = styleOf style default color rest := by
  unfold styleOf
  rw [List.filter_cons_of_neg (by rw [decide_eq_true_eq]; exact h)]

/-- The style of a kind is the one that was written last. -/
theorem styleAfter_partsOf {kind : Token} (hkind : kind.isStyle = true) (style : FieldSpec)
    (parts : List (Description × String)) :
    styleAfter kind style ((partsOf parts).map (Segment.item color)) =
      styleOf kind style color parts := by
  induction parts generalizing style with
  | nil => rfl
  | cons p rest ih =>
      rw [partsOf, List.map_cons, styleAfter, styleAfter_literals, ih, style?_item hkind,
        p.1.placeholder_token, p.1.placeholder_spec]
      by_cases htoken : p.1.token = kind
      · rw [if_pos htoken, styleOf_cons_of_eq color htoken]
        rfl
      · rw [if_neg htoken, styleOf_cons_of_ne color htoken]
        rfl

end Written

/-- A description with a number on each side of its point, touching one whose name starts like
a reserved one. -/
def touching : Written where
  first := "é"
  parts := [
    (⟨some (-8), some 3, "LEVEL", ["Upper", "red"], by decide, by decide,
      List.all_eq_true.mp (by decide), ⟨'L', ['E', 'V', 'E', 'L'], by decide, by decide⟩,
      by decide +kernel⟩, ""),
    (⟨none, none, "timeout", [], by simp, by simp,
      List.all_eq_true.mp (by decide), ⟨'t', ['i', 'm', 'e', 'o', 'u', 't'], by decide, by decide⟩,
      by simp⟩, "!")]
  first_plain := by decide
  parts_plain := by decide

example : String.ofList touching.text = "é%-8.3LEVEL:Upper,red%%timeout%!" := by decide

example : (touching.compiled true).fields.map (fun spec => (spec.token, spec.position)) =
    [(.level, 2), (.field "timeout", 2)] := by decide

end Hooklog.Template
