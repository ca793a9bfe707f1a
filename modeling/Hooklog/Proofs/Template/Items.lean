import Hooklog.Template.Compiled
import Hooklog.Proofs.Template.Keywords

/-!
# Items of placeholders

A placeholder is a field, a style or a switch of colors; which of them it is depends on its
name only.  So the fields of a template are those of its placeholders with a value.
-/

namespace Hooklog.Template

/-- Colors among the attributes of a placeholder. -/
def Placeholder.colors (p : Placeholder) : List Sgr.Attribute :=
  p.colorNames.filterMap Sgr.Attribute.named?

/-- No keyword is a color, so the colors are those of all names. -/
theorem Placeholder.colors_eq (p : Placeholder) :
    p.colors = p.names.filterMap Sgr.Attribute.named? := by
  rw [Placeholder.colors, Placeholder.colorNames, List.filterMap_filter]
  congr 1
  funext a
  by_cases h : (FieldSpec.keyword? a).isNone = true
  · rw [if_pos h]
  · rw [if_neg h]
    cases hnamed : Sgr.Attribute.named? a with
    | none => rfl
    | some found =>
        have hnone : FieldSpec.keyword? a = none :=
          keyword?_eq_none_of_named (by rw [hnamed]; rfl)
        exact absurd (Option.isNone_iff_eq_none.mpr hnone) h

/-- What a placeholder without a name writes: the control sequence of its colors. -/
def Placeholder.switchText (p : Placeholder) (color : Bool) : List Char :=
  if color = true ∧ p.colors ≠ [] then (Sgr.opening p.colors).toList else []

/-- Whether a token stands for a value. -/
def Token.IsValue (t : Token) : Prop := t.isStyle = false ∧ t ≠ .unset

@[simp] theorem Placeholder.spec_token (p : Placeholder) (color : Bool) :
    (p.spec color).token = p.token := by
  rw [Placeholder.spec, applyKeywords_eq]
  rfl

theorem Placeholder.spec_attributes (p : Placeholder) (color : Bool) :
    (p.spec color).attributes = if color then p.colors else [] := rfl

/-! ## The three kinds of placeholders -/

theorem item_of_value {p : Placeholder} (h : p.token.IsValue) (color : Bool) :
    Segment.item color (.placeholder p) = .field (p.spec color) := by
  obtain ⟨hstyle, hunset⟩ := h
  rw [← p.spec_token color] at hstyle hunset
  rw [Segment.item, Item.ofSpec]
  split
  · rename_i htoken
    rw [htoken] at hstyle
    exact absurd hstyle (by decide)
  · rename_i htoken
    rw [htoken] at hstyle
    exact absurd hstyle (by decide)
  · rename_i htoken
    exact absurd htoken hunset
  · rfl

theorem item_of_unset {p : Placeholder} (h : p.token = .unset) (color : Bool) :
    Segment.item color (.placeholder p) = .text (p.switchText color) := by
  have htoken : (p.spec color).token = .unset := (p.spec_token color).trans h
  rw [Segment.item, Item.ofSpec]
  simp only [htoken, p.spec_attributes, Placeholder.switchText]
  cases color with
  | false => simp
  | true => by_cases hcolors : p.colors = [] <;> simp [hcolors]

theorem item_of_keyStyle {p : Placeholder} (h : p.token = .keyStyle) (color : Bool) :
    Segment.item color (.placeholder p) = .keyStyle (p.spec color) := by
  have htoken : (p.spec color).token = .keyStyle := (p.spec_token color).trans h
  rw [Segment.item, Item.ofSpec]
  simp only [htoken]

theorem item_of_valueStyle {p : Placeholder} (h : p.token = .valueStyle) (color : Bool) :
    Segment.item color (.placeholder p) = .valueStyle (p.spec color) := by
  have htoken : (p.spec color).token = .valueStyle := (p.spec_token color).trans h
  rw [Segment.item, Item.ofSpec]
  simp only [htoken]

theorem Token.isStyle_keyStyle : Token.isStyle .keyStyle = true := rfl

theorem Token.isStyle_valueStyle : Token.isStyle .valueStyle = true := rfl

theorem Token.eq_of_isStyle {t : Token} (h : t.isStyle = true) :
    t = .keyStyle ∨ t = .valueStyle := by
  unfold Token.isStyle at h
  split at h
  · exact Or.inr rfl
  · exact Or.inl rfl
  · exact absurd h Bool.false_ne_true

theorem item_of_style {p : Placeholder} (h : p.token.isStyle = true) (color : Bool) :
    Segment.item color (.placeholder p) = .keyStyle (p.spec color) ∨
      Segment.item color (.placeholder p) = .valueStyle (p.spec color) := by
  rcases Token.eq_of_isStyle h with hkey | hvalue
  · exact Or.inl (item_of_keyStyle hkey color)
  · exact Or.inr (item_of_valueStyle hvalue color)

/-- Every placeholder is of one of the three kinds. -/
theorem Token.kind (t : Token) : t.IsValue ∨ t = .unset ∨ t.isStyle = true := by
  by_cases hunset : t = .unset
  · exact Or.inr (Or.inl hunset)
  · cases hstyle : t.isStyle with
    | true => exact Or.inr (Or.inr rfl)
    | false => exact Or.inl ⟨hstyle, hunset⟩

/-! ## Fields of placeholders -/

theorem fieldsFrom_style {p : Placeholder} (hp : p.token.isStyle = true) (color : Bool)
    (offset : Nat) (items : List Item) :
    fieldsFrom offset (Segment.item color (.placeholder p) :: items) =
      fieldsFrom offset items := by
  rcases item_of_style hp color with h | h
  · rw [h]
    rfl
  · rw [h]
    rfl

/-- A field of a template is that of one of its placeholders. -/
theorem exists_placeholder_of_mem_fieldsFrom {color : Bool} {segs : List Segment} {n : Nat}
    {spec : FieldSpec} (h : spec ∈ fieldsFrom n (segs.map (Segment.item color))) :
    ∃ p position, .placeholder p ∈ segs ∧
      spec = { p.spec color with position := position } := by
  induction segs generalizing n with
  | nil => exact absurd h List.not_mem_nil
  | cons seg rest ih =>
      have hrest : ∀ m, spec ∈ fieldsFrom m (rest.map (Segment.item color)) →
          ∃ p position, .placeholder p ∈ seg :: rest ∧
            spec = { p.spec color with position := position } := by
        intro m hm
        obtain ⟨p, position, hp, hspec⟩ := ih hm
        exact ⟨p, position, List.mem_cons_of_mem seg hp, hspec⟩
      rw [List.map_cons] at h
      cases seg with
      | literal ch => exact hrest _ h
      | placeholder p =>
          rcases p.token.kind with hvalue | hunset | hstyle
          · rw [item_of_value hvalue, fieldsFrom] at h
            rcases List.mem_cons.mp h with rfl | h
            · exact ⟨p, n, List.mem_cons_self, rfl⟩
            · exact hrest _ h
          · rw [item_of_unset hunset] at h
            exact hrest _ h
          · rw [fieldsFrom_style hstyle] at h
            exact hrest _ h

/-- Every placeholder with a value has its field. -/
theorem exists_mem_fieldsFrom {segs : List Segment} {p : Placeholder}
    (hp : .placeholder p ∈ segs) (hvalue : p.token.IsValue) (color : Bool) (n : Nat) :
    ∃ position, { p.spec color with position := position } ∈
      fieldsFrom n (segs.map (Segment.item color)) := by
  induction segs generalizing n with
  | nil => exact absurd hp List.not_mem_nil
  | cons seg rest ih =>
      rw [List.map_cons]
      rcases List.mem_cons.mp hp with rfl | hp
      · rw [item_of_value hvalue]
        exact ⟨n, List.mem_cons_self⟩
      · cases hitem : Segment.item color seg with
        | text s => exact ih hp _
        | field spec =>
            obtain ⟨position, hfound⟩ := ih hp n
            exact ⟨position, List.mem_cons_of_mem _ hfound⟩
        | keyStyle spec => exact ih hp n
        | valueStyle spec => exact ih hp n

/-! ## Styles of placeholders -/

/-- Placeholders of a token among segments. -/
def placeholdersOf (t : Token) (segs : List Segment) : List Placeholder :=
  segs.filterMap fun
    | .placeholder p => if p.token = t then some p else none
    | .literal _ => none

theorem mem_placeholdersOf_iff {t : Token} {segs : List Segment} {p : Placeholder} :
    p ∈ placeholdersOf t segs ↔ .placeholder p ∈ segs ∧ p.token = t := by
  rw [placeholdersOf, List.mem_filterMap]
  constructor
  · rintro ⟨seg, hseg, hp⟩
    cases seg with
    | literal c => exact absurd hp.symm (Option.some_ne_none p)
    | placeholder q =>
        obtain ⟨htoken, rfl⟩ := Option.ite_some_none_eq_some.mp hp
        exact ⟨hseg, htoken⟩
  · rintro ⟨hp, htoken⟩
    exact ⟨_, hp, if_pos htoken⟩

theorem placeholdersOf_cons_of_eq {p : Placeholder} {t : Token} (h : p.token = t)
    (rest : List Segment) :
    placeholdersOf t (.placeholder p :: rest) = p :: placeholdersOf t rest :=
  List.filterMap_cons_some (if_pos h)

theorem placeholdersOf_cons_of_ne {p : Placeholder} {t : Token} (h : p.token ≠ t)
    (rest : List Segment) :
    placeholdersOf t (.placeholder p :: rest) = placeholdersOf t rest :=
  List.filterMap_cons_none (if_neg h)

theorem placeholdersOf_append (t : Token) (segs more : List Segment) :
    placeholdersOf t (segs ++ more) = placeholdersOf t segs ++ placeholdersOf t more :=
  List.filterMap_append

/-- Field of the last of some placeholders, or another one if there are none. -/
def lastSpec (style : FieldSpec) (color : Bool) (ps : List Placeholder) : FieldSpec :=
  (ps.getLast?.map (Placeholder.spec color)).getD style

theorem lastSpec_cons (style : FieldSpec) (color : Bool) (p : Placeholder)
    (ps : List Placeholder) :
    lastSpec style color (p :: ps) = lastSpec (p.spec color) color ps := by
  unfold lastSpec
  rw [List.getLast?_cons]
  cases ps.getLast? <;> rfl

theorem lastSpec_append (style : FieldSpec) (color : Bool) (ps more : List Placeholder) :
    lastSpec style color (ps ++ more) = lastSpec (lastSpec style color ps) color more := by
  unfold lastSpec
  rw [List.getLast?_append]
  cases more.getLast? <;> rfl

/-- Where there is a last placeholder, the other style does not matter. -/
theorem lastSpec_of_ne_nil {ps : List Placeholder} (h : ps ≠ []) (color : Bool)
    (style other : FieldSpec) : lastSpec style color ps = lastSpec other color ps := by
  unfold lastSpec
  rw [List.getLast?_eq_some_getLast h]
  rfl

/-- What holds of a style and of the fields of some placeholders holds of the last of them. -/
theorem lastSpec_induction {P : FieldSpec → Prop} {style : FieldSpec} {color : Bool}
    {ps : List Placeholder} (hstyle : P style) (h : ∀ p ∈ ps, P (p.spec color)) :
    P (lastSpec style color ps) := by
  unfold lastSpec
  cases hlast : ps.getLast? with
  | none => exact hstyle
  | some p => exact h p (List.mem_of_getLast? hlast)

section Kinds

variable {kind : Token} (hkind : kind.isStyle = true)

include hkind

/-- A placeholder sets a style if it is one for it. -/
theorem style?_item (p : Placeholder) (color : Bool) :
    (Segment.item color (.placeholder p)).style? kind =
      if p.token = kind then some (p.spec color) else none := by
  have hother : ∀ {t : Token}, t.isStyle = false → t ≠ kind := by
    rintro t ht rfl
    exact Bool.false_ne_true (ht.symm.trans hkind)
  rcases p.token.kind with hvalue | hunset | hstyle
  · rw [item_of_value hvalue, if_neg (hother hvalue.1)]
    rfl
  · rw [item_of_unset hunset, hunset, if_neg (hother rfl)]
    rfl
  · rcases Token.eq_of_isStyle hstyle with hkey | hvalue
    · rw [item_of_keyStyle hkey, hkey]
      rcases Token.eq_of_isStyle hkind with rfl | rfl <;> rfl
    · rw [item_of_valueStyle hvalue, hvalue]
      rcases Token.eq_of_isStyle hkind with rfl | rfl <;> rfl

/-- The style of a kind is that of the last placeholder for it. -/
theorem styleAfter_eq (style : FieldSpec) (color : Bool) (segs : List Segment) :
    styleAfter kind style (segs.map (Segment.item color)) =
      lastSpec style color (placeholdersOf kind segs) := by
  induction segs generalizing style with
  | nil => rfl
  | cons seg rest ih =>
      rw [List.map_cons, styleAfter, ih]
      cases seg with
      | literal c => rfl
      | placeholder p =>
          rw [style?_item hkind]
          by_cases htoken : p.token = kind
          · rw [if_pos htoken, placeholdersOf_cons_of_eq htoken, lastSpec_cons]
            rfl
          · rw [if_neg htoken, placeholdersOf_cons_of_ne htoken]
            rfl

end Kinds

end Hooklog.Template
