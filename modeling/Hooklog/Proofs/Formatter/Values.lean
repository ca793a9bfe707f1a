import Hooklog.Formatter.Line
import Mathlib.Data.List.Forall2

/-!
# Values of fields

The texts of a template are those of its fields one by one: making the lists of remaining
fields last changes which fault is met first and nothing else.  A value can only fail to be
made by a width that is too large or by a time without a written form.
-/

namespace Hooklog.Line

open Template

/-- Text of a field, whatever it shows. -/
def fieldValue (v : View) (e : Entry) (c : Compiled) (spec : FieldSpec) : Except Fault String :=
  if spec.token = .fields then remainingFieldText v e c spec else ownText v e c spec

/-! ## Texts that all succeed -/

theorem allOk_eq_ok_iff {α : Type} {f : α → Except Fault String} {l : List α}
    {ss : List String} : allOk f l = .ok ss ↔ List.Forall₂ (fun a s => f a = .ok s) l ss := by
  induction l generalizing ss with
  | nil =>
      rw [allOk, List.forall₂_nil_left_iff]
      exact ⟨fun h => (Except.ok.inj h).symm, fun h => by rw [h]⟩
  | cons a rest ih =>
      rw [allOk, List.forall₂_cons_left_iff]
      cases ha : f a with
      | error e => simp
      | ok s =>
          cases hrest : allOk f rest with
          | error e =>
              simp only [reduceCtorEq, false_iff]
              rintro ⟨s', ss', -, htail, -⟩
              rw [← ih, hrest] at htail
              simp at htail
          | ok ss' =>
              simp only [Except.ok.injEq]
              constructor
              · rintro rfl
                exact ⟨s, ss', rfl, ih.mp hrest, rfl⟩
              · rintro ⟨s', ss'', rfl, htail, rfl⟩
                rw [ih.mpr htail] at hrest
                rw [Except.ok.inj hrest]

/-- Every text of a list is that of one of its members. -/
theorem exists_of_mem_allOk {α : Type} {f : α → Except Fault String} {l : List α}
    {ss : List String} (h : allOk f l = .ok ss) {s : String} (hs : s ∈ ss) :
    ∃ a ∈ l, f a = .ok s := by
  have hall := allOk_eq_ok_iff.mp h
  clear h
  induction hall with
  | nil => exact absurd hs List.not_mem_nil
  | cons hfirst _ ih =>
      rcases List.mem_cons.mp hs with rfl | hs
      · exact ⟨_, List.mem_cons_self, hfirst⟩
      · obtain ⟨a, ha, has⟩ := ih hs
        exact ⟨a, List.mem_cons_of_mem _ ha, has⟩

/-- Every member of a list has its text. -/
theorem exists_of_allOk {α : Type} {f : α → Except Fault String} {l : List α}
    {ss : List String} (h : allOk f l = .ok ss) {a : α} (ha : a ∈ l) :
    ∃ s ∈ ss, f a = .ok s := by
  have hall := allOk_eq_ok_iff.mp h
  clear h
  induction hall with
  | nil => exact absurd ha List.not_mem_nil
  | cons hfirst _ ih =>
      rcases List.mem_cons.mp ha with rfl | ha
      · exact ⟨_, List.mem_cons_self, hfirst⟩
      · obtain ⟨s, hs, hfs⟩ := ih ha
        exact ⟨s, List.mem_cons_of_mem _ hs, hfs⟩

theorem exists_of_allOk_eq_error {α : Type} {f : α → Except Fault String} {l : List α}
    {fault : Fault} (h : allOk f l = .error fault) : ∃ a ∈ l, f a = .error fault := by
  induction l with
  | nil => simp [allOk] at h
  | cons a rest ih =>
      rw [allOk] at h
      cases ha : f a with
      | error e =>
          rw [ha] at h
          exact ⟨a, List.mem_cons_self, by rw [ha, Except.error.inj h]⟩
      | ok s =>
          rw [ha] at h
          cases hrest : allOk f rest with
          | error e =>
              rw [hrest] at h
              obtain ⟨b, hb, hfault⟩ := ih (hrest.trans h)
              exact ⟨b, List.mem_cons_of_mem a hb, hfault⟩
          | ok ss =>
              rw [hrest] at h
              simp at h

theorem exists_allOk {α : Type} {f : α → Except Fault String} {l : List α}
    (h : ∀ a ∈ l, ∃ s, f a = .ok s) : ∃ ss, allOk f l = .ok ss := by
  cases hall : allOk f l with
  | ok ss => exact ⟨ss, rfl⟩
  | error fault =>
      obtain ⟨a, ha, hfault⟩ := exists_of_allOk_eq_error hall
      obtain ⟨s, hs⟩ := h a ha
      rw [hs] at hfault
      simp at hfault

/-! ## The texts of a template -/

/-- A field shows its own value or a list, and the other one is empty. -/
theorem fieldValue_eq_ok_iff {v : View} {e : Entry} {c : Compiled} {spec : FieldSpec}
    {text : String} :
    fieldValue v e c spec = .ok text ↔
      ∃ own list, ownText v e c spec = .ok own ∧ listText v e c spec = .ok list ∧
        text = own ++ list := by
  unfold fieldValue listText
  by_cases h : spec.token = .fields
  · have hown : ownText v e c spec = .ok "" := by rw [ownText, if_pos h]
    rw [if_pos h, if_pos h, hown]
    constructor
    · intro htext
      exact ⟨"", text, rfl, htext, String.empty_append.symm⟩
    · rintro ⟨own, list, hempty, hlist, rfl⟩
      rw [hlist, ← Except.ok.inj hempty, String.empty_append]
  · rw [if_neg h, if_neg h]
    constructor
    · intro htext
      exact ⟨text, "", htext, rfl, String.append_empty.symm⟩
    · rintro ⟨own, list, hown, hempty, rfl⟩
      rw [hown, ← Except.ok.inj hempty, String.append_empty]

/-- A list is made exactly when its members are made and it can be dressed. -/
theorem remainingFieldText_eq_ok_iff {v : View} {e : Entry} {c : Compiled} {spec : FieldSpec}
    {text : String} :
    remainingFieldText v e c spec = .ok text ↔
      ∃ parts, allOk (remainingText v e.level c spec) (remaining c e spec) = .ok parts ∧
        fieldText v e.level c spec Token.fields.key (Text.joinWith " " parts)
          (spec.printKey && (!spec.ignoreEmpty || !(Text.joinWith " " parts).isEmpty)) =
            .ok text := by
  unfold remainingFieldText
  cases hparts : allOk (remainingText v e.level c spec) (remaining c e spec) with
  | error fault => simp
  | ok parts => simp

theorem forall₂_fieldValue_iff {v : View} {e : Entry} {c : Compiled} {specs : List FieldSpec}
    {ts : List String} :
    List.Forall₂ (fun spec t => fieldValue v e c spec = .ok t) specs ts ↔
      ∃ own lists, List.Forall₂ (fun spec t => ownText v e c spec = .ok t) specs own ∧
        List.Forall₂ (fun spec t => listText v e c spec = .ok t) specs lists ∧
        ts = own.zipWith (· ++ ·) lists := by
  induction specs generalizing ts with
  | nil =>
      simp only [List.forall₂_nil_left_iff]
      constructor
      · rintro rfl
        exact ⟨[], [], rfl, rfl, rfl⟩
      · rintro ⟨own, lists, rfl, rfl, rfl⟩
        rfl
  | cons spec specs ih =>
      simp only [List.forall₂_cons_left_iff]
      constructor
      · rintro ⟨t, ts, ht, hts, rfl⟩
        obtain ⟨own, list, hown, hlist, rfl⟩ := fieldValue_eq_ok_iff.mp ht
        obtain ⟨owns, lists, howns, hlists, rfl⟩ := ih.mp hts
        exact ⟨_, _, ⟨own, owns, hown, howns, rfl⟩, ⟨list, lists, hlist, hlists, rfl⟩, rfl⟩
      · rintro ⟨_, _, ⟨own, owns, hown, howns, rfl⟩, ⟨list, lists, hlist, hlists, rfl⟩, rfl⟩
        exact ⟨_, _, fieldValue_eq_ok_iff.mpr ⟨own, list, hown, hlist, rfl⟩,
          ih.mpr ⟨owns, lists, howns, hlists, rfl⟩, rfl⟩

/-- Rendering finds the texts of a template exactly when every field has one. -/
theorem texts_eq_ok_iff {v : View} {e : Entry} {c : Compiled} {ts : List String} :
    texts v e c = .ok ts ↔
      List.Forall₂ (fun spec t => fieldValue v e c spec = .ok t) c.fields ts := by
  rw [forall₂_fieldValue_iff]
  simp only [← allOk_eq_ok_iff]
  unfold texts
  cases hown : allOk (ownText v e c) c.fields with
  | error fault => simp
  | ok own =>
      cases hlists : allOk (listText v e c) c.fields with
      | error fault => simp
      | ok lists =>
          constructor
          · intro h
            exact ⟨own, lists, rfl, rfl, (Except.ok.inj h).symm⟩
          · rintro ⟨_, _, hown', hlists', rfl⟩
            rw [Except.ok.inj hown', Except.ok.inj hlists']

theorem exists_fieldValue_of_texts {v : View} {e : Entry} {c : Compiled} {ts : List String}
    (h : texts v e c = .ok ts) {spec : FieldSpec} (hspec : spec ∈ c.fields) :
    ∃ t, fieldValue v e c spec = .ok t := by
  have hall := allOk_eq_ok_iff.mpr (texts_eq_ok_iff.mp h)
  obtain ⟨t, -, ht⟩ := exists_of_allOk hall hspec
  exact ⟨t, ht⟩

/-- A fault of a rendering is that of the value of one of its fields. -/
theorem exists_of_texts_eq_error {v : View} {e : Entry} {c : Compiled} {fault : Fault}
    (h : texts v e c = .error fault) :
    ∃ spec ∈ c.fields, fieldValue v e c spec = .error fault := by
  unfold texts at h
  cases hown : allOk (ownText v e c) c.fields with
  | error fault' =>
      rw [hown] at h
      obtain ⟨spec, hspec, hfault⟩ := exists_of_allOk_eq_error (hown.trans h)
      refine ⟨spec, hspec, ?_⟩
      -- a list has no fault yet, it is made after all other texts
      have hfields : spec.token ≠ .fields := by
        intro hfields
        rw [ownText, if_pos hfields] at hfault
        simp at hfault
      rw [fieldValue, if_neg hfields, hfault]
  | ok own =>
      rw [hown] at h
      cases hlists : allOk (listText v e c) c.fields with
      | error fault' =>
          rw [hlists] at h
          obtain ⟨spec, hspec, hfault⟩ := exists_of_allOk_eq_error (hlists.trans h)
          refine ⟨spec, hspec, ?_⟩
          by_cases hfields : spec.token = .fields
          · rw [listText, if_pos hfields] at hfault
            rw [fieldValue, if_pos hfields, hfault]
          · rw [listText, if_neg hfields] at hfault
            simp at hfault
      | ok lists =>
          rw [hlists] at h
          simp at h

/-! ## Values that can be made -/

/-- A field without a width, or with one that a text can be filled up to. -/
def Fits (spec : FieldSpec) : Prop := ∀ w, spec.width = some w → w.natAbs ≤ maxWidth

/-- A template all of whose widths can be filled up to, those of its styles included. -/
structure FitsAll (c : Compiled) : Prop where
  fields : ∀ spec ∈ c.fields, Fits spec
  keyStyle : Fits c.keyStyle
  valueStyle : Fits c.valueStyle

section Fitting

variable {v : View} {l : Level} {c : Compiled} {spec : FieldSpec}

theorem exists_sized (h : Fits spec) (s : List Char) : ∃ t, sized spec s = .ok t := by
  unfold sized
  cases hwidth : spec.width with
  | none => exact ⟨_, rfl⟩
  | some w =>
      have hw : ¬ maxWidth < w.natAbs := Nat.not_lt.mpr (h w hwidth)
      simp only [fillWidth, if_neg hw]
      exact ⟨_, rfl⟩

theorem exists_dressed (h : Fits spec) (value : String) :
    ∃ t, dressed v l spec value = .ok t := by
  obtain ⟨s, hs⟩ := exists_sized h (prepared v spec value)
  exact ⟨_, by rw [dressed, hs]⟩

theorem exists_styled (h : Fits spec) (value : String) :
    ∃ t, styled v l spec value = .ok t := by
  unfold styled
  by_cases hskip : isSkipped spec value = true
  · rw [if_pos hskip]
    exact ⟨"", rfl⟩
  · rw [if_neg hskip]
    exact exists_dressed h value

theorem exists_styledPair (hc : FitsAll c) (key value : String) :
    ∃ t, styledPair v l c key value = .ok t := by
  obtain ⟨k, hk⟩ := exists_styled (v := v) (l := l) hc.keyStyle (key ++ "=")
  obtain ⟨w, hw⟩ := exists_styled (v := v) (l := l) hc.valueStyle value
  exact ⟨k ++ w, by rw [styledPair, hk, hw]⟩

theorem exists_attached (hc : FitsAll c) (key value : String) (printKey : Bool) :
    ∃ t, attached v l c spec key value printKey = .ok t := by
  unfold attached
  split
  · split
    · exact ⟨_, rfl⟩
    · exact exists_styledPair hc key value
  · split
    · exact ⟨_, rfl⟩
    · exact exists_styled hc.valueStyle value

theorem exists_fieldText (hc : FitsAll c) (h : Fits spec) (key value : String)
    (printKey : Bool) : ∃ t, fieldText v l c spec key value printKey = .ok t := by
  unfold fieldText
  split
  · exact ⟨_, rfl⟩
  · obtain ⟨s, hs⟩ := exists_dressed (v := v) (l := l) h value
    rw [hs]
    exact exists_attached hc key s printKey

theorem exists_remainingFieldText (hc : FitsAll c) (h : Fits spec) (e : Entry) :
    ∃ t, remainingFieldText v e c spec = .ok t := by
  have hparts : ∀ p ∈ remaining c e spec, ∃ s, remainingText v e.level c spec p = .ok s := by
    intro p _
    unfold remainingText
    split
    · exact ⟨_, rfl⟩
    · exact exists_styledPair hc p.1 p.2.toText
  obtain ⟨parts, hall⟩ := exists_allOk hparts
  rw [remainingFieldText, hall]
  exact exists_fieldText hc h _ _ _

/-- Of all values only a time can be missing. -/
theorem exists_valueOf {e : Entry}
    (htime : ∃ s, v.options.timeLayout.format e.time (zone v) = .ok s) :
    ∃ p, valueOf v e spec = .ok p := by
  unfold valueOf
  split
  · split <;> exact ⟨_, rfl⟩
  case h_4 =>
    obtain ⟨s, hs⟩ := htime
    rw [hs]
    exact ⟨_, rfl⟩
  all_goals exact ⟨_, rfl⟩

theorem exists_fieldValue {e : Entry} (hc : FitsAll c) (h : Fits spec)
    (htime : ∃ s, v.options.timeLayout.format e.time (zone v) = .ok s) :
    ∃ t, fieldValue v e c spec = .ok t := by
  unfold fieldValue ownText
  split
  · exact exists_remainingFieldText hc h e
  · obtain ⟨p, hp⟩ : ∃ p, valueOf v e spec = .ok p := exists_valueOf htime
    rw [hp]
    exact exists_fieldText hc h _ _ _

end Fitting

/-! ## Values that cannot be made -/

section Failing

variable {v : View} {l : Level} {e : Entry} {c : Compiled} {spec : FieldSpec}

theorem dressed_of_not_fits (h : ¬ Fits spec) (value : String) :
    dressed v l spec value = .error .oversizedWidth := by
  obtain ⟨w, hw⟩ := not_forall.mp h
  obtain ⟨hwidth, hwide⟩ := Classical.not_imp.mp hw
  rw [dressed, sized, hwidth]
  dsimp only
  rw [fillWidth, if_pos (Nat.lt_of_not_le hwide)]

/-- A field that leaves nothing out asks for its width. -/
theorem fieldText_of_not_fits (h : ¬ Fits spec) (hkeeps : spec.ignoreEmpty = false)
    (key value : String) (printKey : Bool) :
    fieldText v l c spec key value printKey = .error .oversizedWidth := by
  have hskip : ¬ isSkipped spec value = true := by
    rw [isSkipped, hkeeps, Bool.false_and]
    exact Bool.false_ne_true
  rw [fieldText, if_neg hskip, dressed_of_not_fits h]

theorem fits_of_fieldValue {t : String} (h : fieldValue v e c spec = .ok t)
    (hkeeps : spec.ignoreEmpty = false) : Fits spec := by
  by_contra hwide
  unfold fieldValue remainingFieldText ownText at h
  split at h
  · -- the list is made first, and then dressed
    split at h
    · simp at h
    · dsimp only at h
      rw [fieldText_of_not_fits hwide hkeeps] at h
      simp at h
  · split at h
    · simp at h
    · rw [fieldText_of_not_fits hwide hkeeps] at h
      simp at h

theorem time_of_fieldValue {t : String} (h : fieldValue v e c spec = .ok t)
    (htime : spec.token = .time) :
    ∃ s, v.options.timeLayout.format e.time (zone v) = .ok s := by
  have hfields : spec.token ≠ .fields := by
    rw [htime]
    decide
  rw [fieldValue, if_neg hfields, ownText, if_neg hfields, valueOf, htime] at h
  dsimp only at h
  cases hformat : v.options.timeLayout.format e.time (zone v) with
  | error fault =>
      rw [hformat] at h
      simp [Except.map] at h
  | ok s => exact ⟨s, rfl⟩

end Failing

/-- Where every width can be filled up to and the time has a written form, every field has a
text. -/
theorem exists_texts {v : View} {e : Entry} {c : Compiled} (hc : FitsAll c)
    (htime : ∃ s, v.options.timeLayout.format e.time (zone v) = .ok s) :
    ∃ ts, texts v e c = .ok ts := by
  cases htexts : texts v e c with
  | ok ts => exact ⟨ts, rfl⟩
  | error fault =>
      obtain ⟨spec, hspec, hfault⟩ := exists_of_texts_eq_error htexts
      obtain ⟨t, ht⟩ := exists_fieldValue hc (hc.fields spec hspec) htime
      rw [ht] at hfault
      simp at hfault

end Hooklog.Line
