import Hooklog.Proofs.Formatter.Decoration
import Hooklog.Proofs.Formatter.Passes

/-!
# Whole lines

A line in colors is made of texts without an escape character and of the control sequences that
painting puts around them.  As long as every pass leaves the sequences of its value alone, every
value is whole, and so is the line.  Two kinds of passes can fail to do so: those of the style of
values, and those of the lists of remaining fields.  Both dress text that is painted already.

* `Line.Clean` is what every function of the rendering keeps.
* `TextFormatter.whole_write_iff` is the main statement.
-/

namespace Hooklog

open Text Sgr Template

namespace Line

theorem ne_escape_of_isPlain (ch : Char) (h : IsPlain ch) : ch ≠ escape := by
  rintro rfl
  exact h.1 rfl

theorem escape_notMem {s : String} (h : MadeOf (· ≠ escape) s) : escape ∉ s.toList :=
  fun hmem => h escape hmem rfl

theorem whole_joinWith {sep : String} (hsep : escape ∉ sep.toList) {texts : List String}
    (h : ∀ t ∈ texts, Whole t.toList) : Whole (Text.joinWith sep texts).toList :=
  joinWith_induction (whole_of_notMem List.not_mem_nil) (fun _ _ hs ht => hs.append ht)
    (whole_of_notMem hsep) h

/-- An outcome of passes: if all of them are intact, the text is whole, and every value was whole
and has got its size. -/
def Clean (v : View) (ps : List Pass) (outcome : Except Fault String) : Prop :=
  ∀ s, outcome = .ok s → (∀ p ∈ ps, p.Intact v) → Whole s.toList ∧ ∀ p ∈ ps, p.Proper v

section Texts

variable {v : View} {l : Level} {e : Entry} {c : Compiled} {spec : FieldSpec}
  {key value : String}

theorem clean_text {s : String} (h : Whole s.toList) : Clean v [] (.ok s) := by
  intro t ht _
  obtain rfl := Except.ok.inj ht
  exact ⟨h, List.forall_mem_nil _⟩

theorem clean_empty : Clean v [] (.ok "") := clean_text (whole_of_notMem List.not_mem_nil)

/-! ## One function after the other -/

theorem whole_of_plainText {s : List Char} (h : PlainText s) : Whole s :=
  whole_of_notMem fun hmem => ne_escape_of_isPlain escape (h escape hmem) rfl

theorem whole_framed {s : List Char} (h : Whole s) : Whole (framed spec s) := by
  obtain ⟨left, right, hleft, hright, hframed⟩ := exists_frame spec
  rw [hframed]
  exact (whole_of_plainText hleft).append (h.append (whole_of_plainText hright))

theorem whole_painted (hv : v.Colored) {s : List Char} (h : Whole s) :
    Whole (painted v l spec s).toList := by
  unfold painted
  split
  · rename_i opening hopening
    obtain ⟨attributes, hne, rfl⟩ := hv.painter spec l opening hopening
    rw [String.toList_append, String.toList_append, String.toList_ofList]
    exact h.paint hne
  · rw [String.toList_ofList]
    exact h

theorem clean_dressed (hv : v.Colored) (hvalue : Whole value.toList) :
    Clean v [⟨spec, value⟩] (dressed v l spec value) := by
  intro out hout hintact
  obtain ⟨qs, hqs⟩ := hvalue.exists_holds
  unfold dressed at hout
  split at hout
  · rename_i s hs
    obtain rfl := Except.ok.inj hout
    have hholds : Holds qs s := hintact _ List.mem_cons_self qs s hqs hs
    exact ⟨whole_painted hv (whole_framed hholds.whole),
      List.forall_mem_singleton.mpr ⟨hvalue, s, hs⟩⟩
  · simp at hout

theorem clean_styled (hv : v.Colored) (hvalue : Whole value.toList) :
    Clean v (styledPasses spec value) (styled v l spec value) := by
  unfold styled styledPasses
  split
  · exact clean_empty
  · exact clean_dressed hv hvalue

theorem escape_notMem_equals (hkey : escape ∉ key.toList) : escape ∉ (key ++ "=").toList := by
  rw [String.toList_append, List.mem_append, not_or]
  exact ⟨hkey, by decide⟩

theorem clean_styledPair (hv : v.Colored) (hkey : escape ∉ key.toList)
    (hvalue : Whole value.toList) :
    Clean v (styledPairPasses c key value) (styledPair v l c key value) := by
  intro s hs hintact
  obtain ⟨hkeys, hvalues⟩ := List.forall_mem_append.mp hintact
  obtain ⟨k, w, hk, hw, rfl⟩ := exists_of_styledPair hs
  obtain ⟨hkWhole, hkProper⟩ :=
    clean_styled hv (whole_of_notMem (escape_notMem_equals hkey)) k hk hkeys
  obtain ⟨hwWhole, hwProper⟩ := clean_styled hv hvalue w hw hvalues
  rw [String.toList_append]
  exact ⟨hkWhole.append hwWhole, List.forall_mem_append.mpr ⟨hkProper, hwProper⟩⟩

theorem clean_attached (hv : v.Colored) (hkey : escape ∉ key.toList)
    (hvalue : Whole value.toList) (printKey : Bool) :
    Clean v (attachedPasses c spec key value printKey)
      (attached v l c spec key value printKey) := by
  have hequals := whole_of_notMem (escape_notMem_equals hkey)
  unfold attached attachedPasses
  cases spec.plainKey <;> cases printKey
  · exact clean_styled hv hvalue
  · exact clean_styledPair hv hkey hvalue
  · exact clean_text hvalue
  · refine clean_text ?_
    rw [String.toList_append]
    exact hequals.append hvalue

theorem clean_fieldText (hv : v.Colored) (hkey : escape ∉ key.toList)
    (hvalue : Whole value.toList) (printKey : Bool) :
    Clean v (fieldPasses v l c spec key value printKey)
      (fieldText v l c spec key value printKey) := by
  cases hskip : isSkipped spec value with
  | true =>
      rw [fieldText, fieldPasses, hskip, if_pos rfl, if_pos rfl]
      exact clean_empty
  | false =>
      intro s hs hintact
      obtain ⟨t, ht, hattached⟩ := exists_of_fieldText hs hskip
      rw [fieldPasses, hskip, if_neg Bool.false_ne_true, ht] at hintact ⊢
      obtain ⟨hfirst, hrest⟩ := List.forall_mem_cons.mp hintact
      -- what is attached gets the text that has just been painted
      obtain ⟨htWhole, htProper⟩ :=
        clean_dressed hv hvalue t ht (List.forall_mem_singleton.mpr hfirst)
      obtain ⟨hsWhole, hsProper⟩ := clean_attached hv hkey htWhole printKey s hattached hrest
      exact ⟨hsWhole, List.forall_mem_cons.mpr
        ⟨List.forall_mem_singleton.mp htProper, hsProper⟩⟩

theorem clean_remainingText (hv : v.Colored) (h : InputOf (· ≠ escape) v e)
    {p : String × FieldValue} (hp : p ∈ e.fields.toList) :
    Clean v (remainingPasses c spec p) (remainingText v l c spec p) := by
  have hkey := escape_notMem (h.fieldKey p hp)
  have hvalue := whole_of_notMem
    (escape_notMem (madeOf_toText ne_escape_of_isPlain (h.fieldText p hp)))
  unfold remainingText remainingPasses
  split
  · refine clean_text ?_
    rw [Fields.pairText, String.toList_append]
    exact (whole_of_notMem (escape_notMem_equals hkey)).append hvalue
  · exact clean_styledPair hv hkey hvalue

theorem mem_fields_of_mem_remaining {p : String × FieldValue} (hp : p ∈ remaining c e spec) :
    p ∈ e.fields.toList :=
  List.mem_of_mem_filter hp

theorem clean_remainingFieldText (hv : v.Colored) (h : InputOf (· ≠ escape) v e) :
    Clean v (listPasses v e c spec) (remainingFieldText v e c spec) := by
  intro s hs hintact
  obtain ⟨parts, hparts, hlist⟩ := remainingFieldText_eq_ok_iff.mp hs
  rw [listPasses, hparts] at hintact ⊢
  obtain ⟨hmembers, hown⟩ := List.forall_mem_append.mp hintact
  -- what is known of a member is known of its part, and of its passes
  have hmember : ∀ p ∈ remaining c e spec, ∀ t, remainingText v e.level c spec p = .ok t →
      Whole t.toList ∧ ∀ q ∈ remainingPasses c spec p, q.Proper v := fun p hp t ht =>
    clean_remainingText hv h (mem_fields_of_mem_remaining hp) t ht fun q hq =>
      hmembers q (List.mem_flatMap.mpr ⟨p, hp, hq⟩)
  have hwhole : ∀ t ∈ parts, Whole t.toList := by
    intro t ht
    obtain ⟨p, hp, htext⟩ := exists_of_mem_allOk hparts ht
    exact (hmember p hp t htext).1
  obtain ⟨hsWhole, hsProper⟩ :=
    clean_fieldText hv (by decide) (whole_joinWith (by decide) hwhole) _ s hlist hown
  refine ⟨hsWhole, List.forall_mem_append.mpr ⟨fun q hq => ?_, hsProper⟩⟩
  obtain ⟨p, hp, hq⟩ := List.mem_flatMap.mp hq
  obtain ⟨t, -, ht⟩ := exists_of_allOk hparts hp
  exact (hmember p hp t ht).2 q hq

theorem clean_value (hv : v.Colored) (h : InputOf (· ≠ escape) v e)
    (hkey : escape ∉ spec.token.key.toList) :
    Clean v (passesOf v e c spec) (fieldValue v e c spec) := by
  unfold passesOf fieldValue
  split
  · exact clean_remainingFieldText hv h
  · rename_i htoken
    rw [ownText, if_neg htoken, valuePasses]
    cases hvalue : valueOf v e spec with
    | error fault =>
        intro s hs
        simp at hs
    | ok value =>
        have hwhole := whole_of_notMem
          (escape_notMem (madeOf_valueOf ne_escape_of_isPlain h hvalue))
        exact clean_fieldText hv hkey hwhole _

/-- If all passes of a line are intact, the texts of all fields are whole. -/
theorem clean_texts (hv : v.Colored) (h : InputOf (· ≠ escape) v e)
    (hkeys : ∀ spec ∈ c.fields, escape ∉ spec.token.key.toList) {ts : List String}
    (hts : texts v e c = .ok ts) (hintact : ∀ p ∈ passes v e c, p.Intact v) :
    (∀ t ∈ ts, Whole t.toList) ∧ ∀ p ∈ passes v e c, p.Proper v := by
  rw [forall_mem_passes_iff] at hintact ⊢
  have hclean : ∀ spec ∈ c.fields, ∀ t, fieldValue v e c spec = .ok t →
      Whole t.toList ∧ ∀ p ∈ passesOf v e c spec, p.Proper v := fun spec hspec t ht =>
    clean_value hv h (hkeys spec hspec) t ht (hintact spec hspec)
  constructor
  · intro t ht
    obtain ⟨spec, hspec, htext⟩ :=
      exists_of_mem_allOk (allOk_eq_ok_iff.mpr (texts_eq_ok_iff.mp hts)) ht
    exact (hclean spec hspec t htext).1
  · intro spec hspec
    obtain ⟨t, ht⟩ := exists_fieldValue_of_texts hts hspec
    exact (hclean spec hspec t ht).2

/-! ## Passes that spare sequences in any line -/

variable (hstyle : c.valueStyle.Gentle)

theorem spares_styled {style : FieldSpec} (h : escape ∉ value.toList ∨ style.Gentle) :
    ∀ p ∈ styledPasses style value, p.Spares := by
  unfold styledPasses
  split
  · exact List.forall_mem_nil _
  · refine List.forall_mem_singleton.mpr ?_
    rcases h with h | h
    · exact Pass.spares_of_notMem h
    · exact Pass.spares_of_gentle h

include hstyle

theorem spares_styledPair (hkey : escape ∉ key.toList) :
    ∀ p ∈ styledPairPasses c key value, p.Spares :=
  List.forall_mem_append.mpr
    ⟨spares_styled (Or.inl (escape_notMem_equals hkey)), spares_styled (Or.inr hstyle)⟩

theorem spares_attached (hkey : escape ∉ key.toList) (printKey : Bool) :
    ∀ p ∈ attachedPasses c spec key value printKey, p.Spares := by
  unfold attachedPasses
  split
  · exact List.forall_mem_nil _
  · split
    · exact spares_styledPair hstyle hkey
    · exact spares_styled (Or.inr hstyle)

theorem spares_fieldText (hkey : escape ∉ key.toList)
    (h : escape ∉ value.toList ∨ spec.Gentle) (printKey : Bool) :
    ∀ p ∈ fieldPasses v l c spec key value printKey, p.Spares := by
  unfold fieldPasses
  split
  · exact List.forall_mem_nil _
  · refine List.forall_mem_cons.mpr ⟨?_, ?_⟩
    · rcases h with h | h
      · exact Pass.spares_of_notMem h
      · exact Pass.spares_of_gentle h
    · split
      · exact spares_attached hstyle hkey printKey
      · exact List.forall_mem_nil _

theorem spares_value (h : InputOf (· ≠ escape) v e) (hkey : escape ∉ spec.token.key.toList) :
    ∀ p ∈ valuePasses v e c spec, p.Spares := by
  unfold valuePasses
  split
  · rename_i value hvalue
    have hnone := escape_notMem (madeOf_valueOf ne_escape_of_isPlain h hvalue)
    exact spares_fieldText hstyle hkey (Or.inl hnone) _
  · exact List.forall_mem_nil _

theorem spares_list (h : InputOf (· ≠ escape) v e) (hspec : spec.Gentle) :
    ∀ p ∈ listPasses v e c spec, p.Spares := by
  refine List.forall_mem_append.mpr ⟨fun q hq => ?_, ?_⟩
  · obtain ⟨p, hp, hq⟩ := List.mem_flatMap.mp hq
    have hkey := escape_notMem (h.fieldKey p (mem_fields_of_mem_remaining hp))
    unfold remainingPasses at hq
    split at hq
    · exact absurd hq List.not_mem_nil
    · exact spares_styledPair hstyle hkey q hq
  · split
    · exact spares_fieldText hstyle (by decide) (Or.inr hspec) _
    · exact List.forall_mem_nil _

theorem spares_passes (h : InputOf (· ≠ escape) v e)
    (hkeys : ∀ spec ∈ c.fields, escape ∉ spec.token.key.toList)
    (hlists : ∀ spec ∈ c.fields, spec.token = .fields → spec.Gentle) :
    ∀ p ∈ passes v e c, p.Spares := by
  refine (forall_mem_passes_iff v e c).mpr fun spec hspec => ?_
  unfold passesOf
  split
  · rename_i htoken
    exact spares_list hstyle h (hlists spec hspec htoken)
  · exact spares_value hstyle h (hkeys spec hspec)

end Texts

/-! ## The line -/

theorem whole_switchText (p : Placeholder) (color : Bool) : Whole (p.switchText color) := by
  unfold Placeholder.switchText
  split
  · rename_i hcolors
    exact (isSequence_opening hcolors.2).whole
  · exact whole_of_notMem List.not_mem_nil

/-- Whole texts spliced into literal text without an escape character. -/
theorem whole_spliced {segs : List Segment}
    (hliteral : .literal escape ∉ segs) {color : Bool} {n : Nat}
    {ts : List String} (hts : ∀ t ∈ ts, Whole t.toList)
    (hlength : (fieldsFrom n (segs.map (Segment.item color))).length = ts.length) :
    Whole (spliced n (segs.map (Segment.item color)) ts) := by
  induction segs generalizing n ts with
  | nil => exact whole_of_notMem List.not_mem_nil
  | cons seg rest ih =>
      rw [List.mem_cons, not_or] at hliteral
      obtain ⟨hseg, hrest⟩ := hliteral
      rw [List.map_cons] at hlength ⊢
      cases seg with
      | literal ch =>
          have hch : Whole [ch] := whole_of_notMem fun hmem =>
            hseg (congrArg Segment.literal (List.mem_singleton.mp hmem))
          rw [Segment.item, spliced_text]
          exact hch.append (ih hrest hts hlength)
      | placeholder p =>
          rcases p.token.kind with hvalue | hunset | hstyle
          · rw [item_of_value hvalue, fieldsFrom, List.length_cons] at hlength
            rw [item_of_value hvalue]
            -- there is a text for this field, since there are as many as fields
            cases ts with
            | nil => exact absurd hlength (Nat.succ_ne_zero _)
            | cons t ts =>
                obtain ⟨ht, hmore⟩ := List.forall_mem_cons.mp hts
                rw [spliced_field]
                exact ht.append (ih hrest hmore (Nat.succ.inj hlength))
          · rw [item_of_unset hunset] at hlength
            rw [item_of_unset hunset, spliced_text]
            exact (whole_switchText p color).append (ih hrest hts hlength)
          · rw [fieldsFrom_style hstyle] at hlength
            rw [spliced_style hstyle]
            exact ih hrest hts hlength

theorem escape_notMem_key {format : String} {color : Bool} {c : Compiled}
    (hc : compile format color = .ok c) : ∀ spec ∈ c.fields, escape ∉ spec.token.key.toList := by
  obtain ⟨-, rfl⟩ := compile_eq_ok_iff.mp hc
  intro spec hspec
  obtain ⟨p, _, hp, rfl⟩ := exists_placeholder_of_mem_fieldsFrom hspec
  have hplain : Plain (p.spec color).token.key := by
    rw [p.spec_token]
    exact (named_of_mem_segments hp).plain_key
  exact escape_notMem (madeOf_of_plain ne_escape_of_isPlain hplain)

/-- If all passes of a line are intact, the line is whole. -/
theorem whole_render {v : View} {e : Entry} {format : String} {color : Bool} {c : Compiled}
    {line : String} (hv : v.Colored) (hc : compile format color = .ok c)
    (hliteral : .literal escape ∉ segments format.toList)
    (h : InputOf (· ≠ escape) v e) (hline : render v e c = .ok line)
    (hintact : ∀ p ∈ passes v e c, p.Intact v) :
    Whole line.toList ∧ ∀ p ∈ passes v e c, p.Proper v := by
  obtain ⟨ts, hts, rfl⟩ := render_eq_ok_iff.mp hline
  obtain ⟨hwhole, hproper⟩ := clean_texts hv h (escape_notMem_key hc) hts hintact
  refine ⟨?_, hproper⟩
  obtain ⟨-, rfl⟩ := compile_eq_ok_iff.mp hc
  rw [String.toList_ofList]
  exact (whole_spliced hliteral hwhole (texts_eq_ok_iff.mp hts).length_eq).append
    (whole_of_notMem (by decide))

end Line

namespace TextFormatter

open Line

/-- The line of a formatter in colors, made of parts without an escape character, is whole and no
pass changes a sequence in the text it is given, exactly if no pass puts painted text in upper
case and no limit of a pass cuts a sequence or stands before one.  This is so in every line if
neither the style of values nor a list of remaining fields has upper case or a limit. -/
theorem whole_write_iff {f : TextFormatter} {s : Settings} {e : Entry} {c : Compiled}
    (hc : Template.compile f.format true = .ok c)
    (hliteral : .literal escape ∉ segments f.format.toList)
    (hinput : InputOf (· ≠ escape) (f.colorView s) e) {line : String}
    (hline : ((f.setColor true).write s e).1 = .ok line) :
    ((Whole line.toList ∧ ∀ p ∈ passes (f.colorView s) e c, p.Intact (f.colorView s)) ↔
        ∀ p ∈ passes (f.colorView s) e c, p.Spares) ∧
      (c.valueStyle.Gentle → (∀ spec ∈ c.fields, spec.token = .fields → spec.Gentle) →
        Whole line.toList ∧ ∀ p ∈ passes (f.colorView s) e c, p.Intact (f.colorView s)) := by
  have hv := f.colored_colorView s
  have hrender : render (f.colorView s) e c = .ok line := by
    rw [write_setColor hc] at hline
    split at hline
    · simp at hline
    · rename_i rendered hrendered
      rw [← Except.ok.inj hline]
      exact hrendered
  have hwhole : (∀ p ∈ passes (f.colorView s) e c, p.Spares) →
      Whole line.toList ∧ ∀ p ∈ passes (f.colorView s) e c, p.Intact (f.colorView s) := by
    intro hspares
    have hintact : ∀ p ∈ passes (f.colorView s) e c, p.Intact (f.colorView s) :=
      fun p hp => (hspares p hp).intact hv.color
    exact ⟨(whole_render hv hc hliteral hinput hrender hintact).1, hintact⟩
  refine ⟨⟨fun ⟨_, hintact⟩ p hp => ?_, hwhole⟩, fun hstyle hlists => ?_⟩
  · have hproper := (whole_render hv hc hliteral hinput hrender hintact).2 p hp
    exact hproper.spares hv.color (hintact p hp)
  · exact hwhole (spares_passes hstyle hinput (escape_notMem_key hc) hlists)

/-- Formatter of a template. -/
def ofFormat (format : String) : TextFormatter := .new false [format] ⟨0, 0⟩

theorem inputOf_ofFormat (format : String) :
    InputOf (· ≠ escape) ((ofFormat format).colorView plainView.settings) plainEntry :=
  inputOf_plainEntry ne_escape_of_isPlain rfl

/-- Title case and a width in the style of values, upper case and a limit of a field itself. -/
def titleStyle : TextFormatter := ofFormat "%14field:title,blue%%.1message:upper,red%"

/-- These change nothing but the text between the sequences. -/
theorem whole_write_iff_title :
    ∃ c, Template.compile titleStyle.format true = .ok c ∧
      .literal escape ∉ segments titleStyle.format.toList ∧
      InputOf (· ≠ escape) (titleStyle.colorView plainView.settings) plainEntry ∧
      ((titleStyle.setColor true).write plainView.settings plainEntry).1 =
        .ok "\x1b[34m    \x1b[31mM\x1b[0m\x1b[0m\n" ∧
      Whole "\x1b[34m    \x1b[31mM\x1b[0m\x1b[0m\n".toList := by
  have hc : Template.compile titleStyle.format true =
      .ok (.ofItems (items titleStyle.format true)) :=
    compile_eq_ok_iff.mpr ⟨by decide +kernel, rfl⟩
  have hliteral : .literal escape ∉ segments titleStyle.format.toList := by decide +kernel
  have hinput := inputOf_ofFormat "%14field:title,blue%%.1message:upper,red%"
  have hline : ((titleStyle.setColor true).write plainView.settings plainEntry).1 =
      .ok "\x1b[34m    \x1b[31mM\x1b[0m\x1b[0m\n" :=
    eq_ok_of_toOption (by decide +kernel)
  have hwhole :=
    (whole_write_iff hc hliteral hinput hline).2 (by decide +kernel) (by decide +kernel)
  exact ⟨_, hc, hliteral, hinput, hline, hwhole.1⟩

/-- A line in colors that is not whole, although none of its parts holds an escape character. -/
def Breaks (f : TextFormatter) (line : String) : Prop :=
  (∃ c, Template.compile f.format true = .ok c) ∧
    .literal escape ∉ segments f.format.toList ∧
    InputOf (· ≠ escape) (f.colorView plainView.settings) plainEntry ∧
    ((f.setColor true).write plainView.settings plainEntry).1 = .ok line ∧ ¬ Whole line.toList

/-- Upper case in the style of values alters the sequences of a painted message, a limit in it cuts
them, and so does a limit of the list of remaining fields. -/
theorem sequences_altered_and_cut :
    Breaks (ofFormat "%field:upper%%message:red%") "\x1b[31MM\x1b[0M\n" ∧
      Breaks (ofFormat "%.3field%%message:red%") "\x1b[3\n" ∧
      Breaks (ofFormat "%.4fields%") "\x1b[34\n" := by
  have hbreaks : ∀ format line, faults (ofFormat format).format = [] →
      .literal escape ∉ segments (ofFormat format).format.toList →
      (((ofFormat format).setColor true).write plainView.settings plainEntry).1.toOption =
        some line →
      escape ∈ line.toList → 'm' ∉ line.toList → Breaks (ofFormat format) line :=
    fun format line hfaults hliteral hline hescape hletter =>
      ⟨⟨_, compile_eq_ok_iff.mpr ⟨hfaults, rfl⟩⟩, hliteral, inputOf_ofFormat format,
        eq_ok_of_toOption hline, not_whole_of_notMem hescape hletter⟩
  refine ⟨hbreaks _ _ ?_ ?_ ?_ ?_ ?_, hbreaks _ _ ?_ ?_ ?_ ?_ ?_, hbreaks _ _ ?_ ?_ ?_ ?_ ?_⟩ <;>
    decide +kernel

end TextFormatter

end Hooklog
