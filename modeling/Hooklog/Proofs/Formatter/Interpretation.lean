import Hooklog.Proofs.Formatter.Splice
import Hooklog.Proofs.Formatter.Values
import Hooklog.Proofs.Template.Items
import Hooklog.Proofs.Template.Source

/-!
# Templates read from left to right

What a template shows, said without skeleton and positions: its parts are read from left to
right, each showing its own text at its place.  Rendering, which cuts the template into a
skeleton and splices the values back, shows the same.
-/

namespace Hooklog.Line

open Text Template

/-- Text shown by parts of a template after some bytes of literal text.  Literal characters
show themselves, styles nothing, a placeholder without a name the control sequence of its
colors, and any other placeholder its value. -/
inductive Shows (v : View) (e : Entry) (c : Compiled) (color : Bool) :
    Nat → List Segment → List Char → Prop where
  | nil {offset : Nat} : Shows v e c color offset [] []
  | literal {offset : Nat} {ch : Char} {rest : List Segment} {out : List Char} :
      Shows v e c color (offset + ch.utf8Size) rest out →
      Shows v e c color offset (.literal ch :: rest) (ch :: out)
  | style {offset : Nat} {p : Placeholder} {rest : List Segment} {out : List Char} :
      p.token.isStyle = true → Shows v e c color offset rest out →
      Shows v e c color offset (.placeholder p :: rest) out
  | switch {offset : Nat} {p : Placeholder} {rest : List Segment} {out : List Char} :
      p.token = .unset →
      Shows v e c color (offset + byteLength (p.switchText color)) rest out →
      Shows v e c color offset (.placeholder p :: rest) (p.switchText color ++ out)
  | value {offset : Nat} {p : Placeholder} {text : String} {rest : List Segment}
      {out : List Char} :
      p.token.IsValue →
      fieldValue v e c { p.spec color with position := offset } = .ok text →
      Shows v e c color offset rest out →
      Shows v e c color offset (.placeholder p :: rest) (text.toList ++ out)

section Steps

variable {v : View} {e : Entry} {c : Compiled} {color : Bool} {offset : Nat} {ch : Char}
  {p : Placeholder} {rest : List Segment} {out : List Char}

theorem shows_nil_iff : Shows v e c color offset [] out ↔ out = [] := by
  constructor
  · rintro ⟨⟩
    rfl
  · rintro rfl
    exact .nil

theorem shows_literal_iff :
    Shows v e c color offset (.literal ch :: rest) out ↔
      ∃ later, Shows v e c color (offset + ch.utf8Size) rest later ∧ out = ch :: later := by
  constructor
  · intro h
    cases h with
    | literal hrest => exact ⟨_, hrest, rfl⟩
  · rintro ⟨later, hrest, rfl⟩
    exact .literal hrest

theorem shows_style_iff (hp : p.token.isStyle = true) :
    Shows v e c color offset (.placeholder p :: rest) out ↔
      Shows v e c color offset rest out := by
  constructor
  · intro h
    cases h with
    | style _ hrest => exact hrest
    | switch hunset _ =>
        rw [hunset] at hp
        exact absurd hp (by decide)
    | value hvalue _ _ => exact absurd hp (by rw [hvalue.1]; decide)
  · exact .style hp

theorem shows_switch_iff (hp : p.token = .unset) :
    Shows v e c color offset (.placeholder p :: rest) out ↔
      ∃ later, Shows v e c color (offset + byteLength (p.switchText color)) rest later ∧
        out = p.switchText color ++ later := by
  constructor
  · intro h
    cases h with
    | style hstyle _ =>
        rw [hp] at hstyle
        exact absurd hstyle (by decide)
    | switch _ hrest => exact ⟨_, hrest, rfl⟩
    | value hvalue _ _ => exact absurd hp hvalue.2
  · rintro ⟨later, hrest, rfl⟩
    exact .switch hp hrest

theorem shows_value_iff (hp : p.token.IsValue) :
    Shows v e c color offset (.placeholder p :: rest) out ↔
      ∃ text later, fieldValue v e c { p.spec color with position := offset } = .ok text ∧
        Shows v e c color offset rest later ∧ out = text.toList ++ later := by
  constructor
  · intro h
    cases h with
    | style hstyle _ => exact absurd hstyle (by rw [hp.1]; decide)
    | switch hunset _ => exact absurd hunset hp.2
    | value _ htext hrest => exact ⟨_, _, htext, hrest, rfl⟩
  · rintro ⟨text, later, htext, hrest, rfl⟩
    exact .value hp htext hrest

end Steps

/-! ## Splicing item by item -/

/-- Texts of fields spliced into the literal text of items. -/
def spliced (offset : Nat) (items : List Item) (ts : List String) : List Char :=
  splice offset (skeletonOf items) (((fieldsFrom offset items).map (·.position)).zip ts)

theorem spliced_text (offset : Nat) (s : List Char) (items : List Item) (ts : List String) :
    spliced offset (.text s :: items) ts = s ++ spliced (offset + byteLength s) items ts := by
  apply splice_append
  intro p hp
  obtain ⟨spec, hspec, hposition⟩ := List.mem_map.mp (List.of_mem_zip hp).1
  rw [← hposition]
  exact le_position_of_mem_fieldsFrom hspec

theorem spliced_field (offset : Nat) (spec : FieldSpec) (items : List Item) (t : String)
    (ts : List String) :
    spliced offset (.field spec :: items) (t :: ts) = t.toList ++ spliced offset items ts :=
  splice_here offset (skeletonOf items) t _

theorem spliced_style {p : Placeholder} (hp : p.token.isStyle = true) (color : Bool)
    (offset : Nat) (items : List Item) (ts : List String) :
    spliced offset (Segment.item color (.placeholder p) :: items) ts =
      spliced offset items ts := by
  rcases item_of_style hp color with h | h
  · rw [h]
    rfl
  · rw [h]
    rfl

/-- Reading from left to right shows the texts of the fields spliced into the skeleton. -/
theorem shows_iff {v : View} {e : Entry} {c : Compiled} {color : Bool} {offset : Nat}
    {segs : List Segment} {out : List Char} :
    Shows v e c color offset segs out ↔
      ∃ ts, List.Forall₂ (fun spec t => fieldValue v e c spec = .ok t)
          (fieldsFrom offset (segs.map (Segment.item color))) ts ∧
        out = spliced offset (segs.map (Segment.item color)) ts := by
  -- the texts are those of the fields from here on, so the offset has to vary
  induction segs generalizing offset out with
  | nil =>
      simp only [shows_nil_iff, List.map_nil, fieldsFrom, List.forall₂_nil_left_iff,
        exists_eq_left]
      rfl
  | cons seg rest ih =>
      rw [List.map_cons]
      cases seg with
      | literal ch =>
          rw [shows_literal_iff, Segment.item]
          constructor
          · rintro ⟨later, hrest, rfl⟩
            obtain ⟨ts, hts, rfl⟩ := ih.mp hrest
            exact ⟨ts, hts, (spliced_text offset [ch] _ ts).symm⟩
          · rintro ⟨ts, hts, rfl⟩
            exact ⟨_, ih.mpr ⟨ts, hts, rfl⟩, spliced_text offset [ch] _ ts⟩
      | placeholder p =>
          rcases p.token.kind with hvalue | hunset | hstyle
          · rw [shows_value_iff hvalue, item_of_value hvalue, fieldsFrom]
            constructor
            · rintro ⟨t, later, htext, hrest, rfl⟩
              obtain ⟨ts, hts, rfl⟩ := ih.mp hrest
              exact ⟨t :: ts, .cons htext hts, (spliced_field offset _ _ t ts).symm⟩
            · rintro ⟨ts, hts, rfl⟩
              obtain ⟨t, ts, htext, htail, rfl⟩ := List.forall₂_cons_left_iff.mp hts
              exact ⟨t, _, htext, ih.mpr ⟨ts, htail, rfl⟩, spliced_field offset _ _ t ts⟩
          · rw [shows_switch_iff hunset, item_of_unset hunset]
            constructor
            · rintro ⟨later, hrest, rfl⟩
              obtain ⟨ts, hts, rfl⟩ := ih.mp hrest
              exact ⟨ts, hts, (spliced_text offset _ _ ts).symm⟩
            · rintro ⟨ts, hts, rfl⟩
              exact ⟨_, ih.mpr ⟨ts, hts, rfl⟩, spliced_text offset _ _ ts⟩
          · rw [shows_style_iff hstyle, fieldsFrom_style hstyle]
            simp only [spliced_style hstyle]
            exact ih

/-! ## Rendering -/

theorem render_eq_ok_iff {v : View} {e : Entry} {c : Compiled} {line : String} :
    render v e c = .ok line ↔
      ∃ ts, texts v e c = .ok ts ∧ line = String.ofList
        (splice 0 c.skeleton ((c.fields.map (·.position)).zip ts) ++ ['\n']) := by
  unfold render
  cases htexts : texts v e c with
  | error fault => simp
  | ok ts => simp [eq_comm]

/-- The line of an entry is what the template shows, and a line break. -/
theorem render_ofItems_eq_ok_iff {v : View} {e : Entry} {format line : String} {color : Bool} :
    render v e (.ofItems (items format color)) = .ok line ↔
      ∃ out, Shows v e (.ofItems (items format color)) color 0 (segments format.toList) out ∧
        line = String.ofList (out ++ ['\n']) := by
  simp only [render_eq_ok_iff, texts_eq_ok_iff, shows_iff]
  constructor
  · rintro ⟨ts, hts, rfl⟩
    exact ⟨_, ⟨ts, hts, rfl⟩, rfl⟩
  · rintro ⟨_, ⟨ts, hts, rfl⟩, rfl⟩
    exact ⟨ts, hts, rfl⟩

/-- Rendering a compiled template reads the template from left to right.  A line is made
exactly when every placeholder has a value, which only widths beyond the largest one and times
without a written form prevent: the former wherever a placeholder leaves nothing out, the
latter wherever it shows the time.  The recorded positions are places between characters of
the skeleton, in ascending order. -/
theorem render_reads_template {format : String} {color : Bool} {c : Compiled}
    (hc : compile format color = .ok c) (v : View) (e : Entry) :
    (∀ line, render v e c = .ok line ↔
        ∃ out, Shows v e c color 0 (segments format.toList) out ∧
          line = String.ofList (out ++ ['\n'])) ∧
      (FitsAll c → (∃ s, v.options.timeLayout.format e.time (zone v) = .ok s) →
        ∃ line, render v e c = .ok line) ∧
      (∀ line, render v e c = .ok line → ∀ spec ∈ c.fields,
        (spec.ignoreEmpty = false → Fits spec) ∧
        (spec.token = .time → ∃ s, v.options.timeLayout.format e.time (zone v) = .ok s)) ∧
      (segments format.toList).flatMap Segment.source = format.toList ∧
      (c.fields.Pairwise fun a b => a.position ≤ b.position) ∧
      ∀ spec ∈ c.fields, spec.position ≤ byteLength c.skeleton ∧
        ∃ before after, c.skeleton = before ++ after ∧ spec.position = byteLength before := by
  obtain ⟨-, rfl⟩ := compile_eq_ok_iff.mp hc
  refine ⟨fun line => render_ofItems_eq_ok_iff, fun hfits htime => ?_,
    fun line hline spec hspec => ?_, flatMap_source_segments _, pairwise_fieldsFrom 0 _,
    fun spec hspec => ?_⟩
  · obtain ⟨ts, hts⟩ := exists_texts hfits htime
    exact ⟨_, render_eq_ok_iff.mpr ⟨ts, hts, rfl⟩⟩
  · obtain ⟨ts, hts, -⟩ := render_eq_ok_iff.mp hline
    obtain ⟨t, ht⟩ := exists_fieldValue_of_texts hts hspec
    exact ⟨fits_of_fieldValue ht, time_of_fieldValue ht⟩
  · obtain ⟨before, after, hskeleton, hposition⟩ := position_of_mem_fieldsFrom hspec
    rw [Nat.zero_add] at hposition
    refine ⟨?_, before, after, hskeleton, hposition⟩
    rw [Compiled.ofItems, hskeleton, byteLength_append, hposition]
    exact Nat.le_add_right _ _

/-- View without colors, zone and configuration. -/
def plainView : View where
  color := false
  options := .standard
  settings := .ofConfig .empty ⟨0, 0⟩ false
  baseTime := ⟨0, 0⟩
  last := ⟨0, 0⟩
  painter := fun _ _ => none

/-- Entry with one field. -/
def plainEntry : Entry where
  level := .info
  message := "m"
  time := ⟨0, 0⟩
  moduleName := ""
  fields := .ofList [("k", .text "v")]
  caller := none

theorem eq_ok_of_toOption {ε α : Type} {outcome : Except ε α} {a : α}
    (h : outcome.toOption = some a) : outcome = .ok a := by
  cases outcome with
  | error e => exact absurd h.symm (Option.some_ne_none a)
  | ok b => rw [Option.some.inj h]

/-- The list of fields, which is made last, stands at its own place. -/
theorem render_reads_template_list :
    ∃ c, compile "é%fields%:%message%" false = .ok c ∧
      render plainView plainEntry c = .ok "ék=v:m\n" ∧
      Shows plainView plainEntry c false 0 (segments "é%fields%:%message%".toList)
        ['é', 'k', '=', 'v', ':', 'm'] := by
  have hc : compile "é%fields%:%message%" false =
      .ok (.ofItems (items "é%fields%:%message%" false)) :=
    compile_eq_ok_iff.mpr ⟨by decide +kernel, rfl⟩
  have hline : render plainView plainEntry (.ofItems (items "é%fields%:%message%" false)) =
      .ok "ék=v:m\n" :=
    eq_ok_of_toOption (by decide +kernel)
  obtain ⟨out, hshows, hout⟩ :=
    ((render_reads_template hc plainView plainEntry).1 "ék=v:m\n").mp hline
  have hchars : out ++ ['\n'] = ['é', 'k', '=', 'v', ':', 'm'] ++ ['\n'] :=
    (String.ofList_inj.mp hout).symm
  rw [List.append_cancel_right hchars] at hshows
  exact ⟨_, hc, hline, hshows⟩

/-- A template with a width that no text can be filled up to compiles, and no entry has a line
under it. -/
theorem render_wide_message :
    ∃ c, compile "%70000message%" false = .ok c ∧
      ∀ (v : View) (e : Entry) (line : String), render v e c ≠ .ok line := by
  have hitems : items "%70000message%" false =
      [.field { FieldSpec.plain .message false with width := some 70000 }] := by
    decide +kernel
  refine ⟨_, compile_eq_ok_iff.mpr ⟨by decide +kernel, rfl⟩, fun v e line hline => ?_⟩
  rw [hitems] at hline
  obtain ⟨ts, hts, -⟩ := render_eq_ok_iff.mp hline
  obtain ⟨t, -, htext, -, -⟩ := List.forall₂_cons_left_iff.mp (texts_eq_ok_iff.mp hts)
  exact absurd htext (by intro h; cases h)

end Hooklog.Line
