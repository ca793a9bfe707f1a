import Hooklog.Proofs.Formatter.Building
import Hooklog.Proofs.Formatter.Remaining
import Hooklog.Proofs.Formatter.Slicing

/-!
# Renderings that stop

Where every time has a written form, a rendering can be stopped by nothing but a width that no text
can be filled up to.  This module says of templates which widths those are, and that a rendering
that was stopped leaves nothing behind that could be seen later.

* `AllFit` and `IsTooWide` speak of the placeholders of a template.
* `Line.fault_of_fieldValue` goes through everything that a rendering does and says what can stop
  it.
* `TextFormatter.Shadows` relates a formatter to one that has been stopped; every further operation
  answers alike on both and keeps the relation.
* `TextFormatter.write_stops_by_width` is the main statement.
-/

namespace Hooklog

open Template

namespace Template

/-- A placeholder without a width, or with one that a text can be filled up to. -/
def Placeholder.Fits (p : Placeholder) : Prop :=
  ∀ w, p.width.bind (Decimal.readWithin? widthBounds) = some w → w.natAbs ≤ maxWidth

/-- A template all of whose widths can be filled up to, those of its styles included. -/
def AllFit (format : String) : Prop := ∀ p, .placeholder p ∈ segments format.toList → p.Fits

instance (p : Placeholder) : Decidable p.Fits :=
  inferInstanceAs (Decidable (∀ w ∈ p.width.bind (Decimal.readWithin? widthBounds),
    w.natAbs ≤ maxWidth))

/-- A template with a value that is never left out and is too wide. -/
def IsTooWide (format : String) : Prop :=
  ∃ p, .placeholder p ∈ segments format.toList ∧ p.token.IsValue ∧ ¬p.Ignores ∧ ¬p.Fits

end Template

namespace Line

/-! ## What stops a rendering -/

section Faults

variable {v : View} {l : Level} {e : Entry} {c : Compiled} {spec : FieldSpec} {fault : Fault}

theorem fault_of_sized {s : List Char} (h : sized spec s = .error fault) :
    fault = .oversizedWidth := by
  unfold sized fillWidth at h
  cases hwidth : spec.width with
  | none =>
      rw [hwidth] at h
      simp at h
  | some w =>
      rw [hwidth] at h
      dsimp only at h
      split at h
      · exact (Except.error.inj h).symm
      · simp at h

theorem fault_of_dressed {value : String} (h : dressed v l spec value = .error fault) :
    fault = .oversizedWidth := by
  unfold dressed at h
  split at h
  · simp at h
  · rename_i hsized
    exact fault_of_sized (hsized.trans (congrArg _ (Except.error.inj h)))

theorem fault_of_styled {value : String} (h : styled v l spec value = .error fault) :
    fault = .oversizedWidth := by
  unfold styled at h
  split at h
  · simp at h
  · exact fault_of_dressed h

theorem fault_of_styledPair {key value : String} (h : styledPair v l c key value = .error fault) :
    fault = .oversizedWidth := by
  unfold styledPair at h
  split at h
  · rename_i hkey
    exact fault_of_styled (hkey.trans h)
  · split at h
    · rename_i hvalue
      exact fault_of_styled (hvalue.trans h)
    · simp at h

theorem fault_of_fieldText {key value : String} {printKey : Bool}
    (h : fieldText v l c spec key value printKey = .error fault) : fault = .oversizedWidth := by
  unfold fieldText attached at h
  split at h
  · simp at h
  · split at h
    · split at h
      · split at h
        · simp at h
        · exact fault_of_styledPair h
      · split at h
        · simp at h
        · exact fault_of_styled h
    · rename_i hdressed
      exact fault_of_dressed (hdressed.trans h)

theorem fault_of_remainingFieldText (h : remainingFieldText v e c spec = .error fault) :
    fault = .oversizedWidth := by
  unfold remainingFieldText at h
  split at h
  · rename_i hparts
    rw [Except.error.inj h] at hparts
    obtain ⟨p, -, hpart⟩ := exists_of_allOk_eq_error hparts
    unfold remainingText at hpart
    split at hpart
    · simp at hpart
    · exact fault_of_styledPair hpart
  · exact fault_of_fieldText h

/-- A value is stopped by a width or by a time without a written form. -/
theorem fault_of_fieldValue (htime : ∃ s, v.options.timeLayout.format e.time (zone v) = .ok s)
    (h : fieldValue v e c spec = .error fault) : fault = .oversizedWidth := by
  unfold fieldValue ownText at h
  obtain ⟨value, hvalue⟩ : ∃ p, valueOf v e spec = .ok p := exists_valueOf htime
  rw [hvalue] at h
  split at h
  · exact fault_of_remainingFieldText h
  · exact fault_of_fieldText h

end Faults

theorem fitsAll_ofItems {format : String} (h : AllFit format) (color : Bool) :
    FitsAll (.ofItems (items format color)) where
  fields := by
    intro spec hspec
    obtain ⟨p, position, hp, rfl⟩ := exists_placeholder_of_mem_fieldsFrom hspec
    exact h p hp
  keyStyle := by
    rw [Compiled.ofItems, items, styleAfter_eq Token.isStyle_keyStyle]
    exact lastSpec_induction (by simp [Fits, defaultKeyStyle, FieldSpec.plain])
      fun p hp => h p (mem_placeholdersOf_iff.mp hp).1
  valueStyle := by
    rw [Compiled.ofItems, items, styleAfter_eq Token.isStyle_valueStyle]
    exact lastSpec_induction (by simp [Fits, defaultValueStyle, FieldSpec.plain])
      fun p hp => h p (mem_placeholdersOf_iff.mp hp).1

section Rendering

variable {v : View} {e : Entry} {format : String} {color : Bool} {c : Compiled}
  (hc : compile format color = .ok c)

include hc

theorem exists_render (h : AllFit format)
    (htime : ∃ s, v.options.timeLayout.format e.time (zone v) = .ok s) :
    ∃ line, render v e c = .ok line := by
  obtain ⟨-, rfl⟩ := compile_eq_ok_iff.mp hc
  obtain ⟨ts, hts⟩ := exists_texts (fitsAll_ofItems h color) htime
  exact ⟨_, render_eq_ok_iff.mpr ⟨ts, hts, rfl⟩⟩

/-- A template that is too wide stops every rendering. -/
theorem render_of_isTooWide (h : IsTooWide format) :
    ∃ fault, render v e c = .error fault ∧
      ((∃ s, v.options.timeLayout.format e.time (zone v) = .ok s) → fault = .oversizedWidth) := by
  obtain ⟨-, rfl⟩ := compile_eq_ok_iff.mp hc
  obtain ⟨p, hp, hvalue, hkeeps, hwide⟩ := h
  obtain ⟨position, hspec⟩ := exists_mem_fieldsFrom hp hvalue color 0
  cases htexts : texts v e (.ofItems (items format color)) with
  | error fault =>
      refine ⟨fault, by rw [render, htexts], fun htime => ?_⟩
      obtain ⟨spec, -, hfault⟩ := exists_of_texts_eq_error htexts
      exact fault_of_fieldValue htime hfault
  | ok ts =>
      obtain ⟨t, ht⟩ := exists_fieldValue_of_texts htexts hspec
      have hempty : (p.spec color).ignoreEmpty = false := by
        rw [← Bool.not_eq_true, p.ignoreEmpty_spec color]
        exact hkeeps
      exact absurd (fits_of_fieldValue ht hempty) hwide

end Rendering

end Line

/-! ## Operations on a formatter -/

/-- Anything that can be done with a formatter: a call, or building it further. -/
inductive FormatterOperation where
  | call (c : FormatterCall)
  | build (o : FormatterOption)

/-- The time of an entry has a written form in the layout and the zone in force. -/
def ForgetfulFormatter.Timely (f : ForgetfulFormatter) (s : Settings) (e : Entry) : Prop :=
  ∃ text, f.options.timeLayout.format e.time (Line.zone (f.view s)) = .ok text

/-- A call that keeps the template keeps what it is compiled from. -/
theorem ForgetfulFormatter.template_performWith (f : ForgetfulFormatter)
    (painter : FieldSpec → Level → Option String) {c : FormatterCall} (hc : c.replaces = false) :
    (f.performWith painter c).2.format = f.format ∧
      (f.performWith painter c).2.color = f.color := by
  cases c with
  | setTimeLayout layout =>
      simp only [performWith, perform]
      cases layout.validate <;> exact ⟨rfl, rfl⟩
  | write s e =>
      simp only [performWith, writeWith]
      cases Template.compile f.format f.color with
      | error error => exact ⟨rfl, rfl⟩
      | ok c => dsimp only; split <;> exact ⟨rfl, rfl⟩
  | setFormat _ => exact absurd hc (by simp [FormatterCall.replaces])
  | setColor _ => exact absurd hc (by simp [FormatterCall.replaces])
  | setPalette _ => exact absurd hc (by simp [FormatterCall.replaces])
  | _ => exact ⟨rfl, rfl⟩

/-- Under a template that is too wide every entry stops, with any control sequences. -/
theorem ForgetfulFormatter.writeWith_of_isTooWide {f : ForgetfulFormatter} {c : Compiled}
    (hc : Template.compile f.format f.color = .ok c) (hwide : IsTooWide f.format)
    (painter : FieldSpec → Level → Option String) (s : Settings) (e : Entry) :
    ∃ fault, f.writeWith painter s e = (.error (.stopped fault), f) ∧
      (f.Timely s e → fault = .oversizedWidth) := by
  obtain ⟨fault, hfault, htime⟩ :=
    Line.render_of_isTooWide (v := (f.view s).repainted painter) (e := e) hc hwide
  refine ⟨fault, ?_, htime⟩
  rw [writeWith, hc]
  dsimp only
  rw [hfault]

namespace TextFormatter

/-- What operations answer one after the other, each with what can be read of the formatter
afterwards.  Where building fails there is no formatter any more. -/
def answers : TextFormatter → List FormatterOperation →
    List (FormatterAnswer × Option ForgetfulFormatter)
  | _, [] => []
  | f, .call c :: rest =>
      ((f.perform c).1, some (f.perform c).2.forgetful) :: (f.perform c).2.answers rest
  | f, .build o :: rest =>
      match f.build o with
      | .error error => [(.result (.error error), none)]
      | .ok built => (.result (.ok ()), some built.forgetful) :: built.answers rest

/-- Along some operations the time of every entry has a written form. -/
def TimelyRun : TextFormatter → List FormatterOperation → Prop
  | _, [] => True
  | f, .call c :: rest =>
      (∀ s e, c = .write s e → f.forgetful.Timely s e) ∧ (f.perform c).2.TimelyRun rest
  | f, .build o :: rest => ∀ built, f.build o = .ok built → built.TimelyRun rest

/-- A formatter that keeps nothing at first, after any operations. -/
inductive IsReachable : TextFormatter → Prop where
  | start {f : TextFormatter} : f.kept = none → IsReachable f
  | call {f : TextFormatter} (c : FormatterCall) : IsReachable f → IsReachable (f.perform c).2
  | build {f built : TextFormatter} (o : FormatterOption) :
      IsReachable f → f.build o = .ok built → IsReachable built

variable {f g : TextFormatter}

theorem Faithful.build (h : f.Faithful) {o : FormatterOption} {built : TextFormatter}
    (hbuilt : f.build o = .ok built) : built.Faithful := by
  by_cases hpalette : ∃ colors, o = .palette colors
  · obtain ⟨colors, rfl⟩ := hpalette
    obtain rfl := Except.ok.inj hbuilt
    exact h
  · rw [build_eq_ok hbuilt fun colors ho => hpalette ⟨colors, ho⟩]
    exact (h.perform o.setting).2.2.1

theorem IsReachable.faithful (h : f.IsReachable) : f.Faithful := by
  induction h with
  | start hnone => exact (coherent_of_none hnone).template
  | call c _ ih => exact (ih.perform c).2.2.1
  | build o _ hbuilt ih => exact ih.build hbuilt

/-! ## Numbers of compilations -/

/-- The same formatter with its compilations not numbered. -/
def unnumbered (f : TextFormatter) : TextFormatter :=
  { f with kept := f.kept.map fun k => { k with serial := 0 }, compilations := 0 }

/-- Apart from its numbers, a formatter is what it does not forget and what it keeps. -/
theorem unnumbered_eq (hforgetful : f.forgetful = g.forgetful)
    (hkept : f.kept.map (fun k => (k.template, k.painters)) =
      g.kept.map fun k => (k.template, k.painters)) : f.unnumbered = g.unnumbered := by
  have hmemory : f.kept.map (fun k => { k with serial := 0 }) =
      g.kept.map fun k => { k with serial := 0 } := by
    have hmade := congrArg
      (Option.map fun m : Compiled × Painters => (⟨0, m.1, m.2⟩ : KeptTemplate)) hkept
    rw [Option.map_map, Option.map_map] at hmade
    exact hmade
  obtain ⟨hformat, hcolor, hoptions, hbaseTime, hlast⟩ :=
    ForgetfulFormatter.mk.inj hforgetful
  simp only [unnumbered, hmemory, hformat, hcolor, hoptions, hbaseTime, hlast]

/-- A compilation answers a template with the same painters, whatever its number is. -/
theorem compile_unnumbered (f : TextFormatter) :
    (∃ error, f.compile = (.error error, f) ∧
      f.unnumbered.compile = (.error error, f.unnumbered)) ∨
    ∃ k k' f' g', f.compile = (.ok k, f') ∧ f.unnumbered.compile = (.ok k', g') ∧
      k'.template = k.template ∧ k'.painters = k.painters ∧ g'.forgetful = f'.forgetful ∧
      g'.unnumbered = f'.unnumbered := by
  have hunnumbered : f.unnumbered.kept = f.kept.map fun k => { k with serial := 0 } := rfl
  rcases f.compile_cases with ⟨k, hk, hcompiled⟩ | ⟨error, hnone, herror, hcompiled⟩ |
    ⟨c, hnone, hc, hcompiled⟩
  · rw [hk, Option.map_some] at hunnumbered
    refine Or.inr ⟨k, { k with serial := 0 }, f, f.unnumbered, hcompiled, ?_, rfl, rfl, rfl, ?_⟩
    · rw [TextFormatter.compile, hunnumbered]
    · simp [unnumbered, hk]
  · rw [hnone, Option.map_none] at hunnumbered
    have herror' : Template.compile f.unnumbered.format f.unnumbered.color = .error error := herror
    refine Or.inl ⟨error, hcompiled, ?_⟩
    rw [TextFormatter.compile, hunnumbered, herror']
  · rw [hnone, Option.map_none] at hunnumbered
    have hc' : Template.compile f.unnumbered.format f.unnumbered.color = .ok c := hc
    refine Or.inr ⟨_, ⟨0, c, []⟩, _, f.unnumbered.keeping c, hcompiled, ?_, rfl, rfl, rfl, rfl⟩
    rw [TextFormatter.compile, hunnumbered, hc']
    rfl

/-- The numbers of its compilations play no part in what a formatter does. -/
theorem perform_unnumbered (f : TextFormatter) (c : FormatterCall) :
    (f.unnumbered.perform c).1 = (f.perform c).1 ∧
      (f.unnumbered.perform c).2.unnumbered = (f.perform c).2.unnumbered := by
  have hidem : f.unnumbered.unnumbered = f.unnumbered := by
    simp [unnumbered, Function.comp_def]
  cases c with
  | setFormat formats => exact ⟨rfl, rfl⟩
  | setColor color => exact ⟨rfl, rfl⟩
  | setPalette palette => exact ⟨rfl, rfl⟩
  | setTimeLayout layout =>
      rw [TextFormatter.perform, TextFormatter.perform, setTimeLayout, setTimeLayout]
      cases layout.validate with
      | error error => exact ⟨rfl, hidem⟩
      | ok _ =>
          exact ⟨rfl, congrArg
            (fun f => { f with options := { f.options with timeLayout := layout } }) hidem⟩
  | setLevelName level name => exact ⟨rfl, congrArg (setLevelName · level name) hidem⟩
  | setPrecision precision => exact ⟨rfl, congrArg (setPrecision · precision) hidem⟩
  | setDurationText write => exact ⟨rfl, congrArg (setDurationText · write) hidem⟩
  | setCallerText write => exact ⟨rfl, congrArg (setCallerText · write) hidem⟩
  | setZone zone => exact ⟨rfl, congrArg (setZone · zone) hidem⟩
  | setBaseTime time => exact ⟨rfl, congrArg (setBaseTime · time) hidem⟩
  | compile =>
      rw [TextFormatter.perform, TextFormatter.perform]
      rcases f.compile_unnumbered with ⟨error, hf, hg⟩ |
        ⟨k, k', f', g', hf, hg, htemplate, -, -, hsame⟩
      · rw [hf, hg]
        exact ⟨rfl, hidem⟩
      · rw [hf, hg]
        exact ⟨by simp [Except.map, htemplate], hsame⟩
  | write s e =>
      rw [TextFormatter.perform, TextFormatter.perform, TextFormatter.write, TextFormatter.write]
      rcases f.compile_unnumbered with ⟨error, hf, hg⟩ |
        ⟨k, k', f', g', hf, hg, htemplate, hpainters, hforgetful, -⟩
      · rw [hf, hg]
        exact ⟨rfl, hidem⟩
      · have hcolor : g'.color = f'.color := congrArg ForgetfulFormatter.color hforgetful
        have hoptions : g'.options = f'.options := congrArg ForgetfulFormatter.options hforgetful
        have hview : g'.view s k' = f'.view s k := by
          have hplain : (g'.forgetful.view s).repainted (k'.painters.painter g'.color
              g'.options.palette) = (f'.forgetful.view s).repainted
                (k.painters.painter f'.color f'.options.palette) := by
            rw [hforgetful, hpainters, hcolor, hoptions]
          exact hplain
        have hremembering :
            (g'.remembering s e k').unnumbered = (f'.remembering s e k).unnumbered := by
          refine unnumbered_eq hforgetful ?_
          simp only [remembering, Option.map_some, htemplate, hpainters, hview, hcolor, hoptions]
        rw [hf, hg]
        dsimp only
        rw [hview, htemplate]
        cases Line.render (f'.view s k) e k.template with
        | error fault => exact ⟨rfl, hremembering⟩
        | ok line => exact ⟨rfl, congrArg (fun f => { f with last := e.time }) hremembering⟩

/-! ## Formatters in each other's place -/

/-- Formatters that are the same but for the numbers of their compilations, or that forget the same
and have a template that is too wide for any line. -/
structure Shadows (f g : TextFormatter) : Prop where
  forgetful : f.forgetful = g.forgetful
  left : f.Faithful
  right : g.Faithful
  memory : f.unnumbered = g.unnumbered ∨ IsTooWide f.format

theorem Shadows.answer_eq (h : Shadows f g) {c : FormatterCall} (hwide : IsTooWide f.format)
    (hc : ∀ s e, c = .write s e → f.forgetful.Timely s e) :
    f.forgetful.performWith f.sequence c = g.forgetful.performWith g.sequence c := by
  rw [← h.forgetful]
  cases c with
  | write s e =>
      have htime := hc s e rfl
      simp only [ForgetfulFormatter.performWith]
      cases hcompile : Template.compile f.forgetful.format f.forgetful.color with
      | error error => simp only [ForgetfulFormatter.writeWith, hcompile]
      | ok template =>
          obtain ⟨fault, hwrite, hfault⟩ := f.forgetful.writeWith_of_isTooWide hcompile hwide
            f.sequence s e
          obtain ⟨fault', hwrite', hfault'⟩ := f.forgetful.writeWith_of_isTooWide hcompile hwide
            g.sequence s e
          rw [hwrite, hwrite', hfault htime, hfault' htime]
  | _ => rfl

/-- A call answers alike on both, and leaves them in each other's place. -/
theorem Shadows.perform (h : Shadows f g) {c : FormatterCall}
    (hc : ∀ s e, c = .write s e → f.forgetful.Timely s e) :
    (f.perform c).1 = (g.perform c).1 ∧ Shadows (f.perform c).2 (g.perform c).2 := by
  obtain ⟨hanswer, hforgetful, hfaithful, -⟩ := h.left.perform c
  obtain ⟨hanswer', hforgetful', hfaithful', -⟩ := h.right.perform c
  rcases h.memory with hsame | hwide
  · -- only numbers differ, and these do not show
    obtain ⟨hf, hf'⟩ := f.perform_unnumbered c
    obtain ⟨hg, hg'⟩ := g.perform_unnumbered c
    rw [hsame] at hf hf'
    have hafter : (f.perform c).2.unnumbered = (g.perform c).2.unnumbered := hf'.symm.trans hg'
    have hforgets : (f.perform c).2.unnumbered.forgetful =
        (g.perform c).2.unnumbered.forgetful := by
      rw [hafter]
    exact ⟨hf.symm.trans hg, hforgets, hfaithful, hfaithful', Or.inl hafter⟩
  · have heq := h.answer_eq hwide hc
    have hafter : (f.perform c).2.forgetful = (g.perform c).2.forgetful := by
      rw [hforgetful, hforgetful', heq]
    refine ⟨by rw [hanswer, hanswer', heq], hafter, hfaithful, hfaithful', ?_⟩
    rcases f.perform_object c with ⟨hreplaces, hnone, -⟩ | ⟨hreplaces, -⟩
    · -- nothing is kept any more
      rcases g.perform_object c with ⟨-, hnone', -⟩ | ⟨hkeeps, -⟩
      · rw [object, Option.map_eq_none_iff] at hnone hnone'
        exact Or.inl (unnumbered_eq hafter (by rw [hnone, hnone']))
      · exact absurd (hreplaces.symm.trans hkeeps) (by decide)
    · right
      have hformat : (f.perform c).2.format = f.format :=
        (congrArg ForgetfulFormatter.format hforgetful).trans
          (f.forgetful.template_performWith f.sequence hreplaces).1
      rw [hformat]
      exact hwide

/-- Whether building fails is a matter of the option alone. -/
theorem build_eq_error {o : FormatterOption} {error : LogError} (h : f.build o = .error error) :
    g.build o = .error error := by
  cases o with
  | timeLayout layout =>
      rw [TextFormatter.build, withTimeLayout, setTimeLayout] at h ⊢
      cases hvalid : layout.validate with
      | error reason =>
          rw [hvalid] at h
          exact h.trans rfl
      | ok _ =>
          rw [hvalid] at h
          simp at h
  | _ => exact absurd h (by simp [TextFormatter.build])

/-- Building fails alike on both, or leaves them in each other's place. -/
theorem Shadows.build (h : Shadows f g) (o : FormatterOption) :
    (∃ error, f.build o = .error error ∧ g.build o = .error error) ∨
    ∃ f' g', f.build o = .ok f' ∧ g.build o = .ok g' ∧ Shadows f' g' := by
  by_cases hpalette : ∃ colors, o = .palette colors
  · obtain ⟨colors, rfl⟩ := hpalette
    have hforgets : (f.withPalette colors).forgetful = (g.withPalette colors).forgetful :=
      congrArg (·.withOptions fun o => { o with palette := colors }) h.forgetful
    exact Or.inr ⟨_, _, rfl, rfl, hforgets, h.left, h.right,
      h.memory.imp_left (congrArg (withPalette · colors))⟩
  · have hother : ∀ colors, o ≠ .palette colors := fun colors ho => hpalette ⟨colors, ho⟩
    cases hf : f.build o with
    | error error => exact Or.inl ⟨error, rfl, build_eq_error hf⟩
    | ok f' =>
        cases hg : g.build o with
        | error error => exact absurd ((build_eq_error hg).symm.trans hf) (by simp)
        | ok g' =>
            -- building is setting here, and setting is a call
            refine Or.inr ⟨f', g', rfl, rfl, ?_⟩
            rw [build_eq_ok hf hother, build_eq_ok hg hother]
            exact (h.perform (c := o.setting) (by cases o <;> simp [FormatterOption.setting])).2

/-- Formatters in each other's place answer all operations alike. -/
theorem Shadows.answers_eq (h : Shadows f g) {operations : List FormatterOperation}
    (htimely : f.TimelyRun operations) : f.answers operations = g.answers operations := by
  induction operations generalizing f g with
  | nil => rfl
  | cons operation rest ih =>
      cases operation with
      | call c =>
          obtain ⟨hanswer, hafter⟩ := h.perform htimely.1
          rw [answers, answers, hanswer, hafter.forgetful, ih hafter htimely.2]
      | build o =>
          rw [answers, answers]
          rcases h.build o with ⟨error, hf, hg⟩ | ⟨f', g', hf, hg, hbuilt⟩
          · rw [hf, hg]
          · rw [hf, hg]
            dsimp only
            rw [hbuilt.forgetful, ih hbuilt (htimely f' hf)]

/-! ## Renderings -/

/-- Nothing but a width stops a rendering.  For every reachable formatter whose template compiles,
and every entry whose time has a written form:

* Values can be cut to any limit, and the skeleton can be sliced at the positions of its fields.
* If all widths of the template can be filled up to, a line is written.
* If a value that is never left out is too wide, no entry is written.  The rendering stops at a
  width, and all that it leaves is the compiled template, as a compilation would.  Whatever is done
  with the formatter later, it answers as if the entry had never been there. -/
theorem write_stops_by_width (hf : f.IsReachable) {c : Compiled}
    (hc : Template.compile f.format f.color = .ok c) :
    (∀ limit s, Line.truncated? limit s = some (s.take limit)) ∧
    (∀ v e, Line.render? v e c = some (Line.render v e c)) ∧
    (AllFit f.format → ∀ s e, f.forgetful.Timely s e → ∃ line, (f.write s e).1 = .ok line) ∧
    (IsTooWide f.format → ∀ s e,
      (∃ fault, (f.write s e).1 = .error (.stopped fault) ∧
        (f.forgetful.Timely s e → fault = .oversizedWidth)) ∧
      (f.write s e).2.forgetful = f.forgetful ∧
      (f.write s e).2.object = f.compile.2.object ∧
      ∀ later, f.TimelyRun later → (f.write s e).2.answers later = f.answers later) := by
  have hfaithful := hf.faithful
  refine ⟨Line.truncated?_eq, fun v e => ?_, fun hfit s e htime => ?_, fun hwide s e => ?_⟩
  · obtain ⟨-, rfl⟩ := compile_eq_ok_iff.mp hc
    exact Line.render?_ofItems v e _
  · obtain ⟨hline, -⟩ := hfaithful.write s e
    obtain ⟨line, hrender⟩ := Line.exists_render (v := (f.forgetful.view s).repainted f.sequence)
      (e := e) hc hfit htime
    have hcompile : Template.compile f.forgetful.format f.forgetful.color = .ok c := hc
    refine ⟨line, ?_⟩
    rw [hline, ForgetfulFormatter.writeWith, hcompile]
    dsimp only
    rw [hrender]
  · obtain ⟨hline, hforgetful, hafter, -⟩ := hfaithful.write s e
    obtain ⟨fault, hwrite, htime⟩ := f.forgetful.writeWith_of_isTooWide hc hwide f.sequence s e
    rw [hwrite] at hline hforgetful
    have hshadows : Shadows f (f.write s e).2 :=
      ⟨hforgetful.symm, hfaithful, hafter, Or.inr hwide⟩
    exact ⟨⟨fault, hline, htime⟩, hforgetful, (f.object_write s e).1,
      fun later htimely => (hshadows.answers_eq htimely).symm⟩

/-- Formatter with widths and limits that every text can be brought to. -/
def fittingFormatter : TextFormatter := new false ["é%-4message%%.1level%%2field:ignore%"] ⟨0, 0⟩

/-- Formatter with a width that no text can be filled up to. -/
def wideFormatter : TextFormatter := new false ["%level%%70000message%"] ⟨0, 0⟩

/-- Another template, another zone, and an entry. -/
def laterOperations : List FormatterOperation :=
  [.call (.setFormat ["%message%"]), .build (.zone 3600), .call (.write plainSettings hotEntry)]

/-- One formatter that writes an entry, and one that stops at it and writes it later. -/
theorem write_stops_by_width_message :
    (fittingFormatter.IsReachable ∧ AllFit fittingFormatter.format ∧
      ∃ line, (fittingFormatter.write plainSettings hotEntry).1 = .ok line) ∧
    wideFormatter.IsReachable ∧ IsTooWide wideFormatter.format ∧
      (wideFormatter.write plainSettings hotEntry).1 = .error (.stopped .oversizedWidth) ∧
      (wideFormatter.write plainSettings hotEntry).2.answers laterOperations =
        wideFormatter.answers laterOperations := by
  have hfit : AllFit fittingFormatter.format := by
    have hparts : segments fittingFormatter.format.toList =
        [.literal 'é', .placeholder ⟨some "-4".toList, none, some "message".toList, none⟩,
          .placeholder ⟨none, some "1".toList, some "level".toList, none⟩,
          .placeholder ⟨some "2".toList, none, some "field".toList, some "ignore".toList⟩] := by
      decide +kernel
    intro p hp
    rw [hparts] at hp
    simp at hp
    rcases hp with rfl | rfl | rfl
    all_goals decide +kernel
  have hwide : IsTooWide wideFormatter.format :=
    ⟨⟨some "70000".toList, none, some "message".toList, none⟩, by decide +kernel,
      ⟨by decide +kernel, by decide +kernel⟩, by unfold Placeholder.Ignores; decide +kernel,
      by decide +kernel⟩
  have hc : Template.compile fittingFormatter.format false =
      .ok (.ofItems (items fittingFormatter.format false)) :=
    compile_eq_ok_iff.mpr ⟨by decide +kernel, rfl⟩
  have hc' : Template.compile wideFormatter.format false =
      .ok (.ofItems (items wideFormatter.format false)) :=
    compile_eq_ok_iff.mpr ⟨by decide +kernel, rfl⟩
  have htimely : wideFormatter.TimelyRun laterOperations := by
    refine ⟨by simp, fun built hbuilt => ⟨?_, trivial⟩⟩
    obtain rfl := Except.ok.inj hbuilt
    rintro s e -
    exact ⟨_, rfl⟩
  obtain ⟨-, -, hline, -⟩ := write_stops_by_width (.start rfl) hc
  obtain ⟨-, -, -, hstop⟩ := write_stops_by_width (.start rfl) hc'
  obtain ⟨⟨fault, hfault, htime⟩, -, -, hlater⟩ := hstop hwide plainSettings hotEntry
  rw [htime ⟨_, rfl⟩] at hfault
  exact ⟨⟨.start rfl, hfit, hline hfit plainSettings hotEntry ⟨_, rfl⟩⟩, .start rfl, hwide, hfault,
    hlater laterOperations htimely⟩

end TextFormatter

end Hooklog
