import Hooklog.Proofs.Formatter.Origins

/-!
# Building and setting

Every option of a text formatter can be given when the formatter is built, and set later.  This
module compares the two, also for a formatter that has been in use before it is built further.

* `TextFormatter.sequence` is what the next rendering puts in front of a field.  Memory makes no
  difference to what a formatter answers except through it.
* `Line.render_repainted` says that a line depends on the sequences of its own level only.
* `TextFormatter.Alike` formatters differ in nothing but memory, and agree in their sequences at
  some levels; every call keeps them alike.
* `TextFormatter.build_eq_set` is the main statement: building and setting come to the same, except
  that a palette given in building leaves the sequences that are remembered from another one.
-/

namespace Hooklog

open Template

/-- An option of a text formatter with a value for it. -/
inductive FormatterOption where
  | palette (palette : SortedMap Level (List Sgr.Attribute))
  | levelName (level : Level) (name : String)
  | precision (precision : Nat)
  | durationText (write : Int → String)
  | callerText (write : Caller → String)
  | zone (zone : Int)
  | timeLayout (layout : TimeLayout)
  | baseTime (time : Instant)

/-- The call that sets an option. -/
def FormatterOption.setting : FormatterOption → FormatterCall
  | .palette colors => .setPalette colors
  | .levelName l text => .setLevelName l text
  | .precision span => .setPrecision (some span)
  | .durationText write => .setDurationText (some write)
  | .callerText write => .setCallerText (some write)
  | .zone offset => .setZone (some offset)
  | .timeLayout layout => .setTimeLayout layout
  | .baseTime t => .setBaseTime t

/-- Formatter built with an option.  Without an acceptable value there is none. -/
def TextFormatter.build (f : TextFormatter) : FormatterOption → Except LogError TextFormatter
  | .palette colors => .ok (f.withPalette colors)
  | .levelName l text => .ok (f.withLevelName l text)
  | .precision span => .ok (f.withPrecision span)
  | .durationText write => .ok (f.withDurationText write)
  | .callerText write => .ok (f.withCallerText write)
  | .zone offset => .ok (f.withZone offset)
  | .timeLayout layout => f.withTimeLayout layout
  | .baseTime t => .ok (f.withBaseTime t)

/-- Formatter after an option has been set. -/
def TextFormatter.set (f : TextFormatter) (o : FormatterOption) : TextFormatter :=
  (f.perform o.setting).2

/-! ## Lines and the sequences of their level -/

/-- The same view with other control sequences. -/
def View.repainted (v : View) (painter : FieldSpec → Level → Option String) : View :=
  { v with painter := painter }

namespace Line

section Repainting

variable {v : View} {l : Level} {c : Compiled} {spec : FieldSpec} {key value : String}
  {painter painter' : FieldSpec → Level → Option String}
  (h : ∀ spec, painter spec l = painter' spec l)

include h

theorem dressed_repainted :
    dressed (v.repainted painter) l spec value = dressed (v.repainted painter') l spec value := by
  have hpainted : painted (v.repainted painter) l spec = painted (v.repainted painter') l spec := by
    funext s
    simp only [painted, View.repainted, h]
  rw [dressed, dressed, hpainted]
  rfl

theorem styled_repainted :
    styled (v.repainted painter) l spec value = styled (v.repainted painter') l spec value := by
  rw [styled, styled, dressed_repainted h]

theorem styledPair_repainted :
    styledPair (v.repainted painter) l c key value =
      styledPair (v.repainted painter') l c key value := by
  simp only [styledPair, styled_repainted h]

theorem fieldText_repainted {printKey : Bool} :
    fieldText (v.repainted painter) l c spec key value printKey =
      fieldText (v.repainted painter') l c spec key value printKey := by
  simp only [fieldText, attached, dressed_repainted h, styled_repainted h, styledPair_repainted h]

end Repainting

/-- The line of an entry depends on what is put in front of fields at its own level only. -/
theorem render_repainted {v : View} {e : Entry} {c : Compiled}
    {painter painter' : FieldSpec → Level → Option String}
    (h : ∀ spec, painter spec e.level = painter' spec e.level) :
    render (v.repainted painter) e c = render (v.repainted painter') e c := by
  have hown : ownText (v.repainted painter) e c = ownText (v.repainted painter') e c := by
    funext spec
    simp only [ownText, fieldText_repainted h]
    rfl
  have hmember : remainingText (v.repainted painter) e.level c =
      remainingText (v.repainted painter') e.level c := by
    funext spec p
    simp only [remainingText, styledPair_repainted h]
  have hlist : listText (v.repainted painter) e c = listText (v.repainted painter') e c := by
    funext spec
    simp only [listText, remainingFieldText, fieldText_repainted h, hmember]
  simp only [render, texts, hown, hlist]

end Line

/-! ## Remembered sequences -/

namespace Painters

variable (p : Painters) (color : Bool) (palette : SortedMap Level (List Sgr.Attribute)) (l : Level)

/-- Remembering a sequence changes none: it is the one that would have been used. -/
theorem painter_remember (spec : FieldSpec) :
    (p.remember color palette l spec).painter color palette = p.painter color palette := by
  unfold Painters.remember
  cases hfound : p.lookup (spec, l) with
  | some remembered => rfl
  | none =>
      funext spec' l'
      rw [painter, painter, List.lookup_cons]
      by_cases hsame : (spec', l') = (spec, l)
      · obtain ⟨rfl, rfl⟩ := Prod.mk.inj hsame
        rw [beq_self_eq_true, hfound]
        rfl
      · rw [beq_eq_false_iff_ne.mpr hsame]

theorem painter_rememberAll (specs : List FieldSpec) :
    (p.rememberAll color palette l specs).painter color palette = p.painter color palette := by
  induction specs generalizing p with
  | nil => rfl
  | cons spec rest ih => exact (ih _).trans (p.painter_remember color palette l spec)

end Painters

namespace TextFormatter

variable {f g : TextFormatter}

/-- Control sequence that the next rendering puts in front of a field at a level. -/
def sequence (f : TextFormatter) : FieldSpec → Level → Option String :=
  match f.kept with
  | some k => k.painters.painter f.color f.options.palette
  | none => painterOf f.color f.options.palette

/-- What is kept is the current template. -/
def Faithful (f : TextFormatter) : Prop :=
  ∀ k, f.kept = some k → Template.compile f.format f.color = .ok k.template

end TextFormatter

namespace ForgetfulFormatter

/-- Line of an entry under the template compiled for it, with given control sequences. -/
def writeWith (f : ForgetfulFormatter) (painter : FieldSpec → Level → Option String)
    (s : Settings) (e : Entry) : Except Stop String × ForgetfulFormatter :=
  match Template.compile f.format f.color with
  | .error error => (.error (.failed error), f)
  | .ok c =>
      match Line.render ((f.view s).repainted painter) e c with
      | .error fault => (.error (.stopped fault), f)
      | .ok line => (.ok line, { f with last := e.time })

/-- One call, with given control sequences. -/
def performWith (f : ForgetfulFormatter) (painter : FieldSpec → Level → Option String) :
    FormatterCall → FormatterAnswer × ForgetfulFormatter
  | .write settings e =>
      let (result, f) := f.writeWith painter settings e
      (.line result, f)
  | c => f.perform c

/-- A line is the same with sequences that agree at its level. -/
theorem performWith_congr (f : ForgetfulFormatter) {c : FormatterCall}
    {painter painter' : FieldSpec → Level → Option String}
    (h : ∀ s e, c = .write s e → ∀ spec, painter spec e.level = painter' spec e.level) :
    f.performWith painter c = f.performWith painter' c := by
  cases c with
  | write s e => simp only [performWith, writeWith, Line.render_repainted (h s e rfl)]
  | _ => rfl

end ForgetfulFormatter

namespace TextFormatter

variable {f g : TextFormatter}

/-- A formatter that has compiled its template is the same but for what it keeps. -/
theorem Faithful.compile (h : f.Faithful) :
    (∃ error, Template.compile f.format f.color = .error error ∧ f.compile = (.error error, f)) ∨
    ∃ k f', Template.compile f.format f.color = .ok k.template ∧ f.compile = (.ok k, f') ∧
      f'.kept = some k ∧ f'.forgetful = f.forgetful ∧ f'.sequence = f.sequence := by
  rcases f.compile_cases with ⟨k, hk, hcompiled⟩ | ⟨error, -, herror, hcompiled⟩ |
    ⟨c, hnone, hc, hcompiled⟩
  · exact Or.inr ⟨k, f, h k hk, hcompiled, hk, rfl, rfl⟩
  · exact Or.inl ⟨error, herror, hcompiled⟩
  · refine Or.inr ⟨_, _, hc, hcompiled, rfl, rfl, ?_⟩
    -- nothing is remembered yet, and nothing was before
    have hbefore : f.sequence = painterOf f.color f.options.palette := by rw [sequence, hnone]
    rw [hbefore]
    rfl

/-- A line is written as without memory, but for the sequences that are remembered; these are the
same afterwards. -/
theorem Faithful.write (h : f.Faithful) (s : Settings) (e : Entry) :
    (f.write s e).1 = (f.forgetful.writeWith f.sequence s e).1 ∧
      (f.write s e).2.forgetful = (f.forgetful.writeWith f.sequence s e).2 ∧
      (f.write s e).2.Faithful ∧ (f.write s e).2.sequence = f.sequence := by
  rw [TextFormatter.write, ForgetfulFormatter.writeWith]
  rcases h.compile with ⟨error, hcompile, hkept⟩ | ⟨k, f', hcompile, hkept, hk, hsame, hsequence⟩
  · have hfresh : Template.compile f.forgetful.format f.forgetful.color = .error error := hcompile
    rw [hkept, hfresh]
    exact ⟨rfl, rfl, h, rfl⟩
  · have hfresh : Template.compile f.forgetful.format f.forgetful.color = .ok k.template :=
      hcompile
    have hview : f'.view s k = (f.forgetful.view s).repainted f.sequence := by
      rw [← hsequence, ← hsame, sequence, hk]
      rfl
    have hfaithful : (f'.remembering s e k).Faithful := by
      rintro k' ⟨⟩
      rw [← hsame] at hfresh
      exact hfresh
    have hremembered : (f'.remembering s e k).sequence = f.sequence := by
      have hbefore : f'.sequence = k.painters.painter f'.color f'.options.palette := by
        rw [sequence, hk]
      rw [← hsequence, hbefore]
      exact k.painters.painter_rememberAll f'.color f'.options.palette e.level _
    rw [hkept, hfresh]
    dsimp only
    rw [hview]
    cases Line.render ((f.forgetful.view s).repainted f.sequence) e k.template with
    | error fault => exact ⟨rfl, hsame, hfaithful, hremembered⟩
    | ok line =>
        refine ⟨rfl, ?_, hfaithful, hremembered⟩
        rw [← hsame]
        rfl

/-- A call answers as it does without memory, but for the sequences that are remembered.  These
are forgotten by a call that replaces what they depend on, and otherwise stay. -/
theorem Faithful.perform (h : f.Faithful) (c : FormatterCall) :
    (f.perform c).1 = (f.forgetful.performWith f.sequence c).1 ∧
      (f.perform c).2.forgetful = (f.forgetful.performWith f.sequence c).2 ∧
      (f.perform c).2.Faithful ∧
      (f.perform c).2.sequence =
        if c.replaces then painterOf (f.perform c).2.color (f.perform c).2.options.palette
        else f.sequence := by
  have hforgotten : ∀ f' : TextFormatter, f'.kept = none → f'.Faithful := by
    intro f' hnone k hk
    rw [hnone] at hk
    exact absurd hk (by simp)
  cases c with
  | setFormat formats => exact ⟨rfl, rfl, hforgotten _ rfl, rfl⟩
  | setColor color => exact ⟨rfl, rfl, hforgotten _ rfl, rfl⟩
  | setPalette palette => exact ⟨rfl, rfl, hforgotten _ rfl, rfl⟩
  | setTimeLayout layout =>
      rw [TextFormatter.perform, TextFormatter.setTimeLayout, ForgetfulFormatter.performWith,
        ForgetfulFormatter.perform]
      · cases layout.validate with
        | error error => exact ⟨rfl, rfl, h, rfl⟩
        | ok _ => exact ⟨rfl, rfl, h, rfl⟩
      · simp
  | setLevelName level name => exact ⟨rfl, rfl, h, rfl⟩
  | setPrecision precision => exact ⟨rfl, rfl, h, rfl⟩
  | setDurationText write => exact ⟨rfl, rfl, h, rfl⟩
  | setCallerText write => exact ⟨rfl, rfl, h, rfl⟩
  | setZone zone => exact ⟨rfl, rfl, h, rfl⟩
  | setBaseTime time => exact ⟨rfl, rfl, h, rfl⟩
  | compile =>
      rw [TextFormatter.perform, ForgetfulFormatter.performWith, ForgetfulFormatter.perform]
      · rcases h.compile with ⟨error, hcompile, hkept⟩ |
          ⟨k, f', hcompile, hkept, hk, hsame, hsequence⟩
        · have hfresh : Template.compile f.forgetful.format f.forgetful.color = .error error :=
            hcompile
          rw [hkept, hfresh]
          exact ⟨rfl, rfl, h, rfl⟩
        · have hfresh : Template.compile f.forgetful.format f.forgetful.color = .ok k.template :=
            hcompile
          rw [hkept, hfresh]
          refine ⟨rfl, hsame, ?_, hsequence⟩
          intro k' hk'
          obtain rfl := Option.some.inj (hk.symm.trans hk')
          rw [← hsame] at hfresh
          exact hfresh
      · simp
  | write settings e =>
      obtain ⟨hline, hsame, hfaithful, hsequence⟩ := h.write settings e
      exact ⟨congrArg FormatterAnswer.line hline, hsame, hfaithful, hsequence⟩

/-! ## Formatters that differ in memory -/

/-- Formatters that are the same but for what they remember, and put the same in front of fields at
some levels. -/
structure Alike (levels : Level → Prop) (f g : TextFormatter) : Prop where
  forgetful : f.forgetful = g.forgetful
  left : f.Faithful
  right : g.Faithful
  sequence : ∀ l, levels l → ∀ spec, f.sequence spec l = g.sequence spec l

section Alike

variable {levels : Level → Prop}

/-- Alike formatters answer a call alike, unless it writes an entry at another level. -/
theorem Alike.answer_eq (h : Alike levels f g) {c : FormatterCall}
    (hc : ∀ s e, c = .write s e → levels e.level) :
    f.forgetful.performWith f.sequence c = g.forgetful.performWith g.sequence c := by
  rw [h.forgetful]
  exact g.forgetful.performWith_congr fun s e hwrite => h.sequence e.level (hc s e hwrite)

/-- A call leaves alike formatters alike, and at all levels if it drops what is remembered. -/
theorem Alike.perform (h : Alike levels f g) {c : FormatterCall}
    (hc : ∀ s e, c = .write s e → levels e.level) :
    (f.perform c).1 = (g.perform c).1 ∧
      Alike (fun l => c.replaces = true ∨ levels l) (f.perform c).2 (g.perform c).2 := by
  obtain ⟨hanswer, hforgetful, hfaithful, hsequence⟩ := h.left.perform c
  obtain ⟨hanswer', hforgetful', hfaithful', hsequence'⟩ := h.right.perform c
  have hsame := h.answer_eq hc
  have hafter : (f.perform c).2.forgetful = (g.perform c).2.forgetful := by
    rw [hforgetful, hforgetful', hsame]
  refine ⟨by rw [hanswer, hanswer', hsame], hafter, hfaithful, hfaithful', fun l hl spec => ?_⟩
  rw [hsequence, hsequence']
  by_cases hreplaces : c.replaces = true
  · have hcolor : (f.perform c).2.color = (g.perform c).2.color :=
      congrArg ForgetfulFormatter.color hafter
    have hoptions : (f.perform c).2.options = (g.perform c).2.options :=
      congrArg ForgetfulFormatter.options hafter
    rw [if_pos hreplaces, if_pos hreplaces, hcolor, hoptions]
  · rw [if_neg hreplaces, if_neg hreplaces]
    exact h.sequence l (hl.resolve_left hreplaces) spec

/-- Alike formatters answer a run alike if all entries that are written before the first call that
drops what is remembered are at these levels. -/
theorem Alike.run (h : Alike levels f g) (calls : List FormatterCall)
    (hcalls : ∀ s e, .write s e ∈ calls.takeWhile (fun c => !c.replaces) → levels e.level) :
    (f.run calls).1 = (g.run calls).1 := by
  -- along the calls; once something is dropped there is no level left to be avoided
  induction calls generalizing f g levels with
  | nil => rfl
  | cons c rest ih =>
      have hc : ∀ s e, c = .write s e → levels e.level := by
        rintro s e rfl
        exact hcalls s e (by simp [FormatterCall.replaces])
      obtain ⟨hanswer, halike⟩ := h.perform hc
      have hrest := ih halike fun s e hwrite => by
        by_cases hreplaces : c.replaces = true
        · exact Or.inl hreplaces
        · exact Or.inr (hcalls s e (by simp [hreplaces, hwrite]))
      rw [run, run]
      dsimp only
      rw [hanswer, hrest]

end Alike

/-! ## Building a formatter that has been in use -/

/-- A formatter remembers a control sequence that the palette given by an option would replace. -/
def Outdates (f : TextFormatter) (o : FormatterOption) (spec : FieldSpec) (l : Level) : Prop :=
  ∃ colors k, o = .palette colors ∧ f.kept = some k ∧ (k.painters.lookup (spec, l)).isSome = true ∧
    painterOf f.color f.options.palette spec l ≠ painterOf f.color colors spec l

theorem Coherent.after (h : f.Coherent) (calls : List FormatterCall) :
    (f.after calls).Coherent := by
  induction calls generalizing f with
  | nil => exact h
  | cons c rest ih => exact ih (h.perform c).2.2

/-- An option is refused in building exactly if it is in setting, which then changes nothing. -/
theorem build_eq_error_iff (f : TextFormatter) (o : FormatterOption) (error : LogError) :
    f.build o = .error error ↔ f.perform o.setting = (.result (.error error), f) := by
  cases o with
  | timeLayout layout =>
      rw [build, withTimeLayout, FormatterOption.setting, TextFormatter.perform, setTimeLayout]
      cases layout.validate <;> simp
  | _ => simp [build, FormatterOption.setting, TextFormatter.perform]

/-- With any option but a palette, building and setting come to the same formatter. -/
theorem build_eq_ok {o : FormatterOption} {built : TextFormatter} (h : f.build o = .ok built)
    (ho : ∀ colors, o ≠ .palette colors) : built = f.set o := by
  cases o with
  | palette colors => exact absurd rfl (ho colors)
  | timeLayout layout =>
      rw [build, withTimeLayout, setTimeLayout] at h
      rw [set, FormatterOption.setting, TextFormatter.perform, setTimeLayout]
      cases hvalid : layout.validate with
      | error error =>
          rw [hvalid] at h
          simp at h
      | ok _ =>
          rw [hvalid] at h
          exact (Except.ok.inj h).symm
  | _ => exact (Except.ok.inj h).symm

/-- What a formatter built with a palette puts in front of a field is what it remembers, if it
remembers anything, and otherwise what the new palette says. -/
theorem Coherent.sequence_withPalette (h : f.Coherent)
    (colors : SortedMap Level (List Sgr.Attribute)) (spec : FieldSpec) (l : Level) :
    (f.withPalette colors).sequence spec l = (f.set (.palette colors)).sequence spec l ↔
      ¬f.Outdates (.palette colors) spec l := by
  have hset : (f.set (.palette colors)).sequence spec l = painterOf f.color colors spec l := rfl
  have hkept : (f.withPalette colors).kept = f.kept := rfl
  rw [hset, sequence, hkept]
  cases hk : f.kept with
  | none =>
      refine iff_of_true rfl ?_
      rintro ⟨_, k, -, hsome, -⟩
      rw [hk] at hsome
      exact absurd hsome (by simp)
  | some k =>
      have hbuilt : k.painters.painter (f.withPalette colors).color
          (f.withPalette colors).options.palette spec l =
            (k.painters.lookup (spec, l)).getD (painterOf f.color colors spec l) := rfl
      change k.painters.painter (f.withPalette colors).color
          (f.withPalette colors).options.palette spec l = _ ↔ _
      rw [hbuilt]
      cases hfound : k.painters.lookup (spec, l) with
      | none =>
          refine iff_of_true rfl ?_
          rintro ⟨_, k', -, hk', hsome, -⟩
          obtain rfl := Option.some.inj (hk.symm.trans hk')
          rw [hfound] at hsome
          exact absurd hsome (by simp)
      | some remembered =>
          have hold : remembered = painterOf f.color f.options.palette spec l :=
            h.painters k hk _ (mem_of_lookup hfound)
          rw [Option.getD_some, hold]
          constructor
          · rintro hsame ⟨_, _, hcolors, -, -, hother⟩
            cases hcolors
            exact hother hsame
          · intro hkeeps
            exact Decidable.by_contra fun hother =>
              hkeeps ⟨colors, k, rfl, hk, by rw [hfound]; rfl, hother⟩

/-- Building a formatter further, at any moment of its use, comes to the same as setting the
option: a refused option is the same failure, and an accepted one gives a formatter that answers
every later run alike.  Palettes are the exception.  Setting one drops the control sequences that
are remembered, and building with one keeps them; so the two formatters put different sequences in
front of exactly those fields at those levels that have been painted before and that the new
palette paints differently.  Until the compiled template is dropped, they can be told apart by
entries at such levels only. -/
theorem build_eq_set {f : TextFormatter} (hnew : f.kept = none) (before : List FormatterCall)
    (o : FormatterOption) :
    let used := f.after before
    (∀ error, used.build o = .error error ↔
      used.perform o.setting = (.result (.error error), used)) ∧
    ∀ built, used.build o = .ok built →
      (∀ spec l, built.sequence spec l = (used.set o).sequence spec l ↔
        ¬used.Outdates o spec l) ∧
      ∀ later, (∀ s e, .write s e ∈ later.takeWhile (fun c => !c.replaces) →
          ∀ spec, ¬used.Outdates o spec e.level) →
        (built.run later).1 = ((used.set o).run later).1 := by
  intro used
  have hcoherent : used.Coherent := (coherent_of_none hnew).after before
  refine ⟨used.build_eq_error_iff o, fun built hbuilt => ?_⟩
  by_cases hpalette : ∃ colors, o = .palette colors
  · obtain ⟨colors, rfl⟩ := hpalette
    obtain rfl := Except.ok.inj hbuilt
    have hsequence := hcoherent.sequence_withPalette colors
    have halike : Alike (fun l => ∀ spec, ¬used.Outdates (.palette colors) spec l)
        (used.withPalette colors) (used.set (.palette colors)) :=
      ⟨rfl, hcoherent.template, by rintro k ⟨⟩, fun l hl spec => (hsequence spec l).mpr (hl spec)⟩
    exact ⟨hsequence, halike.run⟩
  · have hother : ∀ colors, o ≠ .palette colors := fun colors ho => hpalette ⟨colors, ho⟩
    rw [build_eq_ok hbuilt hother]
    refine ⟨fun spec l => iff_of_true rfl ?_, fun later _ => rfl⟩
    rintro ⟨colors, -, ho, -⟩
    exact hother colors ho

/-- An error. -/
def hotEntry : Entry := ⟨.error, "hot", ⟨0, 0⟩, "", .empty, none⟩

/-- Formatter of colored messages that has written an error. -/
def hotFormatter : TextFormatter := coloredMessages.after [.write plainSettings hotEntry]

/-- The standard palette with errors in green. -/
def greenErrors : FormatterOption :=
  .palette (RenderOptions.standardPalette.insert .error [.foreground false .green])

/-- A line at another level, and an error after the colors have been switched off. -/
def calmCalls : List FormatterCall :=
  [.write plainSettings (entryAt 1), .setColor false, .write plainSettings hotEntry]

/-- The color of an error is remembered, and another color for errors is not seen elsewhere. -/
theorem build_eq_set_elsewhere :
    coloredMessages.kept = none ∧ (∀ spec, ¬hotFormatter.Outdates greenErrors spec .info) ∧
      ∃ built, hotFormatter.build greenErrors = .ok built ∧
        (built.run calmCalls).1 = ((hotFormatter.set greenErrors).run calmCalls).1 := by
  have hkeeps : ∀ spec, ¬hotFormatter.Outdates greenErrors spec .info := by
    rintro spec ⟨colors, k, hcolors, -, -, hother⟩
    cases hcolors
    have hpalette : hotFormatter.options.palette.get? .info =
        (RenderOptions.standardPalette.insert .error [.foreground false .green]).get? .info := by
      decide +kernel
    exact hother (by simp only [painterOf, hpalette])
  have hfirst : calmCalls.takeWhile (fun c => !c.replaces) =
      [.write plainSettings (entryAt 1)] := rfl
  obtain ⟨-, hbuilt⟩ := build_eq_set (f := coloredMessages) rfl [.write plainSettings hotEntry]
    greenErrors
  refine ⟨rfl, hkeeps, _, rfl, (hbuilt _ rfl).2 calmCalls fun s e hwrite => ?_⟩
  rw [hfirst, List.mem_singleton] at hwrite
  cases hwrite
  exact hkeeps

/-- A formatter that has written an error in red, and is then built with green errors, still writes
errors in red; with the same palette set it writes them in green. -/
theorem red_errors_after_building :
    ∃ built, hotFormatter.build greenErrors = .ok built ∧
      (built.write plainSettings hotEntry).1.toOption = some "\x1b[31mhot\x1b[0m\n" ∧
      ((hotFormatter.set greenErrors).write plainSettings hotEntry).1.toOption =
        some "\x1b[32mhot\x1b[0m\n" ∧
      ¬∀ later, (built.run later).1 = ((hotFormatter.set greenErrors).run later).1 := by
  have hred : ((hotFormatter.withPalette (RenderOptions.standardPalette.insert .error
      [.foreground false .green])).write plainSettings hotEntry).1.toOption =
        some "\x1b[31mhot\x1b[0m\n" := by decide +kernel
  have hgreen : ((hotFormatter.set greenErrors).write plainSettings hotEntry).1.toOption =
      some "\x1b[32mhot\x1b[0m\n" := by decide +kernel
  refine ⟨_, rfl, hred, hgreen, fun hsame => ?_⟩
  have hrun : ∀ g : TextFormatter, (g.run [.write plainSettings hotEntry]).1 =
      [.line (g.write plainSettings hotEntry).1] := fun _ => rfl
  have hanswer := hsame [.write plainSettings hotEntry]
  rw [hrun, hrun] at hanswer
  rw [FormatterAnswer.line.inj (List.cons.inj hanswer).1] at hred
  exact absurd (hred.symm.trans hgreen) (by decide)

end TextFormatter

end Hooklog
