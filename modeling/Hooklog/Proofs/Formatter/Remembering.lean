import Hooklog.Proofs.Formatter.Runs
import Hooklog.Proofs.Tables

/-!
# What a text formatter remembers

A text formatter keeps its compiled template, and for each field and level the control sequence
that it has looked up.  This module compares it with a formatter that remembers nothing.

* `ForgetfulFormatter` compiles its template for every line and looks every color up in its
  palette.
* `TextFormatter.Coherent` says that what is remembered is what would be computed anew; every
  call keeps it so.
* `TextFormatter.run_forgetful` is the main statement: the answers are those of the forgetful
  formatter, and a compiled template is kept exactly until a call replaces what it depends on.
-/

namespace Hooklog

open Template

/-- A text formatter that remembers nothing but its clock. -/
structure ForgetfulFormatter where
  format : String
  color : Bool
  options : RenderOptions
  /-- Origin of the delay. -/
  baseTime : Instant
  /-- Origin of the delta. -/
  last : Instant

namespace ForgetfulFormatter

/-- What a rendering depends on, with the colors of the palette. -/
def view (f : ForgetfulFormatter) (s : Settings) : View where
  color := f.color
  options := f.options
  settings := s
  baseTime := f.baseTime
  last := f.last
  painter := painterOf f.color f.options.palette

/-- Line of an entry under the template compiled for it. -/
def write (f : ForgetfulFormatter) (s : Settings) (e : Entry) :
    Except Stop String × ForgetfulFormatter :=
  match Template.compile f.format f.color with
  | .error error => (.error (.failed error), f)
  | .ok c =>
      match Line.render (f.view s) e c with
      | .error fault => (.error (.stopped fault), f)
      | .ok line => (.ok line, { f with last := e.time })

/-- The same formatter with other options. -/
def withOptions (f : ForgetfulFormatter) (change : RenderOptions → RenderOptions) :
    ForgetfulFormatter :=
  { f with options := change f.options }

/-- One call. -/
def perform (f : ForgetfulFormatter) : FormatterCall → FormatterAnswer × ForgetfulFormatter
  | .setFormat formats => (.nothing, { f with format := TextFormatter.firstFormat formats })
  | .setColor color => (.nothing, { f with color := color })
  | .setPalette palette => (.nothing, f.withOptions fun o => { o with palette := palette })
  | .setTimeLayout layout =>
      match layout.validate with
      | .error error => (.result (.error error), f)
      | .ok _ => (.result (.ok ()), f.withOptions fun o => { o with timeLayout := layout })
  | .setLevelName level name =>
      (.nothing, f.withOptions fun o => { o with levelNames := o.levelNames.insert level name })
  | .setPrecision precision =>
      (.nothing, f.withOptions fun o => { o with precision := precision })
  | .setDurationText write =>
      (.nothing, f.withOptions fun o => { o with durationText := write })
  | .setCallerText write => (.nothing, f.withOptions fun o => { o with callerText := write })
  | .setZone zone => (.nothing, f.withOptions fun o => { o with zone := zone })
  | .setBaseTime time => (.nothing, { f with baseTime := time, last := time })
  | .compile => (.template (Template.compile f.format f.color), f)
  | .write settings e =>
      let (result, f) := f.write settings e
      (.line result, f)

/-- Calls one after the other, with their answers. -/
def run (f : ForgetfulFormatter) : List FormatterCall → List FormatterAnswer × ForgetfulFormatter
  | [] => ([], f)
  | c :: rest =>
      let (answer, f) := f.perform c
      let (answers, f) := f.run rest
      (answer :: answers, f)

end ForgetfulFormatter

/-! ## Remembered painters -/

namespace Painters

section Agreement

variable (color : Bool) (palette : SortedMap Level (List Sgr.Attribute))

/-- What is remembered is what the palette says. -/
def Agrees (p : Painters) : Prop := ∀ q ∈ p, q.2 = painterOf color palette q.1.1 q.1.2

variable {color palette} {p : Painters}

/-- Painters that agree with the palette cannot be told from it. -/
theorem Agrees.painter_eq (h : p.Agrees color palette) :
    p.painter color palette = painterOf color palette := by
  funext spec l
  rw [painter]
  cases hfound : p.lookup (spec, l) with
  | none => rfl
  | some remembered => exact h _ (mem_of_lookup hfound)

theorem Agrees.remember (h : p.Agrees color palette) (l : Level) (spec : FieldSpec) :
    (p.remember color palette l spec).Agrees color palette := by
  unfold Painters.remember
  split
  · exact h
  · exact List.forall_mem_cons.mpr ⟨rfl, h⟩

theorem Agrees.rememberAll (h : p.Agrees color palette) (l : Level) (specs : List FieldSpec) :
    (p.rememberAll color palette l specs).Agrees color palette := by
  induction specs generalizing p with
  | nil => exact h
  | cons spec rest ih => exact ih (h.remember l spec)

end Agreement

end Painters

namespace TextFormatter

variable {f : TextFormatter}

/-! ## Compiling -/

/-- What a formatter keeps once it has compiled a template. -/
def keeping (f : TextFormatter) (c : Compiled) : TextFormatter :=
  { f with kept := some ⟨f.compilations, c, []⟩, compilations := f.compilations + 1 }

/-- A compilation answers what is kept.  Where nothing is kept it compiles the template, and
keeps the result under the next number unless it failed. -/
theorem compile_cases (f : TextFormatter) :
    (∃ k, f.kept = some k ∧ f.compile = (.ok k, f)) ∨
    (∃ error, f.kept = none ∧ Template.compile f.format f.color = .error error ∧
      f.compile = (.error error, f)) ∨
    (∃ c, f.kept = none ∧ Template.compile f.format f.color = .ok c ∧
      f.compile = (.ok ⟨f.compilations, c, []⟩, f.keeping c)) := by
  rw [TextFormatter.compile]
  cases f.kept with
  | some k => exact Or.inl ⟨k, rfl, rfl⟩
  | none =>
      cases Template.compile f.format f.color with
      | error error => exact Or.inr (Or.inl ⟨error, rfl, rfl, rfl⟩)
      | ok c => exact Or.inr (Or.inr ⟨c, rfl, rfl, rfl⟩)

/-! ## Coherence -/

/-- The same formatter without what it remembers. -/
def forgetful (f : TextFormatter) : ForgetfulFormatter where
  format := f.format
  color := f.color
  options := f.options
  baseTime := f.baseTime
  last := f.last

/-- What is remembered is what would be computed anew. -/
structure Coherent (f : TextFormatter) : Prop where
  template : ∀ k, f.kept = some k → Template.compile f.format f.color = .ok k.template
  painters : ∀ k, f.kept = some k → k.painters.Agrees f.color f.options.palette

theorem coherent_of_none (h : f.kept = none) : f.Coherent := by
  constructor <;>
    · intro k hk
      rw [h] at hk
      exact absurd hk (by simp)

/-- Coherence is a matter of the format, the color mode and the palette. -/
theorem Coherent.congr (h : f.Coherent) {f' : TextFormatter} (hkept : f'.kept = f.kept)
    (hformat : f'.format = f.format) (hcolor : f'.color = f.color)
    (hpalette : f'.options.palette = f.options.palette) : f'.Coherent := by
  constructor
  · intro k hk
    rw [hformat, hcolor]
    exact h.template k (hkept ▸ hk)
  · intro k hk
    rw [hcolor, hpalette]
    exact h.painters k (hkept ▸ hk)

/-- A template is compiled as if it had not been kept. -/
theorem Coherent.compile (h : f.Coherent) :
    (∃ error, Template.compile f.format f.color = .error error ∧ f.compile = (.error error, f)) ∨
    ∃ k f', Template.compile f.format f.color = .ok k.template ∧ f.compile = (.ok k, f') ∧
      f'.kept = some k ∧ f'.forgetful = f.forgetful ∧ f'.Coherent := by
  rcases f.compile_cases with ⟨k, hk, hcompiled⟩ | ⟨error, -, herror, hcompiled⟩ |
    ⟨c, -, hc, hcompiled⟩
  · exact Or.inr ⟨k, f, h.template k hk, hcompiled, hk, rfl, h⟩
  · exact Or.inl ⟨error, herror, hcompiled⟩
  · refine Or.inr ⟨_, _, hc, hcompiled, rfl, rfl, ⟨?_, ?_⟩⟩
    · rintro k ⟨⟩
      exact hc
    · rintro k ⟨⟩
      exact List.forall_mem_nil _

theorem Coherent.view_eq (h : f.Coherent) {k : KeptTemplate} (hk : f.kept = some k)
    (s : Settings) : f.view s k = f.forgetful.view s := by
  rw [view, (h.painters k hk).painter_eq]
  rfl

theorem Coherent.remembering (h : f.Coherent) {k : KeptTemplate} (hk : f.kept = some k)
    (s : Settings) (e : Entry) : (f.remembering s e k).Coherent := by
  constructor
  · rintro k' ⟨⟩
    exact h.template k hk
  · rintro k' ⟨⟩
    exact (h.painters k hk).rememberAll e.level _

/-- A line is the one that is written without memory. -/
theorem Coherent.write (h : f.Coherent) (s : Settings) (e : Entry) :
    (f.write s e).1 = (f.forgetful.write s e).1 ∧
      (f.write s e).2.forgetful = (f.forgetful.write s e).2 ∧ (f.write s e).2.Coherent := by
  rw [TextFormatter.write, ForgetfulFormatter.write]
  rcases h.compile with ⟨error, hcompile, hkept⟩ | ⟨k, f', hcompile, hkept, hk, hsame, hf'⟩
  · have hfresh : Template.compile f.forgetful.format f.forgetful.color = .error error := hcompile
    rw [hkept, hfresh]
    exact ⟨rfl, rfl, h⟩
  · have hfresh : Template.compile f.forgetful.format f.forgetful.color = .ok k.template :=
      hcompile
    have hremembering := hf'.remembering hk s e
    rw [hkept, hfresh, ← hsame]
    dsimp only
    rw [hf'.view_eq hk]
    cases Line.render (f'.forgetful.view s) e k.template with
    | error fault => exact ⟨rfl, rfl, hremembering⟩
    | ok line => exact ⟨rfl, rfl, hremembering.congr rfl rfl rfl rfl⟩

/-- A call answers as it does without memory, and leaves the memory coherent. -/
theorem Coherent.perform (h : f.Coherent) (c : FormatterCall) :
    (f.perform c).1 = (f.forgetful.perform c).1 ∧
      (f.perform c).2.forgetful = (f.forgetful.perform c).2 ∧ (f.perform c).2.Coherent := by
  cases c with
  | setFormat formats => exact ⟨rfl, rfl, coherent_of_none rfl⟩
  | setColor color => exact ⟨rfl, rfl, coherent_of_none rfl⟩
  | setPalette palette => exact ⟨rfl, rfl, coherent_of_none rfl⟩
  | setTimeLayout layout =>
      rw [TextFormatter.perform, TextFormatter.setTimeLayout, ForgetfulFormatter.perform]
      cases layout.validate with
      | error error => exact ⟨rfl, rfl, h⟩
      | ok _ => exact ⟨rfl, rfl, h.congr rfl rfl rfl rfl⟩
  | setLevelName level name => exact ⟨rfl, rfl, h.congr rfl rfl rfl rfl⟩
  | setPrecision precision => exact ⟨rfl, rfl, h.congr rfl rfl rfl rfl⟩
  | setDurationText write => exact ⟨rfl, rfl, h.congr rfl rfl rfl rfl⟩
  | setCallerText write => exact ⟨rfl, rfl, h.congr rfl rfl rfl rfl⟩
  | setZone zone => exact ⟨rfl, rfl, h.congr rfl rfl rfl rfl⟩
  | setBaseTime time => exact ⟨rfl, rfl, h.congr rfl rfl rfl rfl⟩
  | compile =>
      rw [TextFormatter.perform, ForgetfulFormatter.perform]
      rcases h.compile with ⟨error, hcompile, hkept⟩ | ⟨k, f', hcompile, hkept, -, hsame, hf'⟩
      · have hfresh : Template.compile f.forgetful.format f.forgetful.color = .error error :=
          hcompile
        rw [hkept, hfresh]
        exact ⟨rfl, rfl, h⟩
      · have hfresh : Template.compile f.forgetful.format f.forgetful.color = .ok k.template :=
          hcompile
        rw [hkept, hfresh]
        exact ⟨rfl, hsame, hf'⟩
  | write settings e =>
      obtain ⟨hline, hsame, hcoherent⟩ := h.write settings e
      exact ⟨congrArg FormatterAnswer.line hline, hsame, hcoherent⟩

theorem Coherent.run (h : f.Coherent) (calls : List FormatterCall) :
    (f.run calls).1 = (f.forgetful.run calls).1 := by
  -- along the calls; what carries over is that the memory is coherent
  induction calls generalizing f with
  | nil => rfl
  | cons c rest ih =>
      obtain ⟨hanswer, hsame, hcoherent⟩ := h.perform c
      have hrest := ih hcoherent
      rw [hsame] at hrest
      rw [TextFormatter.run, ForgetfulFormatter.run]
      dsimp only
      rw [hanswer, hrest]

/-! ## Numbers of compilations -/

/-- The compiled template that is kept, under the number of its compilation. -/
def object (f : TextFormatter) : Option (Nat × Compiled) :=
  f.kept.map fun k => (k.serial, k.template)

/-- The compiled template that was kept stays, or one is made where there was none. -/
def KeepsOrMakes (f f' : TextFormatter) : Prop :=
  (f'.object = f.object ∧ f'.compilations = f.compilations) ∨
    (f.object = none ∧ (∃ c, f'.object = some (f.compilations, c)) ∧
      f'.compilations = f.compilations + 1)

theorem keepsOrMakes_compile (f : TextFormatter) : f.KeepsOrMakes f.compile.2 := by
  rcases f.compile_cases with ⟨k, -, hcompiled⟩ | ⟨error, -, -, hcompiled⟩ |
    ⟨c, hnone, -, hcompiled⟩
  · rw [hcompiled]
    exact Or.inl ⟨rfl, rfl⟩
  · rw [hcompiled]
    exact Or.inl ⟨rfl, rfl⟩
  · rw [hcompiled]
    exact Or.inr ⟨by rw [object, hnone]; rfl, ⟨c, rfl⟩, rfl⟩

/-- What a compilation answers is kept afterwards. -/
theorem object_compile {k : KeptTemplate} (h : f.compile.1 = .ok k) :
    f.compile.2.object = some (k.serial, k.template) := by
  rcases f.compile_cases with ⟨k', hk, hcompiled⟩ | ⟨error, -, -, hcompiled⟩ |
    ⟨c, -, -, hcompiled⟩
  · rw [hcompiled] at h ⊢
    obtain rfl := Except.ok.inj h
    rw [object, hk]
    rfl
  · rw [hcompiled] at h
    exact absurd h (by simp)
  · rw [hcompiled] at h ⊢
    obtain rfl := Except.ok.inj h
    rfl

/-- A line leaves of the templates what its compilation leaves. -/
theorem object_write (f : TextFormatter) (s : Settings) (e : Entry) :
    (f.write s e).2.object = f.compile.2.object ∧
      (f.write s e).2.compilations = f.compile.2.compilations := by
  rw [TextFormatter.write]
  rcases f.compile_cases with ⟨k, hk, hcompiled⟩ | ⟨error, -, -, hcompiled⟩ |
    ⟨c, -, -, hcompiled⟩
  · rw [hcompiled]
    dsimp only
    split <;> exact ⟨by rw [object, object, hk]; rfl, rfl⟩
  · rw [hcompiled]
    exact ⟨rfl, rfl⟩
  · rw [hcompiled]
    dsimp only
    split <;> exact ⟨rfl, rfl⟩

/-- A call that replaces what a template depends on drops it, and no other call does. -/
theorem perform_object (f : TextFormatter) (c : FormatterCall) :
    (c.replaces = true ∧ (f.perform c).2.object = none ∧
      (f.perform c).2.compilations = f.compilations) ∨
    (c.replaces = false ∧ f.KeepsOrMakes (f.perform c).2) := by
  have hsame : f.KeepsOrMakes f := Or.inl ⟨rfl, rfl⟩
  cases c with
  | setFormat formats => exact Or.inl ⟨rfl, rfl, rfl⟩
  | setColor color => exact Or.inl ⟨rfl, rfl, rfl⟩
  | setPalette palette => exact Or.inl ⟨rfl, rfl, rfl⟩
  | setTimeLayout layout =>
      refine Or.inr ⟨rfl, ?_⟩
      rw [TextFormatter.perform, TextFormatter.setTimeLayout]
      cases layout.validate with
      | error error => exact hsame
      | ok _ => exact hsame
  | setLevelName level name => exact Or.inr ⟨rfl, hsame⟩
  | setPrecision precision => exact Or.inr ⟨rfl, hsame⟩
  | setDurationText write => exact Or.inr ⟨rfl, hsame⟩
  | setCallerText write => exact Or.inr ⟨rfl, hsame⟩
  | setZone zone => exact Or.inr ⟨rfl, hsame⟩
  | setBaseTime time => exact Or.inr ⟨rfl, hsame⟩
  | compile => exact Or.inr ⟨rfl, f.keepsOrMakes_compile⟩
  | write settings e =>
      obtain ⟨hobject, hcompilations⟩ := f.object_write settings e
      refine Or.inr ⟨rfl, ?_⟩
      rw [KeepsOrMakes]
      change (f.write settings e).2.object = _ ∧ (f.write settings e).2.compilations = _ ∨ _ ∧
        (∃ c, (f.write settings e).2.object = _) ∧ (f.write settings e).2.compilations = _
      rw [hobject, hcompilations]
      exact f.keepsOrMakes_compile

/-- The template that is kept was made after some number of compilations, and by one of those
made so far. -/
def MadeFrom (f : TextFormatter) (n : Nat) : Prop :=
  n ≤ f.compilations ∧ ∀ object, f.object = some object → n ≤ object.1 ∧ object.1 < f.compilations

theorem MadeFrom.keepsOrMakes {n : Nat} (h : f.MadeFrom n) {f' : TextFormatter}
    (h' : f.KeepsOrMakes f') : f'.MadeFrom n := by
  rcases h' with ⟨hobject, hcompilations⟩ | ⟨-, ⟨c, hobject⟩, hcompilations⟩
  · rw [MadeFrom, hobject, hcompilations]
    exact h
  · rw [MadeFrom, hobject, hcompilations]
    refine ⟨Nat.le_succ_of_le h.1, ?_⟩
    rintro object ⟨⟩
    exact ⟨h.1, Nat.lt_succ_self _⟩

theorem MadeFrom.of_none {n : Nat} (hn : n ≤ f.compilations) (hnone : f.object = none) :
    f.MadeFrom n := by
  refine ⟨hn, fun object hobject => ?_⟩
  rw [hnone] at hobject
  exact absurd hobject (by simp)

theorem MadeFrom.perform {n : Nat} (h : f.MadeFrom n) (c : FormatterCall) :
    (f.perform c).2.MadeFrom n := by
  rcases f.perform_object c with ⟨-, hnone, hcompilations⟩ | ⟨-, hkept⟩
  · exact .of_none (hcompilations ▸ h.1) hnone
  · exact h.keepsOrMakes hkept

theorem MadeFrom.after {n : Nat} (h : f.MadeFrom n) (calls : List FormatterCall) :
    (f.after calls).MadeFrom n := by
  induction calls generalizing f with
  | nil => exact h
  | cons c rest ih => exact ih (h.perform c)

/-- While nothing is replaced the template stays, and afterwards the one that is kept, if any,
was made later. -/
theorem object_after {object : Nat × Compiled} (h : f.object = some object)
    (hnumber : object.1 < f.compilations) (calls : List FormatterCall) :
    ((∀ c ∈ calls, c.replaces = false) ∧ (f.after calls).object = some object) ∨
    ((¬ ∀ c ∈ calls, c.replaces = false) ∧ (f.after calls).MadeFrom (object.1 + 1)) := by
  induction calls generalizing f with
  | nil => exact Or.inl ⟨List.forall_mem_nil _, h⟩
  | cons c rest ih =>
      rw [after_cons, List.forall_mem_cons]
      rcases f.perform_object c with ⟨hc, hnone, hcompilations⟩ | ⟨hc, hkept⟩
      · have hlater : (f.perform c).2.MadeFrom (object.1 + 1) :=
          .of_none (hcompilations ▸ hnumber) hnone
        refine Or.inr ⟨fun hall => ?_, hlater.after rest⟩
        rw [hc] at hall
        exact absurd hall.1 (by decide)
      · rcases hkept with ⟨hobject, hcompilations⟩ | ⟨hnone, -, -⟩
        · rw [hc]
          simp only [true_and]
          exact ih (hobject.trans h) (hcompilations ▸ hnumber)
        · rw [h] at hnone
          exact absurd hnone (by simp)

/-- Two compilations answer the same compiled template exactly if no call between them replaced
what it depends on. -/
theorem serial_compile_iff (hmade : f.MadeFrom 0) (between : List FormatterCall)
    {k k' : KeptTemplate} (hk : f.compile.1 = .ok k)
    (hk' : (f.after (.compile :: between)).compile.1 = .ok k') :
    (k.serial = k'.serial ↔ ∀ c ∈ between, c.replaces = false) ∧
      (k.serial = k'.serial → k.template = k'.template) := by
  have hfirst : f.compile.2.object = some (k.serial, k.template) := object_compile hk
  have hnumber := ((hmade.keepsOrMakes f.keepsOrMakes_compile).2 _ hfirst).2
  have hlast := object_compile hk'
  rcases object_after hfirst hnumber between with ⟨hnone, hobject⟩ | ⟨hsome, hlater⟩
  · -- the second compilation finds what the first one left
    have hsame : some (k'.serial, k'.template) = some (k.serial, k.template) := by
      rcases keepsOrMakes_compile (f.after (.compile :: between)) with ⟨hkept, -⟩ | ⟨hempty, -⟩
      · exact hlast.symm.trans (hkept.trans hobject)
      · exact absurd (hempty.symm.trans hobject) (by simp)
    obtain ⟨hserial, htemplate⟩ := Prod.mk.inj (Option.some.inj hsame)
    exact ⟨iff_of_true hserial.symm hnone, fun _ => htemplate.symm⟩
  · have hafter := ((hlater.keepsOrMakes (keepsOrMakes_compile _)).2 _ hlast).1
    have hne : k.serial ≠ k'.serial := fun heq => by
      rw [heq] at hafter
      exact Nat.not_succ_le_self _ hafter
    exact ⟨iff_of_false hne hsome, fun heq => absurd heq hne⟩

/-- What a formatter remembers cannot be seen, whatever its options are when it has not compiled
anything yet.  Its answers are those of the formatter that compiles the current format in the
current color mode for every line and takes every control sequence from the current palette; and
two compilations that succeed answer the same compiled template exactly if the format, the color
mode and the palette were not replaced in between. -/
theorem run_forgetful (hnew : f.kept = none) :
    (∀ calls, (f.run calls).1 = (f.forgetful.run calls).1) ∧
    ∀ before between k k', (f.after before).compile.1 = .ok k →
      (f.after (before ++ .compile :: between)).compile.1 = .ok k' →
      (k.serial = k'.serial ↔ ∀ c ∈ between, c.replaces = false) ∧
        (k.serial = k'.serial → k.template = k'.template) := by
  constructor
  · exact (coherent_of_none hnew).run
  · intro before between k k' hk hk'
    have hmade : f.MadeFrom 0 := .of_none (Nat.zero_le _) (by rw [object, hnew]; rfl)
    rw [after_append] at hk'
    exact serial_compile_iff (hmade.after before) between hk hk'

/-- Formatter of messages in the color of their level. -/
def coloredMessages : TextFormatter := new true ["%message:color%"] ⟨0, 0⟩

/-- A line in the colors of the standard palette, and another zone. -/
def unreplaced : List FormatterCall :=
  [.write (.ofConfig .empty ⟨0, 0⟩ false) ⟨.error, "hot", ⟨0, 0⟩, "", .empty, none⟩,
    .setZone (some 3600)]

/-- These calls, and another palette. -/
def replaced : List FormatterCall := unreplaced ++ [.setPalette .empty]

theorem exists_template_of_isOk {result : Except LogError KeptTemplate}
    (h : result.isOk = true) : ∃ k, result = .ok k := by
  cases result with
  | ok k => exact ⟨k, rfl⟩
  | error error => exact absurd h Bool.false_ne_true

/-- A line and another zone leave the compiled template of colored messages as it is, and
another palette does not. -/
theorem run_forgetful_colored :
    coloredMessages.kept = none ∧ ∃ k k' k'',
      (coloredMessages.after []).compile.1 = .ok k ∧
      (coloredMessages.after ([] ++ .compile :: unreplaced)).compile.1 = .ok k' ∧
      (coloredMessages.after ([] ++ .compile :: replaced)).compile.1 = .ok k'' ∧
      k.serial = k'.serial ∧ k.template = k'.template ∧ k.serial ≠ k''.serial ∧
      (coloredMessages.run replaced).1 = (coloredMessages.forgetful.run replaced).1 := by
  have hfirst : (coloredMessages.after []).compile.1.isOk = true := by decide +kernel
  have hsecond : (coloredMessages.after ([] ++ .compile :: unreplaced)).compile.1.isOk = true := by
    decide +kernel
  have hthird : (coloredMessages.after ([] ++ .compile :: replaced)).compile.1.isOk = true := by
    decide +kernel
  obtain ⟨k, hk⟩ := exists_template_of_isOk hfirst
  obtain ⟨k', hk'⟩ := exists_template_of_isOk hsecond
  obtain ⟨k'', hk''⟩ := exists_template_of_isOk hthird
  obtain ⟨hanswers, hobjects⟩ := run_forgetful (f := coloredMessages) rfl
  obtain ⟨hsame, htemplate⟩ := hobjects [] unreplaced k k' hk hk'
  have hkept : k.serial = k'.serial := hsame.mpr (by decide +kernel)
  have hnew : k.serial ≠ k''.serial := fun heq =>
    absurd ((hobjects [] replaced k k'' hk hk'').1.mp heq) (by decide +kernel)
  exact ⟨rfl, k, k', k'', hk, hk', hk'', hkept, htemplate hkept, hnew, hanswers replaced⟩

end TextFormatter

end Hooklog
