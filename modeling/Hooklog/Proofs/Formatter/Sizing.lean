import Hooklog.Proofs.Formatter.Decoration
import Hooklog.Proofs.Formatter.Stopping

/-!
# Limit and width

Limit and width of a field count the characters of its transformed value, which letter case can
make longer or shorter than the value itself.  They are applied in this order, inside the brackets
and in front of the space, and without colors nothing else is put around them.

* `Line.IsSized` says what a text is cut and filled up to, by numbers of characters.
* `Line.exists_isSized` proves this of a field, and `Line.sizedAt?_eq` that the cut may be made at a
  byte offset.
* `TextFormatter.IsReachable.colorless` says that without colors no control sequence is put
  in front of a field, whatever was remembered before.
* `TextFormatter.sized_inside_bracket` is the main statement, about every field of every formatter
  without colors.
-/

namespace Hooklog

open Text Template

namespace Line

/-- Number of characters that are left of so many by the limit of a field. -/
def keptCount (spec : FieldSpec) (n : Nat) : Nat := spec.limit.elim n fun limit => min limit n

/-- Number of characters that the width of a field asks for. -/
def leastCount (spec : FieldSpec) : Nat := spec.width.elim 0 Int.natAbs

/-- Whether the width of a field puts its text to the left. -/
def alignsLeft (spec : FieldSpec) : Bool := spec.width.elim false fun w => decide (w < 0)

/-- The first characters of a text, as many as the limit allows, with spaces on one side, as many
as the width asks for. -/
structure IsSized (spec : FieldSpec) (u inner : List Char) : Prop where
  length : inner.length = max (leastCount spec) (keptCount spec u.length)
  left : alignsLeft spec = true →
    ∃ n, inner = u.take (keptCount spec u.length) ++ List.replicate n ' '
  right : alignsLeft spec = false →
    ∃ n, inner = List.replicate n ' ' ++ u.take (keptCount spec u.length)

/-- Text of a field that is cut at the byte offset of the first character beyond the limit. -/
def sizedAt? (spec : FieldSpec) (u : List Char) : Option (Except Fault (List Char)) :=
  (spec.limit.elim (some u) fun limit => truncated? limit u).map fun cut =>
    spec.width.elim (.ok cut) fun w => fillWidth w cut

/-! ## The size of a field -/

section Sizes

variable {spec : FieldSpec}

theorem limited_eq_take (spec : FieldSpec) (u : List Char) :
    limited spec u = u.take (keptCount spec u.length) := by
  unfold limited keptCount
  cases spec.limit with
  | none => exact List.take_length.symm
  | some n =>
      show u.take n = u.take (min n u.length)
      rw [List.take_eq_take_iff]
      omega

theorem length_limited (spec : FieldSpec) (u : List Char) :
    (limited spec u).length = keptCount spec u.length := by
  rw [limited_eq_take, List.length_take]
  unfold keptCount
  cases spec.limit with
  | none => exact Nat.min_self _
  | some n =>
      show min (min n u.length) u.length = min n u.length
      omega

theorem sized_eq (spec : FieldSpec) (u : List Char) :
    sized spec u = spec.width.elim (.ok (limited spec u)) fun w => fillWidth w (limited spec u) := by
  unfold sized limited
  cases spec.width <;> rfl

/-- A text is brought to the size of every field whose width can be filled up to. -/
theorem exists_isSized (h : Fits spec) (u : List Char) :
    ∃ inner, sized spec u = .ok inner ∧ IsSized spec u inner := by
  have hlength := length_limited spec u
  rw [sized_eq]
  cases hwidth : spec.width with
  | none =>
      refine ⟨limited spec u, rfl, ?_, ?_, ?_⟩
      · simp [leastCount, hwidth, hlength]
      · intro hleft
        simp [alignsLeft, hwidth] at hleft
      · intro _
        exact ⟨0, limited_eq_take spec u⟩
  | some w =>
      have hfill : ¬ maxWidth < w.natAbs := Nat.not_lt.mpr (h w hwidth)
      have hleast : leastCount spec = w.natAbs := by simp [leastCount, hwidth]
      have hside : alignsLeft spec = decide (w < 0) := by simp [alignsLeft, hwidth]
      show ∃ inner, fillWidth w (limited spec u) = .ok inner ∧ IsSized spec u inner
      rw [fillWidth, if_neg hfill]
      refine ⟨_, rfl, ?_, ?_, ?_⟩
      · split <;> simp only [List.length_append, List.length_replicate, hlength, hleast] <;> omega
      · intro hleft
        rw [hside, decide_eq_true_eq] at hleft
        rw [if_pos hleft, limited_eq_take]
        exact ⟨_, rfl⟩
      · intro hright
        rw [hside, decide_eq_false_iff_not] at hright
        rw [if_neg hright, limited_eq_take]
        exact ⟨_, rfl⟩

/-- A cut at a byte offset is a cut behind as many characters. -/
theorem sizedAt?_eq (spec : FieldSpec) (u : List Char) : sizedAt? spec u = some (sized spec u) := by
  have hcut : (spec.limit.elim (some u) fun limit => truncated? limit u) = some (limited spec u) := by
    unfold limited
    cases spec.limit with
    | none => rfl
    | some n => exact truncated?_eq n u
  rw [sizedAt?, hcut, sized_eq]
  rfl

end Sizes

/-! ## The pass of a field -/

/-- Without colors a field is its sized text in brackets, and its space. -/
theorem dressed_of_colorless {v : View} (hcolor : v.color = false)
    (hpainter : v.painter = fun _ _ => none) (l : Level) {spec : FieldSpec} {value : String}
    {inner : List Char}
    (h : sized spec (spec.transform.apply (Sgr.strip value.toList)) = .ok inner) :
    dressed v l spec value = .ok (String.ofList (framed spec inner)) := by
  have hprepared : prepared v spec value = spec.transform.apply (Sgr.strip value.toList) := by
    simp [prepared, hcolor]
  have hpainted : painted v l spec (framed spec inner) = String.ofList (framed spec inner) := by
    rw [painted, hpainter]
  rw [dressed, hprepared, h]
  exact congrArg Except.ok hpainted

end Line

/-! ## Formatters without colors -/

namespace TextFormatter

/-- Whether a formatter puts no control sequences in front of fields while it is without colors. -/
def Colorless (f : TextFormatter) : Prop := f.color = false → f.sequence = fun _ _ => none

variable {f : TextFormatter}

theorem Colorless.perform (h : f.Colorless) (hf : f.Faithful) (c : FormatterCall) :
    (f.perform c).2.Colorless := by
  intro hcolor
  obtain ⟨-, hsame, -, hsequence⟩ := hf.perform c
  rw [hsequence]
  split
  · rw [hcolor]
    exact painterOf_false _
  · rename_i hkeeps
    rw [Bool.not_eq_true] at hkeeps
    have hafter : (f.perform c).2.color = f.color :=
      (congrArg ForgetfulFormatter.color hsame).trans
        (f.forgetful.template_performWith f.sequence hkeeps).2
    exact h (hafter ▸ hcolor)

/-- A palette given in building changes no sequence that is remembered, and without colors it
gives none. -/
theorem Colorless.withPalette (h : f.Colorless)
    (palette : SortedMap Level (List Sgr.Attribute)) : (f.withPalette palette).Colorless := by
  intro hcolor
  have hcolor' : f.color = false := hcolor
  have hnone := h hcolor'
  unfold sequence at hnone ⊢
  rcases hkept : f.kept with _ | k
  · have hkept' : (f.withPalette palette).kept = none := hkept
    rw [hkept', hcolor]
    exact painterOf_false _
  · have hkept' : (f.withPalette palette).kept = some k := hkept
    rw [hkept] at hnone
    rw [hkept', hcolor]
    rw [hcolor'] at hnone
    funext spec l
    have hspec := congrFun (congrFun hnone spec) l
    simp only [Painters.painter, painterOf_false] at hspec ⊢
    exact hspec

/-- No operation makes a formatter without colors put control sequences in front of fields. -/
theorem IsReachable.colorless (h : f.IsReachable) : f.Colorless := by
  induction h with
  | start hnone =>
      intro hcolor
      rw [sequence, hnone, hcolor]
      exact painterOf_false _
  | call c hf ih => exact ih.perform hf.faithful c
  | @build f built o hf hbuilt ih =>
      by_cases hpalette : ∃ colors, o = .palette colors
      · obtain ⟨colors, rfl⟩ := hpalette
        obtain rfl := Except.ok.inj hbuilt
        exact ih.withPalette colors
      · rw [build_eq_ok hbuilt fun colors ho => hpalette ⟨colors, ho⟩]
        exact ih.perform hf.faithful o.setting

/-- Limit and width measure characters of the transformed value.  A formatter without colors, after
any operations, renders a value that is not left out as follows.  The value loses its control
sequences and takes the letter case of the field; of the result the first characters, as many as
the limit allows, are filled up with spaces to the width, on the right for a negative one and else
on the left.  The brackets stand around that, and the space behind them.  This is the pass of a
field, whose text is then attached to its key or to the style of values, and of these styles. -/
theorem sized_inside_bracket (hf : f.IsReachable) (hcolor : f.color = false) {k : KeptTemplate}
    {f' : TextFormatter} (hcompile : f.compile = (.ok k, f')) (s : Settings) (l : Level)
    {spec : FieldSpec} (hfits : Line.Fits spec) {value : String}
    (hshown : Line.isSkipped spec value = false) :
    let v := f'.view s k
    let u := spec.transform.apply (Sgr.strip value.toList)
    ∃ inner, Line.IsSized spec u inner ∧ Line.sizedAt? spec u = some (.ok inner) ∧
      let text := String.ofList (spec.bracket.wrap inner ++ if spec.addSpace then [' '] else [])
      Line.dressed v l spec value = .ok text ∧ Line.styled v l spec value = .ok text ∧
        ∀ key printKey, Line.fieldText v l k.template spec key value printKey =
          Line.attached v l k.template spec key text printKey := by
  intro v u
  have hcompiled : f'.kept = some k ∧ f'.forgetful = f.forgetful ∧ f'.sequence = f.sequence := by
    rcases hf.faithful.compile with ⟨error, -, herror⟩ | ⟨k', f'', -, hok, hkept, hsame, hsequence⟩
    · rw [hcompile] at herror
      simp at herror
    · rw [hcompile] at hok
      simp only [Prod.mk.injEq, Except.ok.injEq] at hok
      obtain ⟨rfl, rfl⟩ := hok
      exact ⟨hkept, hsame, hsequence⟩
  obtain ⟨hkept, hsame, hsequence⟩ := hcompiled
  have hv : v.color = false := (congrArg ForgetfulFormatter.color hsame).trans hcolor
  have hpainter : v.painter = fun _ _ => none := by
    have hown : v.painter = f'.sequence := by
      rw [sequence, hkept]
      rfl
    rw [hown, hsequence]
    exact hf.colorless hcolor
  obtain ⟨inner, hsized, hinner⟩ := Line.exists_isSized hfits u
  have hdressed := Line.dressed_of_colorless hv hpainter l hsized
  have hskip : ¬ Line.isSkipped spec value = true := by simp [hshown]
  refine ⟨inner, hinner, by rw [Line.sizedAt?_eq, hsized], hdressed, ?_, fun key printKey => ?_⟩
  · rw [Line.styled, if_neg hskip]
    exact hdressed
  · rw [Line.fieldText, if_neg hskip, hdressed]
    rfl

/-- Formatter with a field that is cut and filled up in upper case. -/
def sizingFormatter : TextFormatter := new false ["%-6.3message:upper,square,space%"] ⟨0, 0⟩

/-- The field of its template. -/
def sizingField : FieldSpec :=
  { FieldSpec.plain .message false with
    transform := .upper, bracket := .square, addSpace := true, width := some (-6), limit := some 3 }

/-- A painted value of three characters has five in upper case, of which three are kept. -/
theorem sized_inside_bracket_upper :
    let c : Compiled := .ofItems (items sizingFormatter.format false)
    let value := "\x1b[31mßaß\x1b[0m"
    sizingFormatter.IsReachable ∧ sizingFormatter.color = false ∧
      sizingFormatter.compile = (.ok ⟨0, c, []⟩, sizingFormatter.keeping c) ∧
      sizingField ∈ c.fields ∧ Line.Fits sizingField ∧ Line.isSkipped sizingField value = false ∧
      Line.dressed ((sizingFormatter.keeping c).view plainSettings ⟨0, c, []⟩) .info sizingField
        value = .ok "[SSA   ] " := by
  intro c value
  have hreachable : sizingFormatter.IsReachable := .start rfl
  have hc : Template.compile sizingFormatter.format sizingFormatter.color = .ok c :=
    compile_eq_ok_iff.mpr ⟨by decide +kernel, rfl⟩
  have hcompile : sizingFormatter.compile = (.ok ⟨0, c, []⟩, sizingFormatter.keeping c) := by
    rcases sizingFormatter.compile_cases with ⟨k, hk, -⟩ | ⟨error, -, herror, -⟩ |
      ⟨c', -, hc', hcompiled⟩
    · simp [sizingFormatter, new] at hk
    · rw [hc] at herror
      simp at herror
    · rw [hc] at hc'
      obtain rfl := Except.ok.inj hc'
      exact hcompiled
  have hfits : Line.Fits sizingField := by
    intro w hw
    obtain rfl := Option.some.inj hw
    decide
  have hshown : Line.isSkipped sizingField value = false := by decide +kernel
  obtain ⟨inner, -, hinner, hdressed, -⟩ := sized_inside_bracket hreachable rfl hcompile
    plainSettings .info hfits hshown
  have hupper : sizingField.transform.apply (Sgr.strip value.toList) = "SSASS".toList := by
    decide +kernel
  have hcut : Line.sizedAt? sizingField "SSASS".toList = some (.ok "SSA   ".toList) := rfl
  rw [hupper, hcut] at hinner
  obtain rfl := Except.ok.inj (Option.some.inj hinner)
  exact ⟨hreachable, rfl, hcompile, by decide +kernel, hfits, hshown, hdressed⟩

end TextFormatter

end Hooklog
