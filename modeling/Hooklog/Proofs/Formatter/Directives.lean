import Hooklog.Proofs.Formatter.Remaining
import Hooklog.Proofs.Template.Joining

/-!
# Style directives

A placeholder for the style of keys or of values writes nothing.  It sets the style of the whole
template, and the last one of each kind is the one that counts.  So what stands before such a
directive may well depend on it, and this module says when.

* `ofItems_directive` says what a directive changes: one style, unless another directive of its
  kind follows, and nothing else.
* `fieldValue_congr` says what the text of a field depends on: the names looked up in the
  template, and the styles that the field is shown in.
* `render_directive` is the main statement.
-/

namespace Hooklog

namespace Template

/-- The placeholder is shown in a style: without the keyword `none`, its value in the style of
values, and in the style of keys what keys it has. -/
def Placeholder.IsShownIn (style : Token) (p : Placeholder) : Prop :=
  p.token.IsValue ∧ mentions ["none"] p.names = false ∧
    (style = .keyStyle → mentions ["key"] p.names = true ∨ p.token = .fields)

/-- Among some segments is a directive for the same style as a placeholder. -/
def Placeholder.OverruledBy (p : Placeholder) (segs : List Segment) : Prop :=
  ∃ q, .placeholder q ∈ segs ∧ q.token = p.token

/-- A template with another style in place of its own one of the same kind. -/
def Compiled.restyled (c : Compiled) (style : FieldSpec) : Compiled :=
  if style.token = .keyStyle then { c with keyStyle := style } else { c with valueStyle := style }

theorem Placeholder.plainKey_spec (p : Placeholder) (color : Bool) :
    (p.spec color).plainKey = mentions ["none"] p.names := by
  rw [Placeholder.spec, applyKeywords_eq]
  rfl

theorem Placeholder.printKey_spec (p : Placeholder) (color : Bool) :
    (p.spec color).printKey = mentions ["key"] p.names := by
  rw [Placeholder.spec, applyKeywords_eq]
  rfl

/-! ## What a directive changes -/

section Inserting

variable {p : Placeholder} (before after : List Segment)

theorem placeholdersOf_ne_nil_iff {segs : List Segment} :
    placeholdersOf p.token segs ≠ [] ↔ p.OverruledBy segs := by
  constructor
  · intro hsome
    obtain ⟨q, hq⟩ := List.exists_mem_of_ne_nil _ hsome
    exact ⟨q, mem_placeholdersOf_iff.mp hq⟩
  · rintro ⟨q, hq⟩
    exact List.ne_nil_of_mem (mem_placeholdersOf_iff.mpr hq)

/-- The last style with a directive in between: the directive counts exactly if no other one of
its kind follows. -/
theorem lastSpec_directive (style : FieldSpec) (color : Bool) :
    (p.OverruledBy after →
      lastSpec style color (placeholdersOf p.token (before ++ .placeholder p :: after)) =
        lastSpec style color (placeholdersOf p.token (before ++ after))) ∧
    (¬p.OverruledBy after →
      lastSpec style color (placeholdersOf p.token (before ++ .placeholder p :: after)) =
        p.spec color) := by
  rw [placeholdersOf_append, placeholdersOf_append, placeholdersOf_cons_of_eq rfl, lastSpec_append,
    lastSpec_append, lastSpec_cons]
  constructor
  · intro hoverruled
    exact lastSpec_of_ne_nil (placeholdersOf_ne_nil_iff.mpr hoverruled) color _ _
  · intro hlast
    rw [← placeholdersOf_ne_nil_iff, ne_eq, Decidable.not_not] at hlast
    rw [hlast]
    rfl

/-- A directive of one kind leaves the style of the other kind alone. -/
theorem placeholdersOf_directive {t : Token} (h : p.token ≠ t) :
    placeholdersOf t (before ++ .placeholder p :: after) = placeholdersOf t (before ++ after) := by
  rw [placeholdersOf_append, placeholdersOf_append, placeholdersOf_cons_of_ne h]

/-- A directive changes nothing if another one of its kind follows.  Otherwise it replaces the
style of its kind, and neither literal text nor fields. -/
theorem ofItems_directive (hp : p.token.isStyle = true) (color : Bool) :
    (p.OverruledBy after →
      Compiled.ofItems ((before ++ .placeholder p :: after).map (Segment.item color)) =
        .ofItems ((before ++ after).map (Segment.item color))) ∧
    (¬p.OverruledBy after →
      Compiled.ofItems ((before ++ .placeholder p :: after).map (Segment.item color)) =
        (Compiled.ofItems ((before ++ after).map (Segment.item color))).restyled
          (p.spec color)) := by
  have hskeleton :
      skeletonOf ((before ++ .placeholder p :: after).map (Segment.item color)) =
        skeletonOf ((before ++ after).map (Segment.item color)) := by
    simp only [List.map_append, List.map_cons, skeletonOf_append]
    rcases item_of_style hp color with hitem | hitem <;> rw [hitem, skeletonOf]
    all_goals simp
  have hfields : fieldsFrom 0 ((before ++ .placeholder p :: after).map (Segment.item color)) =
      fieldsFrom 0 ((before ++ after).map (Segment.item color)) := by
    simp only [List.map_append, List.map_cons, fieldsFrom_append, fieldsFrom_style hp]
  simp only [Compiled.ofItems, Compiled.restyled, styleAfter_eq Token.isStyle_keyStyle,
    styleAfter_eq Token.isStyle_valueStyle, hskeleton, hfields, p.spec_token]
  rcases Token.eq_of_isStyle hp with hkey | hvalue
  · have hother : p.token ≠ .valueStyle := by rw [hkey]; decide
    have hlast := lastSpec_directive (p := p) before after defaultKeyStyle color
    rw [hkey] at hlast
    rw [placeholdersOf_directive before after hother, if_pos hkey]
    exact ⟨fun h => by rw [hlast.1 h], fun h => by rw [hlast.2 h]⟩
  · have hother : p.token ≠ .keyStyle := by rw [hvalue]; decide
    have hlast := lastSpec_directive (p := p) before after defaultValueStyle color
    rw [hvalue] at hlast
    rw [placeholdersOf_directive before after hother, if_neg hother]
    exact ⟨fun h => by rw [hlast.1 h], fun h => by rw [hlast.2 h]⟩

end Inserting

end Template

namespace Line

open Text Template

/-! ## What the text of a field depends on -/

/-- Two templates cannot be told apart by a field: they look up the same names and agree in the
styles that the field is shown in. -/
structure SameFor (spec : FieldSpec) (c c' : Compiled) : Prop where
  names : namesUsed c = namesUsed c'
  valueStyle : spec.plainKey = false → c.valueStyle = c'.valueStyle
  keyStyle : spec.plainKey = false → spec.printKey = true ∨ spec.token = .fields →
    c.keyStyle = c'.keyStyle

theorem SameFor.symm {spec : FieldSpec} {c c' : Compiled} (h : SameFor spec c c') :
    SameFor spec c' c where
  names := h.names.symm
  valueStyle hplain := (h.valueStyle hplain).symm
  keyStyle hplain hkeys := (h.keyStyle hplain hkeys).symm

section Congruence

variable {v : View} {l : Level} {e : Entry} {c c' : Compiled} {spec : FieldSpec}
  {key value : String}

theorem styledPair_congr (hkey : c.keyStyle = c'.keyStyle) (hvalue : c.valueStyle = c'.valueStyle) :
    styledPair v l c key value = styledPair v l c' key value := by
  rw [styledPair, styledPair, hkey, hvalue]

theorem attached_congr (h : SameFor spec c c') {printKey : Bool}
    (hkeys : printKey = true → spec.printKey = true ∨ spec.token = .fields) :
    attached v l c spec key value printKey = attached v l c' spec key value printKey := by
  unfold attached
  cases hplain : spec.plainKey with
  | true => rfl
  | false =>
      have hvalue := h.valueStyle hplain
      cases printKey with
      | false => simp [hvalue]
      | true => simp [styledPair_congr (h.keyStyle hplain (hkeys rfl)) hvalue]

theorem fieldText_congr (h : SameFor spec c c') {printKey : Bool}
    (hkeys : printKey = true → spec.printKey = true ∨ spec.token = .fields) :
    fieldText v l c spec key value printKey = fieldText v l c' spec key value printKey := by
  simp only [fieldText, attached_congr h hkeys]

theorem remainingText_congr (h : SameFor spec c c') (hfields : spec.token = .fields) :
    remainingText v l c spec = remainingText v l c' spec := by
  funext q
  unfold remainingText
  cases hplain : spec.plainKey with
  | true => rfl
  | false =>
      simp only [styledPair_congr (h.keyStyle hplain (Or.inr hfields)) (h.valueStyle hplain)]

/-- The text of a field is the same under templates that it cannot tell apart. -/
theorem fieldValue_congr (h : SameFor spec c c') :
    fieldValue v e c spec = fieldValue v e c' spec := by
  unfold fieldValue
  by_cases hfields : spec.token = .fields
  · have hremaining : remaining c e spec = remaining c' e spec := by
      rw [remaining, remaining, h.names]
    simp only [if_pos hfields, remainingFieldText, hremaining, remainingText_congr h hfields,
      fieldText_congr h fun _ => Or.inr hfields]
  · have hkeys : ∀ b, (spec.printKey && b) = true → spec.printKey = true ∨ spec.token = .fields :=
      fun b hb => Or.inl (Bool.and_eq_true_iff.mp hb).1
    simp only [if_neg hfields, ownText, fieldText_congr h (hkeys _)]

/-- Parts of a template show the same under templates that none of their fields can tell
apart. -/
theorem Shows.congr {color : Bool} {offset : Nat} {segs : List Segment} {out : List Char}
    (h : ∀ q, .placeholder q ∈ segs → q.token.IsValue → SameFor (q.spec color) c c')
    (hshows : Shows v e c color offset segs out) : Shows v e c' color offset segs out := by
  induction hshows with
  | nil => exact .nil
  | literal _ ih => exact .literal (ih fun q hq => h q (List.mem_cons_of_mem _ hq))
  | style hstyle _ ih => exact .style hstyle (ih fun q hq => h q (List.mem_cons_of_mem _ hq))
  | switch hunset _ ih => exact .switch hunset (ih fun q hq => h q (List.mem_cons_of_mem _ hq))
  | @value offset p text rest out hvalue htext _ ih =>
      have hsame := h p List.mem_cons_self hvalue
      -- where the field stands plays no part
      have hmoved : SameFor { p.spec color with position := offset } c c' :=
        ⟨hsame.names, hsame.valueStyle, hsame.keyStyle⟩
      rw [fieldValue_congr hmoved] at htext
      exact .value hvalue htext (ih fun q hq => h q (List.mem_cons_of_mem _ hq))

end Congruence

/-! ## Templates with a directive -/

/-- A placeholder that is not shown in a style cannot tell apart the templates that differ in this
style. -/
theorem sameFor_restyled {q p : Placeholder} (hq : q.token.IsValue) (hp : p.token.isStyle = true)
    (hhidden : ¬q.IsShownIn p.token) (c : Compiled) (color : Bool) :
    SameFor (q.spec color) (c.restyled (p.spec color)) c := by
  have hnames : namesUsed (c.restyled (p.spec color)) = namesUsed c := by
    unfold Compiled.restyled
    split <;> rfl
  have hshown : (q.spec color).plainKey = false →
      (p.token = .keyStyle → (q.spec color).printKey = true ∨ (q.spec color).token = .fields) →
        False := by
    intro hplain hkeys
    rw [q.plainKey_spec] at hplain
    rw [q.printKey_spec, q.spec_token] at hkeys
    exact hhidden ⟨hq, hplain, hkeys⟩
  rcases Token.eq_of_isStyle hp with hkey | hvalue
  · have hrestyled : c.restyled (p.spec color) = { c with keyStyle := p.spec color } := by
      rw [Compiled.restyled, p.spec_token, if_pos hkey]
    refine ⟨hnames, fun _ => by rw [hrestyled], fun hplain hkeys => ?_⟩
    exact absurd (fun _ => hkeys) (hshown hplain)
  · have hother : p.token ≠ .keyStyle := by rw [hvalue]; decide
    have hrestyled : c.restyled (p.spec color) = { c with valueStyle := p.spec color } := by
      rw [Compiled.restyled, p.spec_token, if_neg hother]
    refine ⟨hnames, fun hplain => ?_, fun _ _ => by rw [hrestyled]⟩
    exact absurd (fun hkey => absurd hkey hother) (hshown hplain)

/-- Parts of a template show one text at most. -/
theorem Shows.unique {v : View} {e : Entry} {c : Compiled} {color : Bool} {offset : Nat}
    {segs : List Segment} {out other : List Char} (h : Shows v e c color offset segs out)
    (hother : Shows v e c color offset segs other) : out = other := by
  induction h generalizing other with
  | nil => exact (shows_nil_iff.mp hother).symm
  | literal _ ih =>
      obtain ⟨later, hlater, rfl⟩ := shows_literal_iff.mp hother
      rw [ih hlater]
  | style hstyle _ ih => exact ih ((shows_style_iff hstyle).mp hother)
  | switch hunset _ ih =>
      obtain ⟨later, hlater, rfl⟩ := (shows_switch_iff hunset).mp hother
      rw [ih hlater]
  | value hvalue htext _ ih =>
      obtain ⟨text, later, htext', hlater, rfl⟩ := (shows_value_iff hvalue).mp hother
      rw [Except.ok.inj (htext.symm.trans htext'), ih hlater]

/-- A line of a template of two parts: a text that the first part shows, one that the second part
shows behind the literal text of the first, and a line break. -/
def IsLineOf (v : View) (e : Entry) (c : Compiled) (color : Bool) (before after : List Segment)
    (first : List Char) (line : String) : Prop :=
  Shows v e c color 0 before first ∧
    ∃ later, Shows v e c color (segmentsLength color before) after later ∧
      line = String.ofList (first ++ later ++ ['\n'])

/-- A line is cut between any two parts of its template, and a directive between them shows
nothing. -/
theorem render_eq_ok_iff_isLineOf {v : View} {e : Entry} {format : String} {color : Bool}
    {before between after : List Segment} {line : String}
    (hparts : segments format.toList = before ++ (between ++ after))
    (hbetween : ∀ offset out, Shows v e (.ofItems (items format color)) color offset
      (between ++ after) out ↔ Shows v e (.ofItems (items format color)) color offset after out) :
    render v e (.ofItems (items format color)) = .ok line ↔
      ∃ first, IsLineOf v e (.ofItems (items format color)) color before after first line := by
  rw [render_ofItems_eq_ok_iff, hparts]
  simp only [shows_append_iff, hbetween, Nat.zero_add]
  constructor
  · rintro ⟨_, ⟨first, later, hfirst, hlater, rfl⟩, rfl⟩
    exact ⟨first, hfirst, later, hlater, rfl⟩
  · rintro ⟨first, hfirst, later, hlater, rfl⟩
    exact ⟨_, ⟨first, later, hfirst, hlater, rfl⟩, rfl⟩

/-- A directive between two texts, of which the first is made of whole literals and placeholders,
shows nothing and changes one style of the template at most.  If another directive of its kind
follows, it changes nothing.  Otherwise its style holds for the whole template, and so for what
stands before it as well: both lines are a text of the first part followed by one of the second.
The text of the first part is the same with the directive and without it if another directive of
its kind follows or no placeholder before it is shown in its style. -/
theorem render_directive {before directive after : List Char} {p : Placeholder} {color : Bool}
    {c : Compiled} (hbefore : IsWhole before) (hdirective : segments directive = [.placeholder p])
    (hp : p.token.isStyle = true)
    (hc : compile (String.ofList (before ++ directive ++ after)) color = .ok c)
    (v : View) (e : Entry) :
    ∃ c', compile (String.ofList (before ++ after)) color = .ok c' ∧
      (p.OverruledBy (segments after) → c = c') ∧
      (¬p.OverruledBy (segments after) → c = c'.restyled (p.spec color)) ∧
      (∀ line, render v e c = .ok line ↔
        ∃ first, IsLineOf v e c color (segments before) (segments after) first line) ∧
      (∀ line, render v e c' = .ok line ↔
        ∃ first, IsLineOf v e c' color (segments before) (segments after) first line) ∧
      (p.OverruledBy (segments after) ∨
          (∀ q, .placeholder q ∈ segments before → ¬q.IsShownIn p.token) →
        ∀ first, Shows v e c color 0 (segments before) first ↔
          Shows v e c' color 0 (segments before) first) := by
  obtain ⟨hfaults, rfl⟩ := compile_eq_ok_iff.mp hc
  have hwith : segments (String.ofList (before ++ directive ++ after)).toList =
      segments before ++ ([.placeholder p] ++ segments after) := by
    rw [String.toList_ofList, hbefore.append (isWhole_of_segments hdirective), hbefore, hdirective,
      List.append_assoc]
  have hwithout : segments (String.ofList (before ++ after)).toList =
      segments before ++ ([] ++ segments after) := by
    rw [String.toList_ofList, hbefore, List.nil_append]
  have hc' : compile (String.ofList (before ++ after)) color =
      .ok (.ofItems (items (String.ofList (before ++ after)) color)) := by
    refine compile_eq_ok_iff.mpr ⟨?_, rfl⟩
    rw [faults, hwith] at hfaults
    rw [faults, hwithout]
    simp only [List.flatMap_append, List.append_eq_nil_iff] at hfaults ⊢
    exact ⟨hfaults.1, rfl, hfaults.2.2⟩
  obtain ⟨hsame, hrestyled⟩ := ofItems_directive (segments before) (segments after) hp color
  have hitems : items (String.ofList (before ++ directive ++ after)) color =
      (segments before ++ .placeholder p :: segments after).map (Segment.item color) := by
    rw [items, hwith]
    rfl
  have hitems' : items (String.ofList (before ++ after)) color =
      (segments before ++ segments after).map (Segment.item color) := by
    rw [items, hwithout]
    rfl
  rw [← hitems, ← hitems'] at hsame hrestyled
  refine ⟨_, hc', hsame, hrestyled, fun line => ?_, fun line => ?_, fun hcase first => ?_⟩
  · exact render_eq_ok_iff_isLineOf hwith fun _ _ => shows_style_iff hp
  · exact render_eq_ok_iff_isLineOf hwithout fun _ _ => Iff.rfl
  · by_cases hoverruled : p.OverruledBy (segments after)
    · rw [hsame hoverruled]
    · -- the style is a new one, but nothing before the directive is shown in it
      have hhidden := hcase.resolve_left hoverruled
      have hfield := fun q hq hvalue => sameFor_restyled hvalue hp (hhidden q hq)
        (.ofItems (items (String.ofList (before ++ after)) color)) color
      rw [hrestyled hoverruled]
      exact ⟨Shows.congr hfield, Shows.congr fun q hq hvalue => (hfield q hq hvalue).symm⟩

/-- A style of keys behind a level and a message that show no keys, and before a list of fields. -/
theorem render_directive_keys :
    ∃ p c c', segments "%key:square%".toList = [.placeholder p] ∧ p.token.isStyle = true ∧
      IsWhole "%level%: %message%".toList ∧
      compile (String.ofList ("%level%: %message%".toList ++ "%key:square%".toList ++
        " %fields%".toList)) false = .ok c ∧
      compile (String.ofList ("%level%: %message%".toList ++ " %fields%".toList)) false = .ok c' ∧
      c = c'.restyled (p.spec false) ∧
      (∀ first, Shows plainView plainEntry c false 0 (segments "%level%: %message%".toList) first ↔
        Shows plainView plainEntry c' false 0 (segments "%level%: %message%".toList) first) ∧
      render plainView plainEntry c = .ok "info: m [k=]v\n" ∧
      render plainView plainEntry c' = .ok "info: m k=v\n" := by
  have hlevel : segments "%level%".toList =
      [.placeholder ⟨none, none, some "level".toList, none⟩] := by decide +kernel
  have hmessage : segments "%message%".toList =
      [.placeholder ⟨none, none, some "message".toList, none⟩] := by decide +kernel
  have hkey : segments "%key:square%".toList =
      [.placeholder ⟨none, none, some "key".toList, some "square".toList⟩] := by decide +kernel
  have hliteral : IsWhole ": ".toList := isWhole_of_notMem (by decide)
  have hbefore : IsWhole "%level%: %message%".toList :=
    ((isWhole_of_segments hlevel).append hliteral).append (isWhole_of_segments hmessage)
  have hc : compile (String.ofList ("%level%: %message%".toList ++ "%key:square%".toList ++
      " %fields%".toList)) false =
        .ok (.ofItems (items "%level%: %message%%key:square% %fields%" false)) :=
    compile_eq_ok_iff.mpr ⟨by decide +kernel, rfl⟩
  have hwithout :
      compile (String.ofList ("%level%: %message%".toList ++ " %fields%".toList)) false =
        .ok (.ofItems (items "%level%: %message% %fields%" false)) :=
    compile_eq_ok_iff.mpr ⟨by decide +kernel, rfl⟩
  have hlast : ¬(⟨none, none, some "key".toList, some "square".toList⟩ : Placeholder).OverruledBy
      (segments " %fields%".toList) := by
    rw [← placeholdersOf_ne_nil_iff, ne_eq, Decidable.not_not]
    decide +kernel
  have hhidden : ∀ q, .placeholder q ∈ segments "%level%: %message%".toList →
      ¬q.IsShownIn .keyStyle := by
    have hparts : segments "%level%: %message%".toList =
        segments "%level%".toList ++ [.literal ':', .literal ' '] ++
          segments "%message%".toList := by
      decide +kernel
    intro q hq hshown
    rw [hparts, hlevel, hmessage] at hq
    have hkeys := hshown.2.2 rfl
    simp at hq
    rcases hq with rfl | rfl
    all_goals exact absurd hkeys (by decide +kernel)
  obtain ⟨c', hc', -, hrestyled, -, -, hsame⟩ :=
    render_directive hbefore hkey (by decide +kernel) hc plainView plainEntry
  have hplain : c' = .ofItems (items "%level%: %message% %fields%" false) :=
    Except.ok.inj (hc'.symm.trans hwithout)
  refine ⟨_, _, c', hkey, by decide +kernel, hbefore, hc, hc', hrestyled hlast,
    hsame (Or.inr hhidden), eq_ok_of_toOption (by decide +kernel), ?_⟩
  rw [hplain]
  exact eq_ok_of_toOption (by decide +kernel)

/-- A style of values behind a message: the message before it is shown in it. -/
theorem message_in_later_style :
    ∃ p c c' first, IsWhole "%message%".toList ∧
      segments "%field:square%".toList = [.placeholder p] ∧ p.token = .valueStyle ∧
      compile (String.ofList ("%message%".toList ++ "%field:square%".toList ++ "".toList)) false =
        .ok c ∧
      compile (String.ofList ("%message%".toList ++ "".toList)) false = .ok c' ∧
      Shows plainView plainEntry c false 0 (segments "%message%".toList) first ∧
      ¬Shows plainView plainEntry c' false 0 (segments "%message%".toList) first ∧
      render plainView plainEntry c = .ok "[m]\n" ∧ render plainView plainEntry c' = .ok "m\n" := by
  have hmessage : segments "%message%".toList =
      [.placeholder ⟨none, none, some "message".toList, none⟩] := by decide +kernel
  have hvalue : (⟨none, none, some "message".toList, none⟩ : Placeholder).token.IsValue :=
    ⟨by decide +kernel, by decide +kernel⟩
  have hwith : Shows plainView plainEntry (.ofItems (items "%message%%field:square%" false)) false 0
      (segments "%message%".toList) "[m]".toList := by
    rw [hmessage]
    exact (shows_value_iff hvalue).mpr
      ⟨"[m]", [], eq_ok_of_toOption (by decide +kernel), .nil, rfl⟩
  have hwithout : Shows plainView plainEntry (.ofItems (items "%message%" false)) false 0
      (segments "%message%".toList) "m".toList := by
    rw [hmessage]
    exact (shows_value_iff hvalue).mpr ⟨"m", [], eq_ok_of_toOption (by decide +kernel), .nil, rfl⟩
  refine ⟨⟨none, none, some "field".toList, some "square".toList⟩,
    .ofItems (items "%message%%field:square%" false), .ofItems (items "%message%" false), _,
    isWhole_of_segments hmessage, by decide +kernel, by decide +kernel,
    compile_eq_ok_iff.mpr ⟨by decide +kernel, rfl⟩, compile_eq_ok_iff.mpr ⟨by decide +kernel, rfl⟩,
    hwith, fun hboth => ?_, eq_ok_of_toOption (by decide +kernel),
    eq_ok_of_toOption (by decide +kernel)⟩
  exact absurd (hboth.unique hwithout) (by decide)

end Line

end Hooklog
