import Hooklog.Proofs.Formatter.Dressing
import Hooklog.Proofs.Formatter.Values
import Hooklog.Proofs.Sgr.PlainTimes
import Hooklog.Proofs.Sgr.PlainValues
import Hooklog.Proofs.Tables

/-!
# Texts with and without colors

The texts of all fields of a line in colors are those of the line without colors, painted.
The values are the same in both lines and plain, the lists of remaining fields are blank
together, and a fault is met in both lines at the same field.
-/

namespace Hooklog

open Sgr Template

namespace Line

/-- Durations that a line can write: the precision, and the times since the three origins. -/
def durations (v : View) (e : Entry) : List Int :=
  precision v :: [v.last, v.baseTime, v.settings.globalTime.value].map fun origin =>
    Duration.roundTo (e.time.since origin) (precision v)

/-- What a line is made of besides its template is of a kind of characters.  Its time counts
nanoseconds as a calendar does, within the second or within a leap second. -/
structure InputOf (P : Char → Prop) (v : View) (e : Entry) : Prop where
  message : MadeOf P e.message
  moduleName : MadeOf P e.moduleName
  fieldKey : ∀ p ∈ e.fields.toList, MadeOf P p.1
  fieldText : ∀ p ∈ e.fields.toList, ∀ s, p.2 = .text s → MadeOf P s
  caller : ∀ c, e.caller = some c → MadeOf P c.function ∧ MadeOf P c.file
  levelName : ∀ name, v.options.levelNames.get? e.level = some name → MadeOf P name
  timeLayout : LayoutOf P v.options.timeLayout
  nanos : e.time.nanos < 2 * nanosPerSecond
  durationText : ∀ write, v.options.durationText = some write →
    ∀ d ∈ durations v e, MadeOf P (write d)
  callerText : ∀ write, v.options.callerText = some write →
    ∀ c, e.caller = some c → MadeOf P (write c)

/-- What a line is made of besides its template is plain. -/
abbrev PlainInput (v : View) (e : Entry) : Prop := InputOf IsPlain v e

/-! ## Values -/

section Values

variable {P : Char → Prop} (hP : ∀ c, IsPlain c → P c) {v : View} {e : Entry}

include hP

theorem madeOf_durationText (h : InputOf P v e) {d : Int} (hd : d ∈ durations v e) :
    MadeOf P (durationText v d) := by
  unfold durationText
  split
  · rename_i write hwrite
    exact h.durationText write hwrite d hd
  · exact madeOf_of_plain hP (plain_durationFormat _ d)

theorem madeOf_elapsed (h : InputOf P v e) {origin : Instant}
    (horigin : origin ∈ [v.last, v.baseTime, v.settings.globalTime.value]) :
    MadeOf P (elapsed v e.time origin) := by
  have hprecision := madeOf_durationText hP h (d := precision v) List.mem_cons_self
  have hrounded := madeOf_durationText hP h (List.mem_cons_of_mem (precision v)
    (List.mem_map_of_mem (f := fun origin =>
      Duration.roundTo (e.time.since origin) (precision v)) horigin))
  unfold elapsed
  dsimp only
  split
  · exact madeOf_append.mpr ⟨madeOf_of_plain hP (by decide), hprecision⟩
  · exact hrounded

theorem madeOf_lookup (h : InputOf P v e) {spec : FieldSpec} {name s : String}
    (hs : lookup e spec name = some s) : MadeOf P s := by
  have hvalue : ∀ value, e.fields.get? name = some value → MadeOf P value.toText := by
    intro value hget
    exact madeOf_toText hP (h.fieldText _ (SortedMap.mem_of_get? hget))
  unfold lookup at hs
  split at hs
  · simp at hs
  · split at hs
    · simp at hs
    · obtain rfl := Option.some.inj hs
      exact madeOf_of_plain hP (by decide)
  · rename_i text hget
    split at hs
    · simp at hs
    · obtain rfl := Option.some.inj hs
      exact hvalue _ hget
  · rename_i value _ _ hget
    obtain rfl := Option.some.inj hs
    exact hvalue _ hget

omit hP in
/-- What is known about a caller is of a kind if it is so for every caller. -/
theorem madeOf_ofCaller {write : Caller → String}
    (h : ∀ c, e.caller = some c → MadeOf P (write c)) :
    MadeOf P ((e.caller.map write).getD "") := by
  cases hcaller : e.caller with
  | none => exact List.forall_mem_nil P
  | some c => exact h c hcaller

/-- The values of all fields are of the kind of what they are made of. -/
theorem madeOf_valueOf (h : InputOf P v e) {spec : FieldSpec} {value : String × Bool}
    (hvalue : valueOf v e spec = .ok value) : MadeOf P value.1 := by
  have hempty : MadeOf P "" := List.forall_mem_nil P
  unfold valueOf at hvalue
  -- a named field and the time have cases of their own, the other tokens one value each
  split at hvalue
  case h_1 =>
    split at hvalue
    · rename_i s hs
      obtain rfl := Except.ok.inj hvalue
      exact madeOf_lookup hP h hs
    · obtain rfl := Except.ok.inj hvalue
      exact hempty
  case h_4 =>
    unfold TimeLayout.format at hvalue
    split at hvalue
    · simp [Except.map] at hvalue
    · obtain rfl := Except.ok.inj hvalue
      exact madeOf_timeText hP h.timeLayout h.nanos (zone v)
  all_goals obtain rfl := Except.ok.inj hvalue
  · exact h.message
  · show MadeOf P ((v.options.levelNames.get? e.level).getD e.level.text)
    cases hname : v.options.levelNames.get? e.level with
    | none => exact madeOf_of_plain hP (plain_levelText e.level)
    | some name => exact h.levelName name hname
  · exact madeOf_elapsed hP h (by simp)
  · exact madeOf_elapsed hP h (by simp)
  · exact madeOf_elapsed hP h (by simp)
  · exact h.moduleName
  · exact madeOf_ofCaller fun c hc => (h.caller c hc).1
  · exact madeOf_ofCaller fun c hc => (h.caller c hc).2
  · exact madeOf_ofCaller fun c _ => madeOf_of_plain hP (plain_naturalText c.line)
  · refine madeOf_ofCaller fun c hc => ?_
    unfold callerText
    split
    · rename_i write hwrite
      exact h.callerText write hwrite c hc
    · exact madeOf_callerText hP (h.caller c hc).1 (h.caller c hc).2
  · exact hempty

end Values

/-! ## Lists of remaining fields -/

theorem allOk_agree {α : Type} {R : String → String → Prop} {f g : α → Except Fault String}
    {as bs : List α} (h : List.Forall₂ (fun a b => Agree R (f a) (g b)) as bs) :
    Agree (List.Forall₂ R) (allOk f as) (allOk g bs) := by
  induction h with
  | nil => exact .text .nil
  | @cons a b as bs hfirst hrest ih =>
      rw [allOk, allOk]
      -- the first fault in one line is the first one in the other
      rcases hfirst.fault_or_text with ⟨fault, hf, hg⟩ | ⟨s, t, hst, hf, hg⟩
      · rw [hf, hg]
        exact .fault fault
      · rw [hf, hg]
        rcases ih.fault_or_text with ⟨fault, hfs, hgs⟩ | ⟨ss, ts, hall, hfs, hgs⟩
        · rw [hfs, hgs]
          exact .fault fault
        · rw [hfs, hgs]
          exact .text (.cons hst hall)

/-- Two templates that differ in colors at most.  Keys are plain, and the lists of remaining
fields are written as they are. -/
structure Recolored (c d : Compiled) : Prop extends SameStyles c d where
  fields : List.Forall₂ FieldSpec.SameShape c.fields d.fields
  key : ∀ spec ∈ c.fields, Plain spec.token.key
  list : ∀ spec ∈ c.fields, spec.token = .fields → spec.KeepsText

section Lists

variable {v : View} {e : Entry} {c d : Compiled} {a b : FieldSpec}

theorem namesUsed_eq (h : List.Forall₂ FieldSpec.SameShape c.fields d.fields) :
    namesUsed d = namesUsed c := by
  unfold namesUsed
  generalize c.fields = as, d.fields = bs at h
  induction h with
  | nil => rfl
  | cons hfirst _ ih => rw [List.filterMap_cons, List.filterMap_cons, hfirst.token_eq, ih]

theorem remaining_eq (h : List.Forall₂ FieldSpec.SameShape c.fields d.fields)
    (hab : a.SameShape b) : remaining d e b = remaining c e a := by
  unfold remaining
  rw [namesUsed_eq h, hab.ignoreEmpty_eq]

theorem remainingText_agree (hv : v.Colored) (h : PlainInput v.uncolored e) (hcd : SameStyles c d)
    (hab : a.SameShape b) {p : String × FieldValue} (hp : p ∈ e.fields.toList) :
    Agree PaintedString (remainingText v.uncolored e.level c a p)
      (remainingText v e.level d b p) := by
  have hkey : Plain p.1 := h.fieldKey p hp
  have hvalue : Plain p.2.toText := madeOf_toText (fun _ h => h) (h.fieldText p hp)
  unfold remainingText
  rw [hab.plainKey_eq]
  split
  · exact .text (.of_plain (plain_append.mpr ⟨plain_equals hkey, hvalue⟩))
  · exact styledPair_agree hv hcd hkey (.of_plain hvalue)

/-- Every remaining field is written with an equals sign, which no limit can cut off. -/
theorem equals_mem_remainingText (hc : c.keyStyle.Bare) {l : Level}
    {p : String × FieldValue} {s : String} (hp : Plain p.1)
    (h : remainingText v.uncolored l c a p = .ok s) : '=' ∈ s.toList := by
  have hequals : '=' ∈ (p.1 ++ "=").toList := by
    rw [String.toList_append]
    exact List.mem_append_right _ (by decide)
  unfold remainingText at h
  split at h
  · obtain rfl := Except.ok.inj h
    rw [Fields.pairText, String.toList_append]
    exact List.mem_append_left _ hequals
  · rw [styledPair, styled_eq_dressed hc, dressed_uncolored hc.toKeepsText (plain_equals hp)] at h
    dsimp only at h
    split at h
    · simp at h
    · obtain rfl := Except.ok.inj h
      rw [String.toList_append, String.toList_ofList]
      exact List.mem_append_left _ (mem_framed hequals)

theorem mem_joinWith {ch : Char} {sep s : String} {texts : List String} (hs : s ∈ texts)
    (h : ch ∈ s.toList) : ch ∈ (Text.joinWith sep texts).toList := by
  induction texts with
  | nil => exact absurd hs List.not_mem_nil
  | cons t rest ih =>
      cases rest with
      | nil => rwa [List.mem_singleton.mp hs] at h
      | cons u rest =>
          rw [Text.toList_joinWith_cons_cons, List.mem_append, List.mem_append]
          rcases List.mem_cons.mp hs with rfl | hs
          · exact Or.inl h
          · exact Or.inr (Or.inr (ih hs))

theorem not_blank_of_equals {s : String} (h : '=' ∈ s.toList) :
    Text.isBlankString s = false ∧ s.isEmpty = false := by
  constructor
  · rw [Text.isBlankString, List.all_eq_false]
    exact ⟨'=', h, by decide⟩
  · cases hempty : s.isEmpty with
    | false => rfl
    | true =>
        rw [String.isEmpty_iff.mp hempty] at h
        exact absurd h (by decide)

/-- The lists in both lines are left out together: both are empty, or an equals sign stands in
both. -/
theorem blank_agree {ss ts : List String} (h : List.Forall₂ PaintedString ss ts)
    (hequals : ∀ s ∈ ss, '=' ∈ s.toList) :
    Text.isBlankString (Text.joinWith " " ts) = Text.isBlankString (Text.joinWith " " ss) ∧
      (Text.joinWith " " ts).isEmpty = (Text.joinWith " " ss).isEmpty := by
  cases h with
  | nil => exact ⟨rfl, rfl⟩
  | @cons s t ss ts hfirst hrest =>
      have hs : '=' ∈ s.toList := hequals s List.mem_cons_self
      have hplain : '=' ∈ (Text.joinWith " " (s :: ss)).toList :=
        mem_joinWith List.mem_cons_self hs
      have hcolored : '=' ∈ (Text.joinWith " " (t :: ts)).toList :=
        mem_joinWith List.mem_cons_self (hfirst.mem hs)
      rw [(not_blank_of_equals hplain).1, (not_blank_of_equals hplain).2,
        (not_blank_of_equals hcolored).1, (not_blank_of_equals hcolored).2]
      exact ⟨rfl, rfl⟩

theorem remainingFieldText_agree (hv : v.Colored) (h : PlainInput v.uncolored e)
    (hcd : Recolored c d) (hab : a.SameShape b) (ha : a.KeepsText) :
    Agree PaintedString (remainingFieldText v.uncolored e c a) (remainingFieldText v e d b) := by
  have hmem : ∀ p ∈ remaining c e a, p ∈ e.fields.toList := fun p hp => List.mem_of_mem_filter hp
  have hall : Agree (List.Forall₂ PaintedString)
      (allOk (remainingText v.uncolored e.level c a) (remaining c e a))
      (allOk (remainingText v e.level d b) (remaining c e a)) := by
    refine allOk_agree (List.forall₂_same.mpr fun p hp => ?_)
    exact remainingText_agree hv h hcd.toSameStyles hab (hmem p hp)
  unfold remainingFieldText
  rw [remaining_eq hcd.fields hab]
  rcases hall.fault_or_text with ⟨fault, hplain, hcolored⟩ | ⟨ss, ts, hst, hplain, hcolored⟩
  · rw [hplain, hcolored]
    exact .fault fault
  · rw [hplain, hcolored]
    -- the lists differ in their control sequences, but are left out together
    have hequals : ∀ s ∈ ss, '=' ∈ s.toList := by
      intro s hs
      obtain ⟨p, hp, hps⟩ := exists_of_mem_allOk hplain hs
      exact equals_mem_remainingText hcd.bareKey (h.fieldKey p (hmem p hp)) hps
    obtain ⟨hblank, hempty⟩ := blank_agree hst hequals
    have hlist : PaintedString (Text.joinWith " " ss) (Text.joinWith " " ts) :=
      PaintedString.joinWith (by decide) hst
    have hskip : isSkipped b (Text.joinWith " " ts) = isSkipped a (Text.joinWith " " ss) := by
      rw [isSkipped, isSkipped, hblank, hab.ignoreEmpty_eq]
    dsimp only
    rw [hempty, hab.printKey_eq, hab.ignoreEmpty_eq]
    exact fieldText_agree_of hv hcd.toSameStyles hab (by decide) hskip
      (dressed_again hv hab ha hlist) _

/-! ## Texts of all fields -/

theorem ownText_agree (hv : v.Colored) (h : PlainInput v.uncolored e) (hcd : SameStyles c d)
    (hab : a.SameShape b) (hkey : Plain a.token.key) :
    Agree PaintedString (ownText v.uncolored e c a) (ownText v e d b) := by
  -- neither color nor place of a field has a part in its value
  have hvalue : valueOf v e b = valueOf v.uncolored e a := by
    obtain ⟨_, _, rfl⟩ := hab
    rfl
  unfold ownText
  rw [hab.token_eq, hab.printKey_eq, hvalue]
  split
  · exact .text (.of_plain (by decide))
  · cases hcase : valueOf v.uncolored e a with
    | error fault => exact .fault fault
    | ok value =>
        exact fieldText_agree hv hcd hab hkey (madeOf_valueOf (fun _ h => h) h hcase) _

theorem listText_agree (hv : v.Colored) (h : PlainInput v.uncolored e) (hcd : Recolored c d)
    (hab : a.SameShape b) (ha : a.token = .fields → a.KeepsText) :
    Agree PaintedString (listText v.uncolored e c a) (listText v e d b) := by
  unfold listText
  rw [hab.token_eq]
  split
  · rename_i hfields
    exact remainingFieldText_agree hv h hcd hab (ha hfields)
  · exact .text (.of_plain (by decide))

theorem forall₂_zipWith_append {ss ts ss' ts' : List String} (h : List.Forall₂ PaintedString ss ts)
    (h' : List.Forall₂ PaintedString ss' ts') :
    List.Forall₂ PaintedString (ss.zipWith (· ++ ·) ss') (ts.zipWith (· ++ ·) ts') := by
  induction h generalizing ss' ts' with
  | nil => exact .nil
  | cons hfirst _ ih =>
      cases h' with
      | nil => exact .nil
      | cons hfirst' hrest' => exact .cons (hfirst.append hfirst') (ih hrest')

/-- The texts of all fields agree in both lines, or both lines stop at the same fault. -/
theorem texts_agree (hv : v.Colored) (h : PlainInput v.uncolored e) (hcd : Recolored c d) :
    Agree (List.Forall₂ PaintedString) (texts v.uncolored e c) (texts v e d) := by
  -- what is known of a field of the template without colors is needed for each pair
  have hfields : List.Forall₂ (fun a b => a ∈ c.fields ∧ a.SameShape b) c.fields d.fields :=
    (List.forall₂_and_left _ _).mpr ⟨fun a ha => ha, hcd.fields⟩
  have hown : Agree (List.Forall₂ PaintedString) (allOk (ownText v.uncolored e c) c.fields)
      (allOk (ownText v e d) d.fields) :=
    allOk_agree (hfields.imp fun a b hab =>
      ownText_agree hv h hcd.toSameStyles hab.2 (hcd.key a hab.1))
  have hlists : Agree (List.Forall₂ PaintedString) (allOk (listText v.uncolored e c) c.fields)
      (allOk (listText v e d) d.fields) :=
    allOk_agree (hfields.imp fun a b hab =>
      listText_agree hv h hcd hab.2 (hcd.list a hab.1))
  unfold texts
  rcases hown.fault_or_text with ⟨fault, hplain, hcolored⟩ | ⟨_, _, hst, hplain, hcolored⟩
  · rw [hplain, hcolored]
    exact .fault fault
  · rw [hplain, hcolored]
    rcases hlists.fault_or_text with ⟨fault, hplain, hcolored⟩ | ⟨_, _, hst', hplain, hcolored⟩
    · rw [hplain, hcolored]
      exact .fault fault
    · rw [hplain, hcolored]
      exact .text (forall₂_zipWith_append hst hst')

end Lists

end Line

end Hooklog
