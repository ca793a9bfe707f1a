import Hooklog.Formatter.Painters
import Hooklog.Proofs.Formatter.Values
import Hooklog.Proofs.Formatter.Dressing
import Hooklog.Proofs.Sgr.SequenceCase

/-!
# Values on their way through a line

A value is dressed by its field, and with its paint once more by the style of values; the list of
remaining fields, whose members are painted, is dressed by its own field in between.  Each of
these passes changes letter case and size of the text it is given, control sequences included.

* `Line.passes` are the passes of a line, in the order of the rendering.  They paint the fields
  that the rendering paints.
* A pass is `Pass.Intact` if the sequences of its value stand unaltered in the sized text, and
  `Pass.Spares` says when it is.
-/

namespace Hooklog

open Text Sgr Template

/-- A value on its way through a field or a style. -/
structure Pass where
  spec : FieldSpec
  value : String

namespace Line

variable (v : View) (l : Level) (e : Entry) (c : Compiled)

/-- Passes of a value in a style. -/
def styledPasses (style : FieldSpec) (value : String) : List Pass :=
  if isSkipped style value then [] else [⟨style, value⟩]

/-- Passes of a key and a value in the styles of a template. -/
def styledPairPasses (key value : String) : List Pass :=
  styledPasses c.keyStyle (key ++ "=") ++ styledPasses c.valueStyle value

/-- Passes of a dressed value and what is attached to it. -/
def attachedPasses (spec : FieldSpec) (key value : String) (printKey : Bool) : List Pass :=
  if spec.plainKey then []
  else if printKey then styledPairPasses c key value
  else styledPasses c.valueStyle value

/-- Passes of a value of a field: it is dressed, and then once more with what is attached. -/
def fieldPasses (spec : FieldSpec) (key value : String) (printKey : Bool) : List Pass :=
  if isSkipped spec value then []
  else
    ⟨spec, value⟩ :: match dressed v l spec value with
      | .ok s => attachedPasses c spec key s printKey
      | .error _ => []

/-- Passes of a field other than the remaining ones. -/
def valuePasses (spec : FieldSpec) : List Pass :=
  match valueOf v e spec with
  | .ok value => fieldPasses v e.level c spec spec.token.key value.1 (spec.printKey && value.2)
  | .error _ => []

/-- Passes of one of the remaining fields. -/
def remainingPasses (spec : FieldSpec) (p : String × FieldValue) : List Pass :=
  if spec.plainKey then [] else styledPairPasses c p.1 p.2.toText

/-- Passes of the remaining fields and of their list. -/
def listPasses (spec : FieldSpec) : List Pass :=
  (remaining c e spec).flatMap (remainingPasses c spec) ++
    match allOk (remainingText v e.level c spec) (remaining c e spec) with
    | .ok parts =>
        let list := Text.joinWith " " parts
        fieldPasses v e.level c spec Token.fields.key list
          (spec.printKey && (!spec.ignoreEmpty || !list.isEmpty))
    | .error _ => []

/-- Passes of a field, whatever it shows. -/
def passesOf (spec : FieldSpec) : List Pass :=
  if spec.token = .fields then listPasses v e c spec else valuePasses v e c spec

/-- Passes of the line of an entry: the lists of remaining fields come last. -/
def passes : List Pass :=
  (c.fields.filter fun spec => spec.token ≠ .fields).flatMap (valuePasses v e c) ++
    (c.fields.filter fun spec => spec.token = .fields).flatMap (listPasses v e c)

/-- The passes of a line are those of its fields. -/
theorem forall_mem_passes_iff {Q : Pass → Prop} :
    (∀ p ∈ passes v e c, Q p) ↔ ∀ spec ∈ c.fields, ∀ p ∈ passesOf v e c spec, Q p := by
  simp only [passes, passesOf, List.forall_mem_append, List.mem_flatMap, List.mem_filter,
    decide_eq_true_eq, ne_eq]
  constructor
  · rintro ⟨hvalues, hlists⟩ spec hspec p hp
    split at hp
    · rename_i htoken
      exact hlists p ⟨spec, ⟨hspec, htoken⟩, hp⟩
    · rename_i htoken
      exact hvalues p ⟨spec, ⟨hspec, htoken⟩, hp⟩
  · intro h
    constructor
    · rintro p ⟨spec, ⟨hspec, htoken⟩, hp⟩
      exact h spec hspec p (by rwa [if_neg htoken])
    · rintro p ⟨spec, ⟨hspec, htoken⟩, hp⟩
      exact h spec hspec p (by rwa [if_pos htoken])

end Line

/-! ## Painted fields -/

namespace Trail

/-- Trail of passes that have all come to their end. -/
def ofPasses (ps : List Pass) : Trail := ⟨ps.map (·.spec), true⟩

@[simp] theorem andThen_ofPasses (ps qs : List Pass) :
    (ofPasses ps).andThen (ofPasses qs) = ofPasses (ps ++ qs) := by
  simp [andThen, ofPasses]

theorem andThen_assoc (a b d : Trail) :
    (a.andThen b).andThen d = a.andThen (b.andThen d) := by
  obtain ⟨as, aEnded⟩ := a
  obtain ⟨bs, bEnded⟩ := b
  cases aEnded <;> cases bEnded <;> simp [andThen]

theorem sequence_append (as bs : List Trail) :
    sequence (as ++ bs) = (sequence as).andThen (sequence bs) := by
  induction as with
  | nil => rfl
  | cons a as ih =>
      have hcons : ∀ rest, sequence (a :: rest) = a.andThen (sequence rest) := fun _ => rfl
      rw [List.cons_append, hcons, hcons, ih, andThen_assoc]

theorem sequence_ofPasses {α : Type} {f : α → Trail} {g : α → List Pass} {as : List α}
    (h : ∀ a ∈ as, f a = ofPasses (g a)) : sequence (as.map f) = ofPasses (as.flatMap g) := by
  induction as with
  | nil => rfl
  | cons a as ih =>
      obtain ⟨ha, hrest⟩ := List.forall_mem_cons.mp h
      have hcons : sequence ((a :: as).map f) = (f a).andThen (sequence (as.map f)) := rfl
      rw [hcons, ha, ih hrest, andThen_ofPasses, List.flatMap_cons]

end Trail

namespace Line

section Trails

variable {v : View} {l : Level} {e : Entry} {c : Compiled} {spec : FieldSpec}
  {key value s : String} {printKey : Bool}

theorem dressedTrail_eq (h : dressed v l spec value = .ok s) :
    dressedTrail v spec value = .ofPasses [⟨spec, value⟩] := by
  unfold dressed at h
  unfold dressedTrail
  cases hsized : sized spec (prepared v spec value) with
  | error fault =>
      rw [hsized] at h
      simp at h
  | ok t => rfl

theorem styledTrail_eq (h : styled v l spec value = .ok s) :
    styledTrail v spec value = .ofPasses (styledPasses spec value) := by
  unfold styled at h
  unfold styledTrail styledPasses
  split at h
  · rename_i hskip
    rw [if_pos hskip, if_pos hskip]
    rfl
  · rename_i hkeep
    rw [if_neg hkeep, if_neg hkeep, dressedTrail_eq h]

theorem exists_of_styledPair (h : styledPair v l c key value = .ok s) :
    ∃ k w, styled v l c.keyStyle (key ++ "=") = .ok k ∧ styled v l c.valueStyle value = .ok w ∧
      s = k ++ w := by
  unfold styledPair at h
  split at h
  · simp at h
  · rename_i k hk
    split at h
    · simp at h
    · rename_i w hw
      exact ⟨k, w, hk, hw, (Except.ok.inj h).symm⟩

theorem styledPairTrail_eq (h : styledPair v l c key value = .ok s) :
    styledPairTrail v c key value = .ofPasses (styledPairPasses c key value) := by
  obtain ⟨k, w, hk, hw, -⟩ := exists_of_styledPair h
  rw [styledPairTrail, styledTrail_eq hk, styledTrail_eq hw, Trail.andThen_ofPasses]
  rfl

theorem attachedTrail_eq (h : attached v l c spec key value printKey = .ok s) :
    attachedTrail v c spec key value printKey =
      .ofPasses (attachedPasses c spec key value printKey) := by
  unfold attached at h
  unfold attachedTrail attachedPasses
  cases hplain : spec.plainKey with
  | true => rfl
  | false =>
      rw [hplain] at h
      cases printKey with
      | true => exact styledPairTrail_eq h
      | false => exact styledTrail_eq h

/-- A field that is not left out has been dressed, and what is attached has been made. -/
theorem exists_of_fieldText (h : fieldText v l c spec key value printKey = .ok s)
    (hkeep : isSkipped spec value = false) :
    ∃ t, dressed v l spec value = .ok t ∧ attached v l c spec key t printKey = .ok s := by
  rw [fieldText, hkeep, if_neg Bool.false_ne_true] at h
  split at h
  · rename_i t ht
    exact ⟨t, ht, h⟩
  · simp at h

theorem fieldTrail_eq (h : fieldText v l c spec key value printKey = .ok s) :
    fieldTrail v l c spec key value printKey =
      .ofPasses (fieldPasses v l c spec key value printKey) := by
  unfold fieldTrail fieldPasses
  cases hskip : isSkipped spec value with
  | true => rfl
  | false =>
      obtain ⟨t, ht, hattached⟩ := exists_of_fieldText h hskip
      rw [if_neg Bool.false_ne_true, if_neg Bool.false_ne_true, ht]
      dsimp only
      rw [dressedTrail_eq ht, attachedTrail_eq hattached, Trail.andThen_ofPasses]
      rfl

theorem valueTrail_eq (htoken : spec.token ≠ .fields) (h : fieldValue v e c spec = .ok s) :
    valueTrail v e c spec = .ofPasses (valuePasses v e c spec) := by
  rw [fieldValue, if_neg htoken, ownText, if_neg htoken] at h
  unfold valueTrail valuePasses
  cases hvalue : valueOf v e spec with
  | error fault =>
      rw [hvalue] at h
      simp at h
  | ok value =>
      rw [hvalue] at h
      exact fieldTrail_eq h

theorem remainingTrail_eq {p : String × FieldValue} (h : remainingText v l c spec p = .ok s) :
    remainingTrail v c spec p = .ofPasses (remainingPasses c spec p) := by
  unfold remainingText at h
  unfold remainingTrail remainingPasses
  cases hplain : spec.plainKey with
  | true => rfl
  | false =>
      rw [hplain] at h
      exact styledPairTrail_eq h

theorem remainingFieldTrail_eq (h : remainingFieldText v e c spec = .ok s) :
    remainingFieldTrail v e c spec = .ofPasses (listPasses v e c spec) := by
  obtain ⟨parts, hparts, hlist⟩ := remainingFieldText_eq_ok_iff.mp h
  have hmembers : Trail.sequence ((remaining c e spec).map (remainingTrail v c spec)) =
      .ofPasses ((remaining c e spec).flatMap (remainingPasses c spec)) := by
    refine Trail.sequence_ofPasses fun p hp => ?_
    obtain ⟨t, -, ht⟩ := exists_of_allOk hparts hp
    exact remainingTrail_eq ht
  unfold remainingFieldTrail listPasses
  rw [hparts]
  dsimp only
  rw [hmembers, fieldTrail_eq hlist, Trail.andThen_ofPasses]

/-- A rendering that makes its line paints the fields of its passes, in this order. -/
theorem trail_eq {ts : List String} (h : texts v e c = .ok ts) :
    trail v e c = .ofPasses (passes v e c) := by
  have hvalues : ∀ spec ∈ c.fields.filter (fun spec => spec.token ≠ .fields),
      valueTrail v e c spec = .ofPasses (valuePasses v e c spec) := by
    intro spec hspec
    obtain ⟨hmem, htoken⟩ := List.mem_filter.mp hspec
    obtain ⟨t, ht⟩ := exists_fieldValue_of_texts h hmem
    exact valueTrail_eq (of_decide_eq_true htoken) ht
  have hlists : ∀ spec ∈ c.fields.filter (fun spec => spec.token = .fields),
      remainingFieldTrail v e c spec = .ofPasses (listPasses v e c spec) := by
    intro spec hspec
    obtain ⟨hmem, htoken⟩ := List.mem_filter.mp hspec
    obtain ⟨t, ht⟩ := exists_fieldValue_of_texts h hmem
    rw [fieldValue, if_pos (of_decide_eq_true htoken)] at ht
    exact remainingFieldTrail_eq ht
  unfold trail passes
  dsimp only
  rw [Trail.sequence_append, Trail.sequence_ofPasses hvalues, Trail.sequence_ofPasses hlists,
    Trail.andThen_ofPasses]

end Trails

end Line

/-! ## Passes that keep sequences -/

namespace Pass

/-- The sequences of the value stand unaltered in the sized text. -/
def Intact (v : View) (p : Pass) : Prop :=
  ∀ qs s, Holds qs p.value.toList →
    Line.sized p.spec (Line.prepared v p.spec p.value) = .ok s → Holds qs s

/-- A value with a sequence is not put in upper case, and a limit neither cuts a sequence nor
stands before one. -/
def Spares (p : Pass) : Prop :=
  (p.spec.transform = .upper → escape ∉ p.value.toList) ∧
    ∀ n, p.spec.limit = some n →
      Whole ((p.spec.transform.apply p.value.toList).take n) ∧
        escape ∉ (p.spec.transform.apply p.value.toList).drop n

/-- A value that is whole and gets its size. -/
structure Proper (v : View) (p : Pass) : Prop where
  whole : Whole p.value.toList
  sized : ∃ s, Line.sized p.spec (Line.prepared v p.spec p.value) = .ok s

theorem holds_limited_iff {spec : FieldSpec} {qs : List (List Char)} {t : List Char}
    (h : Holds qs t) :
    Holds qs (Line.limited spec t) ↔
      ∀ n, spec.limit = some n → Whole (t.take n) ∧ escape ∉ t.drop n := by
  unfold Line.limited
  cases hlimit : spec.limit with
  | none => simp [h]
  | some n => simpa using h.take_iff n

/-- Filling with spaces neither adds nor removes a sequence. -/
theorem holds_sized_iff {spec : FieldSpec} {qs : List (List Char)} {s t : List Char}
    (h : Line.sized spec s = .ok t) : Holds qs t ↔ Holds qs (Line.limited spec s) := by
  obtain ⟨m, n, rfl⟩ := Line.exists_spaces h
  constructor
  · intro hall
    exact hall.of_spaces_append.of_append_spaces
  · intro hlimited
    have hall := (holds_replicate_space m).append (hlimited.append (holds_replicate_space n))
    rwa [List.nil_append, List.append_nil] at hall

variable {v : View} {p : Pass}

theorem Spares.intact (hv : v.color = true) (h : p.Spares) : p.Intact v := by
  intro qs s hqs hs
  rw [Line.prepared_of_color hv] at hs
  exact (holds_sized_iff hs).mpr ((holds_limited_iff (hqs.apply h.1)).mpr h.2)

/-- A pass that keeps the sequences of its value spares them: in upper case none is left. -/
theorem Proper.spares (hv : v.color = true) (h : p.Proper v) (hintact : p.Intact v) :
    p.Spares := by
  obtain ⟨qs, hqs⟩ := h.whole.exists_holds
  obtain ⟨s, hs⟩ := h.sized
  have hsized := hintact qs s hqs hs
  rw [Line.prepared_of_color hv] at hs
  have hlimited := (holds_sized_iff hs).mp hsized
  have hupper : p.spec.transform = .upper → escape ∉ p.value.toList := by
    intro htransform
    cases qs with
    | nil => exact hqs.escape_notMem
    | cons q qs =>
        -- the letter of a sequence would still be there
        have hletter := hlimited.letter_mem (List.cons_ne_nil q qs)
        rw [htransform] at hletter
        have hsublist : (Line.limited p.spec (upper p.value.toList)).Sublist
            (upper p.value.toList) := by
          unfold Line.limited
          split
          · exact List.take_sublist _ _
          · exact List.Sublist.refl _
        exact absurd (hsublist.subset hletter) (letter_notMem_upper _)
  exact ⟨hupper, (holds_limited_iff (hqs.apply hupper)).mp hlimited⟩

theorem spares_of_notMem (h : escape ∉ p.value.toList) : p.Spares := by
  refine ⟨fun _ => h, fun n _ => ?_⟩
  have happly : escape ∉ p.spec.transform.apply p.value.toList :=
    ((holds_of_notMem h).apply fun _ => h).escape_notMem
  exact ⟨whole_of_notMem fun hmem => happly (List.mem_of_mem_take hmem),
    fun hmem => happly (List.mem_of_mem_drop hmem)⟩

end Pass

/-- A field with no limit that does not put its text in upper case. -/
structure Template.FieldSpec.Gentle (spec : FieldSpec) : Prop where
  transform : spec.transform ≠ .upper
  limit : spec.limit = none

instance (spec : FieldSpec) : Decidable spec.Gentle :=
  decidable_of_iff (spec.transform ≠ .upper ∧ spec.limit = none)
    ⟨fun h => ⟨h.1, h.2⟩, fun h => ⟨h.transform, h.limit⟩⟩

theorem Pass.spares_of_gentle {p : Pass} (h : p.spec.Gentle) : p.Spares := by
  refine ⟨fun hupper => absurd hupper h.transform, fun n hlimit => ?_⟩
  rw [h.limit] at hlimit
  exact absurd hlimit.symm (Option.some_ne_none n)

end Hooklog
