import Hooklog.Proofs.Formatter.Interpretation
import Mathlib.Data.List.Sort

/-!
# Remaining fields

What a list of remaining fields shows, wherever it stands in a template.  Its members are the
fields of the entry that no placeholder of the template looks up by name, neither before the list
nor behind it, and whether or not the look-up has shown anything.  So lists do not depend on the
order of the placeholders, although the names are collected while the other texts are made.

* `LooksUp` says of a template that it looks up a name, and `IsRest` says which fields are left.
* `shows_append_iff` cuts a template at any of its parts.
* `render_lists_rest` is the main statement.
-/

namespace Hooklog

open Text

namespace Template

/-- A template has a placeholder of a name that is looked up in entries. -/
def LooksUp (format : String) (k : String) : Prop :=
  ∃ p, .placeholder p ∈ segments format.toList ∧ p.token = .field k

/-- A placeholder leaves out what is empty. -/
def Placeholder.Ignores (p : Placeholder) : Prop :=
  mentions ["ignore", "ignoreempty"] p.names = true

/-- Number of bytes of the skeleton for some segments. -/
def segmentsLength (color : Bool) (segs : List Segment) : Nat :=
  byteLength (skeletonOf (segs.map (Segment.item color)))

/-- Field of a placeholder behind some segments. -/
def Placeholder.specAfter (p : Placeholder) (color : Bool) (before : List Segment) : FieldSpec :=
  { p.spec color with position := segmentsLength color before }

theorem segmentsLength_cons (color : Bool) (seg : Segment) (rest : List Segment) :
    segmentsLength color (seg :: rest) =
      segmentsLength color [seg] + segmentsLength color rest := by
  unfold segmentsLength
  rw [← byteLength_append, ← skeletonOf_append]
  rfl

theorem Placeholder.ignoreEmpty_spec (p : Placeholder) (color : Bool) :
    (p.spec color).ignoreEmpty = true ↔ p.Ignores := by
  have hspec : (p.spec color).ignoreEmpty =
      ((FieldSpec.plain p.token false).applyKeywords p.names).ignoreEmpty := rfl
  rw [hspec, applyKeywords_eq]
  rfl

end Template

namespace Line

open Template

/-- Fields of an entry that are left for a list: in ascending order of their keys, those of the
entry that the template does not look up, without null values if the list ignores them. -/
structure IsRest (format : String) (e : Entry) (p : Placeholder)
    (rest : List (String × FieldValue)) : Prop where
  ascending : rest.Pairwise fun a b => a.1 < b.1
  mem_iff : ∀ k x, (k, x) ∈ rest ↔
    e.fields.get? k = some x ∧ ¬LooksUp format k ∧ ¬(p.Ignores ∧ x = .null)

/-- There is one such list. -/
theorem IsRest.unique {format : String} {e : Entry} {p : Placeholder}
    {rest other : List (String × FieldValue)} (h : IsRest format e p rest)
    (hother : IsRest format e p other) : rest = other := by
  have hirrefl : Std.Irrefl fun a b : String × FieldValue => a.1 < b.1 :=
    ⟨fun _ => Std.lt_irrefl⟩
  have hantisymm : Std.Antisymm fun a b : String × FieldValue => a.1 < b.1 :=
    ⟨fun _ _ hab hba => absurd (Std.lt_trans hab hba) Std.lt_irrefl⟩
  refine h.ascending.eq_of_mem_iff hother.ascending fun q => ?_
  rw [h.mem_iff, hother.mem_iff]

theorem mem_namesUsed_iff {c : Compiled} {k : String} :
    k ∈ namesUsed c ↔ ∃ spec ∈ c.fields, spec.token = .field k := by
  unfold namesUsed
  rw [List.mem_filterMap]
  refine exists_congr fun spec => and_congr_right fun _ => ?_
  split
  · rename_i name htoken
    rw [htoken, Option.some_inj, Token.field.injEq]
  · rename_i hother
    simp only [reduceCtorEq, false_iff]
    exact hother k

/-- The names that are looked up are those of the template, in both color modes. -/
theorem mem_namesUsed_ofItems (format : String) (color : Bool) (k : String) :
    k ∈ namesUsed (.ofItems (items format color)) ↔ LooksUp format k := by
  rw [mem_namesUsed_iff]
  constructor
  · rintro ⟨spec, hspec, htoken⟩
    obtain ⟨p, position, hp, rfl⟩ := exists_placeholder_of_mem_fieldsFrom hspec
    exact ⟨p, hp, (p.spec_token color).symm.trans htoken⟩
  · rintro ⟨p, hp, htoken⟩
    have hvalue : p.token.IsValue := by rw [htoken]; exact ⟨rfl, by simp⟩
    obtain ⟨position, hspec⟩ := exists_mem_fieldsFrom hp hvalue color 0
    exact ⟨_, hspec, (p.spec_token color).trans htoken⟩

theorem isRest_remaining (format : String) (color : Bool) (e : Entry) (p : Placeholder) :
    IsRest format e p (remaining (.ofItems (items format color)) e (p.spec color)) where
  ascending := e.fields.sorted.filter _
  mem_iff k x := by
    have hnull : x.isNull = true ↔ x = .null := by cases x <;> simp [FieldValue.isNull]
    rw [remaining, List.mem_filter, ← SortedMap.get?_eq_some_iff, Bool.and_eq_true,
      Bool.not_eq_true', Bool.not_eq_true', ← Bool.not_eq_true, ← Bool.not_eq_true,
      List.contains_iff_mem, mem_namesUsed_ofItems, Bool.and_eq_true, hnull, p.ignoreEmpty_spec]

/-! ## Parts of templates -/

section Parts

variable {v : View} {e : Entry} {c : Compiled} {color : Bool} {offset : Nat}
  {before rest : List Segment} {out : List Char}

theorem shows_cons_iff {seg : Segment} :
    Shows v e c color offset (seg :: rest) out ↔
      ∃ own later, Shows v e c color offset [seg] own ∧
        Shows v e c color (offset + segmentsLength color [seg]) rest later ∧
        out = own ++ later := by
  cases seg with
  | literal ch =>
      simp only [shows_literal_iff, shows_nil_iff]
      constructor
      · rintro ⟨later, hrest, rfl⟩
        exact ⟨_, later, ⟨_, rfl, rfl⟩, hrest, rfl⟩
      · rintro ⟨_, later, ⟨_, rfl, rfl⟩, hrest, rfl⟩
        exact ⟨later, hrest, rfl⟩
  | placeholder p =>
      rcases p.token.kind with hvalue | hunset | hstyle
      · have hlength : segmentsLength color [.placeholder p] = 0 := by
          rw [segmentsLength, List.map_singleton, item_of_value hvalue]
          rfl
        simp only [shows_value_iff hvalue, shows_nil_iff, hlength, Nat.add_zero]
        constructor
        · rintro ⟨text, later, htext, hrest, rfl⟩
          exact ⟨_, later, ⟨text, _, htext, rfl, rfl⟩, hrest, by rw [List.append_nil]⟩
        · rintro ⟨_, later, ⟨text, _, htext, rfl, rfl⟩, hrest, rfl⟩
          exact ⟨text, later, htext, hrest, by rw [List.append_nil]⟩
      · have hlength : segmentsLength color [.placeholder p] =
            byteLength (p.switchText color) := by
          rw [segmentsLength, List.map_singleton, item_of_unset hunset, skeletonOf, skeletonOf,
            List.append_nil]
        simp only [shows_switch_iff hunset, shows_nil_iff, hlength]
        constructor
        · rintro ⟨later, hrest, rfl⟩
          exact ⟨_, later, ⟨_, rfl, rfl⟩, hrest, by rw [List.append_nil]⟩
        · rintro ⟨_, later, ⟨_, rfl, rfl⟩, hrest, rfl⟩
          exact ⟨later, hrest, by rw [List.append_nil]⟩
      · have hlength : segmentsLength color [.placeholder p] = 0 := by
          rw [segmentsLength, List.map_singleton]
          rcases item_of_style hstyle color with hitem | hitem <;> rw [hitem] <;> rfl
        simp only [shows_style_iff hstyle, shows_nil_iff, hlength, Nat.add_zero]
        constructor
        · intro hrest
          exact ⟨[], out, rfl, hrest, rfl⟩
        · rintro ⟨_, later, rfl, hrest, rfl⟩
          exact hrest

/-- What a template shows is what its first part shows, and then what the rest shows behind the
literal text of the first one. -/
theorem shows_append_iff :
    Shows v e c color offset (before ++ rest) out ↔
      ∃ first later, Shows v e c color offset before first ∧
        Shows v e c color (offset + segmentsLength color before) rest later ∧
        out = first ++ later := by
  induction before generalizing offset out with
  | nil =>
      simp only [shows_nil_iff]
      constructor
      · intro hrest
        exact ⟨[], out, rfl, hrest, rfl⟩
      · rintro ⟨_, later, rfl, hrest, rfl⟩
        exact hrest
  | cons seg before ih =>
      rw [List.cons_append, shows_cons_iff, segmentsLength_cons color seg before, ← Nat.add_assoc]
      constructor
      · rintro ⟨own, _, hown, hparts, rfl⟩
        obtain ⟨first, later, hfirst, hlater, rfl⟩ := ih.mp hparts
        exact ⟨own ++ first, later, shows_cons_iff.mpr ⟨own, first, hown, hfirst, rfl⟩, hlater,
          by rw [List.append_assoc]⟩
      · rintro ⟨_, later, hparts, hlater, rfl⟩
        obtain ⟨own, first, hown, hfirst, rfl⟩ := shows_cons_iff.mp hparts
        exact ⟨own, first ++ later, hown, ih.mpr ⟨first, later, hfirst, hlater, rfl⟩,
          by rw [List.append_assoc]⟩

end Parts

/-- The text of a list is made of one text for each member. -/
theorem fieldValue_list_iff {v : View} {e : Entry} {c : Compiled} {spec : FieldSpec}
    (h : spec.token = .fields) {list : String} :
    fieldValue v e c spec = .ok list ↔
      ∃ members, List.Forall₂ (fun q text => remainingText v e.level c spec q = .ok text)
          (remaining c e spec) members ∧
        fieldText v e.level c spec "Fields" (joinWith " " members)
          (spec.printKey && (!spec.ignoreEmpty || !(joinWith " " members).isEmpty)) =
            .ok list := by
  rw [fieldValue, if_pos h, remainingFieldText_eq_ok_iff]
  simp only [allOk_eq_ok_iff]
  rfl

/-- Every list of remaining fields, wherever it stands in a template, has the same members up to
ignored null values: in ascending order of their keys, each once, the fields of the entry that no
placeholder anywhere in the template looks up.  Their texts are separated by single spaces, and
the line shows the list between what the template shows before it and behind it.  So every field
of the entry is either looked up or in a list that ignores nothing, and never both. -/
theorem render_lists_rest {format : String} {color : Bool} {c : Compiled}
    (hc : compile format color = .ok c) (v : View) (e : Entry) {before after : List Segment}
    {p : Placeholder} (hparts : segments format.toList = before ++ .placeholder p :: after)
    (hp : p.token = .fields) :
    ∃ rest, IsRest format e p rest ∧
      (¬p.Ignores → ∀ k x, e.fields.get? k = some x →
        (LooksUp format k ∨ (k, x) ∈ rest) ∧ ¬(LooksUp format k ∧ (k, x) ∈ rest)) ∧
      ∀ line, render v e c = .ok line ↔
        ∃ first members list later,
          Shows v e c color 0 before first ∧
          List.Forall₂ (fun q text =>
            remainingText v e.level c (p.specAfter color before) q = .ok text) rest members ∧
          fieldText v e.level c (p.specAfter color before) "Fields" (joinWith " " members)
            ((p.spec color).printKey && (!(p.spec color).ignoreEmpty ||
              !(joinWith " " members).isEmpty)) = .ok list ∧
          Shows v e c color (segmentsLength color before) after later ∧
          line = String.ofList (first ++ list.toList ++ later ++ ['\n']) := by
  obtain ⟨-, rfl⟩ := compile_eq_ok_iff.mp hc
  have hrest := isRest_remaining format color e p
  have hvalue : p.token.IsValue := by rw [hp]; exact ⟨rfl, by decide⟩
  have htoken : (p.specAfter color before).token = .fields := (p.spec_token color).trans hp
  refine ⟨_, hrest, fun hkeeps k x hx => ?_, fun line => ?_⟩
  · rw [hrest.mem_iff]
    by_cases hlooked : LooksUp format k
    · exact ⟨Or.inl hlooked, fun h => h.2.2.1 hlooked⟩
    · exact ⟨Or.inr ⟨hx, hlooked, fun h => hkeeps h.1⟩, fun h => hlooked h.1⟩
  · rw [render_ofItems_eq_ok_iff, hparts]
    simp only [shows_append_iff, shows_value_iff hvalue, Nat.zero_add]
    constructor
    · rintro ⟨_, ⟨first, _, hfirst, ⟨list, later, hlist, hlater, rfl⟩, rfl⟩, rfl⟩
      obtain ⟨members, hmembers, hdressed⟩ := (fieldValue_list_iff htoken).mp hlist
      exact ⟨first, members, list, later, hfirst, hmembers, hdressed, hlater,
        by simp only [List.append_assoc]⟩
    · rintro ⟨first, members, list, later, hfirst, hmembers, hdressed, hlater, rfl⟩
      have hlist := (fieldValue_list_iff htoken).mpr ⟨members, hmembers, hdressed⟩
      exact ⟨_, ⟨first, _, hfirst, ⟨list, later, hlist, hlater, rfl⟩, rfl⟩,
        by simp only [List.append_assoc]⟩

/-- Entry with an empty and a null field. -/
def sparseEntry : Entry where
  __ := plainEntry
  fields := .ofList [("n", .null), ("b", .text ""), ("a", .text "1")]

/-- A name that is looked up behind a list, and shows nothing there, is not in the list. -/
theorem render_lists_rest_before_name :
    ∃ c p after, compile "%fields%|%b%|%fields:ignore%" false = .ok c ∧
      segments "%fields%|%b%|%fields:ignore%".toList = [] ++ .placeholder p :: after ∧
      p.token = .fields ∧
      IsRest "%fields%|%b%|%fields:ignore%" sparseEntry p [("a", .text "1"), ("n", .null)] ∧
      render plainView sparseEntry c = .ok "a=1 n=null||a=1\n" := by
  have hc : compile "%fields%|%b%|%fields:ignore%" false =
      .ok (.ofItems (items "%fields%|%b%|%fields:ignore%" false)) :=
    compile_eq_ok_iff.mpr ⟨by decide +kernel, rfl⟩
  have hline : render plainView sparseEntry
      (.ofItems (items "%fields%|%b%|%fields:ignore%" false)) = .ok "a=1 n=null||a=1\n" :=
    eq_ok_of_toOption (by decide +kernel)
  have hparts : segments "%fields%|%b%|%fields:ignore%".toList =
      [] ++ .placeholder ⟨none, none, some "fields".toList, none⟩ ::
        (segments "%fields%|%b%|%fields:ignore%".toList).tail := by
    decide +kernel
  obtain ⟨rest, hrest, -, -⟩ :=
    render_lists_rest hc plainView sparseEntry hparts (by decide +kernel)
  have hlisted : remaining (.ofItems (items "%fields%|%b%|%fields:ignore%" false)) sparseEntry
      (Placeholder.spec false ⟨none, none, some "fields".toList, none⟩) =
        [("a", .text "1"), ("n", .null)] := by
    decide +kernel
  rw [hrest.unique (isRest_remaining _ false _ _), hlisted] at hrest
  exact ⟨_, _, _, hc, hparts, by decide +kernel, hrest, hline⟩

end Line
end Hooklog
