import Hooklog.Proofs.Sgr.Grammar

/-!
# What removal leaves

Removing the control sequences of a text is one pass over it.  The text before a removed
sequence is joined with the text after it, and an escape character that started no sequence may
start one then.  Nothing else can go wrong.

* `escape_suffix_strip_iff` finds every escape character that is left in the text it came from.
* `strip_eq_self_iff` says that removal changes exactly the texts that hold a sequence.
* `Completes` is an escape character that becomes the start of a sequence, and
  `stripString_holdsNone_iff` says that no other sequence is ever left.
-/

namespace Hooklog.Sgr

open Text

/-! ## Escape characters that are left -/

/-- A text that ends in another one and starts with a character that its first part does not
hold, ends in its second part only. -/
theorem suffix_of_suffix_append {c : Char} {p s u : List Char} (hc : c ∉ p)
    (h : c :: u <:+ p ++ s) : c :: u <:+ s := by
  induction p with
  | nil => exact h
  | cons d p ih =>
      rw [List.mem_cons, not_or] at hc
      rcases cons_suffix_cons_iff.mp h with heq | h
      · exact absurd heq.1 hc.1
      · exact ih hc.2 h

/-- The escape characters that are left are those that start no sequence, each with what removal
leaves of the text behind it. -/
theorem escape_suffix_strip_iff {e : Char} (he : isEscape e = true) (t u : List Char) :
    e :: u <:+ strip t ↔ ∃ s, e :: s <:+ t ∧ afterSequence? s = none ∧ u = strip s := by
  fun_induction strip t with
  | case1 => simp
  | case2 c rest hc r htaken ih =>
      -- the sequence holds no other escape character, and its own one is gone
      obtain ⟨q, hq, rfl⟩ := exists_of_afterSequence? hc htaken
      rw [ih]
      constructor
      · rintro ⟨s, hs, hnone, hu⟩
        exact ⟨s, (hs.trans (List.suffix_append q r)).trans (List.suffix_cons c _), hnone, hu⟩
      · rintro ⟨s, hs, hnone, hu⟩
        rcases cons_suffix_cons_iff.mp hs with ⟨-, rfl⟩ | hs
        · rw [htaken] at hnone
          exact absurd hnone (Option.some_ne_none r)
        · exact ⟨s, suffix_of_suffix_append (hq.notMem_of_isEscape he) hs, hnone, hu⟩
  | case3 c rest hc htaken ih =>
      rw [cons_suffix_cons_iff, ih]
      constructor
      · rintro (⟨rfl, rfl⟩ | ⟨s, hs, hnone, hu⟩)
        · exact ⟨rest, List.suffix_refl _, htaken, rfl⟩
        · exact ⟨s, hs.trans (List.suffix_cons c rest), hnone, hu⟩
      · rintro ⟨s, hs, hnone, hu⟩
        rcases cons_suffix_cons_iff.mp hs with ⟨rfl, rfl⟩ | hs
        · exact Or.inl ⟨rfl, hu⟩
        · exact Or.inr ⟨s, hs, hnone, hu⟩
  | case4 c rest hc ih =>
      have hne : e ≠ c := fun heq => hc (heq ▸ he)
      have hbehind : ∀ s v, e :: s <:+ c :: v ↔ e :: s <:+ v := fun s v => by
        rw [cons_suffix_cons_iff, or_iff_right fun h => hne h.1]
      simp only [hbehind, ih]

/-! ## Texts that removal leaves as they are -/

theorem length_strip_le (t : List Char) : (strip t).length ≤ t.length := by
  fun_induction strip t with
  | case1 => exact Nat.le_refl _
  | case2 c rest hc r htaken ih =>
      have hrest := length_afterSequence? htaken
      rw [List.length_cons]
      omega
  | case3 c rest hc htaken ih => simpa using ih
  | case4 c rest hc ih => simpa using ih

/-- Removal changes a text exactly if it holds a sequence. -/
theorem strip_eq_self_iff (t : List Char) : strip t = t ↔ HoldsNone t := by
  fun_induction strip t with
  | case1 => exact iff_of_true rfl holdsNone_nil
  | case2 c rest hc r htaken ih =>
      refine iff_of_false (fun h => ?_) (fun h => ?_)
      · -- what is taken away makes the text shorter
        have hstrip := length_strip_le r
        have hrest := length_afterSequence? htaken
        rw [h, List.length_cons] at hstrip
        omega
      · have hnone := (holdsNone_cons_iff.mp h).1 hc
        rw [htaken] at hnone
        exact Option.some_ne_none r hnone
  | case3 c rest hc htaken ih =>
      rw [List.cons_eq_cons, holdsNone_cons_iff, ← ih]
      exact and_congr_left fun _ => iff_of_true rfl fun _ => htaken
  | case4 c rest hc ih =>
      rw [List.cons_eq_cons, holdsNone_cons_iff, ← ih]
      exact and_congr_left fun _ => iff_of_true rfl fun h => absurd h hc

/-! ## Sequences that removal completes -/

/-- Whether removal completes a sequence: an escape character of the text starts none, but it
does so once the sequences behind it are removed. -/
def Completes (t : List Char) : Prop :=
  ∃ e s, isEscape e = true ∧ e :: s <:+ t ∧ ¬ StartsSequence (e :: s) ∧
    StartsSequence (e :: strip s)

/-- Removal leaves a sequence exactly if it completes one. -/
theorem strip_holdsNone_iff (t : List Char) : HoldsNone (strip t) ↔ ¬ Completes t := by
  rw [holdsNone_iff]
  constructor
  · rintro h ⟨e, s, he, hs, hnot, hstarts⟩
    have hnone := (not_startsSequence_iff he).mp hnot
    have hleft := (escape_suffix_strip_iff he t (strip s)).mpr ⟨s, hs, hnone, rfl⟩
    exact (startsSequence_iff he).mp hstarts (h e _ he hleft)
  · intro h e u he hu
    obtain ⟨s, hs, hnone, rfl⟩ := (escape_suffix_strip_iff he t u).mp hu
    rw [← not_startsSequence_iff he]
    exact fun hstarts => h ⟨e, s, he, hs, (not_startsSequence_iff he).mpr hnone, hstarts⟩

/-- The text before the first sequence is left as it is. -/
theorem exists_first_sequence (t : List Char) :
    HoldsNone t ∨ ∃ p q s, IsSequenceText q ∧ t = p ++ (q ++ s) ∧ strip t = p ++ strip s := by
  fun_induction strip t with
  | case1 => exact Or.inl holdsNone_nil
  | case2 c rest hc r htaken ih =>
      obtain ⟨q, hq, rfl⟩ := exists_of_afterSequence? hc htaken
      exact Or.inr ⟨[], c :: q, r, hq, rfl, rfl⟩
  | case3 c rest hc htaken ih =>
      rcases ih with hnone | ⟨p, q, s, hq, rfl, hstrip⟩
      · exact Or.inl (holdsNone_cons_iff.mpr ⟨fun _ => htaken, hnone⟩)
      · exact Or.inr ⟨c :: p, q, s, hq, rfl, congrArg (c :: ·) hstrip⟩
  | case4 c rest hc ih =>
      rcases ih with hnone | ⟨p, q, s, hq, rfl, hstrip⟩
      · exact Or.inl (holdsNone_cons_iff.mpr ⟨fun h => absurd h hc, hnone⟩)
      · exact Or.inr ⟨c :: p, q, s, hq, rfl, congrArg (c :: ·) hstrip⟩

/-- Whether an escape character that starts no sequence stands before a sequence with nothing but
introducers, letters, digits and semicolons between them. -/
def Touches (t : List Char) : Prop :=
  ∃ e w q s, isEscape e = true ∧ (∀ c ∈ w, isIntroducer c = true ∨ isBelled c = true) ∧
    IsSequenceText q ∧ e :: (w ++ (q ++ s)) <:+ t ∧ ¬ StartsSequence (e :: (w ++ (q ++ s)))

/-- Other characters between an escape character and the sequence behind it keep removal from
completing a sequence. -/
theorem Completes.touches {t : List Char} (h : Completes t) : Touches t := by
  obtain ⟨e, s, he, hs, hnot, q₀, hq₀, hstarts⟩ := h
  obtain ⟨e', w, c, rfl, -, hw, -⟩ := hq₀.exists_middle
  obtain ⟨rfl, hbegins⟩ := List.cons_prefix_cons.mp hstarts
  have hbeyond : ∀ p, p <+: s → ¬ w ++ [c] <+: p := fun p hp hshort =>
    hnot ⟨_, hq₀, List.cons_prefix_cons.mpr ⟨rfl, hshort.trans hp⟩⟩
  rcases exists_first_sequence s with hnone | ⟨p, q, r, hq, rfl, hstrip⟩
  · rw [(strip_eq_self_iff s).mpr hnone] at hbegins
    exact absurd hbegins (hbeyond s (List.prefix_refl s))
  · -- the completed sequence goes beyond the text before the first removed one
    have hshort : p <+: w := by
      rw [hstrip] at hbegins
      rcases List.prefix_or_prefix_of_prefix hbegins (List.prefix_append p _) with h | h
      · exact absurd h (hbeyond p (List.prefix_append p _))
      · refine (List.prefix_concat_iff.mp h).resolve_left fun heq => ?_
        exact hbeyond p (List.prefix_append p _) (heq ▸ List.prefix_refl _)
    exact ⟨e', p, q, r, he, fun d hd => hw d (hshort.subset hd), hq, hs, hnot⟩

/-! ## Strings -/

/-- Removal leaves no sequence, and a second removal changes nothing, exactly unless it completes
a sequence.  It can do so only where an escape character without a sequence touches one. -/
theorem stripString_holdsNone_iff (t : String) :
    (HoldsNone (stripString t).toList ↔ ¬ Completes t.toList) ∧
      (stripString (stripString t) = stripString t ↔ ¬ Completes t.toList) ∧
      (Completes t.toList → Touches t.toList) := by
  have hstrip : (stripString t).toList = strip t.toList := String.toList_ofList
  rw [hstrip, strip_holdsNone_iff]
  refine ⟨Iff.rfl, ?_, Completes.touches⟩
  rw [← strip_holdsNone_iff, ← strip_eq_self_iff, ← String.toList_inj, hstrip, stripString, hstrip,
    String.toList_ofList]

/-- An escape character in front of two sequences, of which the first is complete: removing it
makes the second one complete. -/
theorem sequence_completed_by_removal :
    stripString "\x1b\x1b[m[m" = "\x1b[m" ∧ ¬ HoldsNone (stripString "\x1b\x1b[m[m").toList ∧
      stripString (stripString "\x1b\x1b[m[m") ≠ stripString "\x1b\x1b[m[m" := by
  have hfirst : stripString "\x1b\x1b[m[m" = "\x1b[m" := by decide +kernel
  have hsecond : stripString "\x1b[m" = "" := by decide +kernel
  rw [hfirst, hsecond, ← strip_eq_self_iff]
  exact ⟨rfl, by decide +kernel, by decide⟩

end Hooklog.Sgr
