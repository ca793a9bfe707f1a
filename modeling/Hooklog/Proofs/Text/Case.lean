import Hooklog.Text.Case
import Hooklog.Proofs.Text.Characters
import Hooklog.Proofs.Text.Classes
import Hooklog.Proofs.Tables

/-!
# Images of case mappings

What the tables of the case mappings can and cannot produce.  Only the ASCII letters and the
Kelvin sign become ASCII letters in lower case.  Digits and white space have no letter case, so a
text of ASCII characters between them is mapped on its own.
-/

namespace Hooklog.Text

/-- A code point is left as it is or shifted by a run that covers it. -/
theorem shiftBy_cases (runs : List CaseRun) (n : Nat) :
    shiftBy runs n = n ∨
      ∃ r ∈ runs, r.first ≤ n ∧ n ≤ r.last ∧ shiftBy runs n = (Int.ofNat n + r.shift).toNat := by
  induction runs with
  | nil => exact Or.inl rfl
  | cons r rest ih =>
      rw [shiftBy]
      by_cases h : r.covers n = true
      · rw [if_pos h]
        simp only [CaseRun.covers, Bool.and_eq_true, decide_eq_true_eq] at h
        exact Or.inr ⟨r, List.mem_cons_self, h.1.1, h.1.2, rfl⟩
      · rw [if_neg h]
        rcases ih with hsame | ⟨r', hr', hcovers⟩
        · exact Or.inl hsame
        · exact Or.inr ⟨r', List.mem_cons_of_mem r hr', hcovers⟩

theorem CaseTable.image_of_ascii (t : CaseTable) {c : Char} (h : c.toNat < 0x80) :
    t.image c = [t.ascii c] :=
  if_pos h

/-! ## ASCII letters in lower case -/

/-- ASCII characters are mapped one by one. -/
theorem lowerAfter_of_ascii (before : List Char) {s : List Char} (h : ∀ c ∈ s, c.toNat < 0x80) :
    lowerAfter before s = s.map Char.toLower := by
  induction s generalizing before with
  | nil => rfl
  | cons c s ih =>
      have hc := h c List.mem_cons_self
      have hsigma : c ≠ capitalSigma := by
        rintro rfl
        exact absurd hc (by decide)
      rw [lowerAfter, if_neg hsigma, lowerChar, lowerTable.image_of_ascii hc,
        ih (c :: before) fun d hd => h d (List.mem_cons_of_mem c hd)]
      rfl

theorem lower_of_ascii {s : List Char} (h : ∀ c ∈ s, c.toNat < 0x80) :
    lower s = s.map Char.toLower :=
  lowerAfter_of_ascii [] h

/-- The Kelvin sign, whose lower case is an ASCII letter. -/
def kelvinSign : Char := Char.ofNat 0x212A

theorem lowerRuns_image : ∀ r ∈ lowerRuns, r.last < 0x80 ∨
    (r.first = 0x212A ∧ r.last = 0x212A) ∨ 0x80 ≤ (r.first : Int) + r.shift := by
  decide +kernel

theorem lowerSequences_image : ∀ p ∈ lowerSequences, 0x307 ∈ p.2 := by
  decide +kernel

/-- Beyond ASCII only the Kelvin sign is shifted to an ASCII character. -/
theorem shiftBy_lowerRuns {n : Nat} (hn : 0x80 ≤ n) (hkelvin : n ≠ 0x212A) :
    0x80 ≤ shiftBy lowerTable.runs n := by
  rcases shiftBy_cases lowerTable.runs n with h | ⟨r, hr, hfirst, hlast, h⟩
  · rw [h]
    exact hn
  · rw [h]
    have himage := lowerRuns_image r hr
    simp only [Int.ofNat_eq_natCast]
    omega

theorem isAsciiLetter_of_lowerChar {c : Char}
    (h : SmallLetters (lowerChar c)) : isAsciiLetter c = true ∨ c = kelvinSign := by
  unfold lowerChar CaseTable.image at h
  split at h
  · left
    obtain ⟨hlow, hhigh⟩ := h _ (List.mem_singleton.mpr rfl)
    exact isAsciiLetter_of_toLower hlow hhigh
  · rename_i hascii
    unfold mapChar at h
    split at h
    · rename_i image himage
      have hmem := lowerSequences_image (c.toNat, image) (mem_of_lookup himage)
      have := (h _ (List.mem_map_of_mem hmem)).2
      exact absurd this (by decide)
    · right
      by_cases hkelvin : c.toNat = 0x212A
      · rw [kelvinSign, ← hkelvin, Char.ofNat_toNat]
      · have himage := shiftBy_lowerRuns (Nat.not_lt.mp hascii) hkelvin
        obtain ⟨hlow, hhigh⟩ := h _ (List.mem_singleton.mpr rfl)
        rw [le_iff_toNat_le] at hlow hhigh
        have ha : 'a'.toNat = 97 := rfl
        have hz : 'z'.toNat = 122 := rfl
        rcases toNat_ofNat_cases (shiftBy lowerTable.runs c.toNat) with hc | hc <;> omega

theorem not_letter_lowerSigma (before after : List Char) : ¬ lowerSigma before after ≤ 'z' := by
  unfold lowerSigma
  split <;> decide

/-- Every character leaves its image in the lower case of a text. -/
theorem mem_lowerAfter (before : List Char) {s : List Char} {c : Char} (hc : c ∈ s) :
    ∃ before' after, ∀ d ∈ (if c = capitalSigma then [lowerSigma before' after] else lowerChar c),
      d ∈ lowerAfter before s := by
  induction s generalizing before with
  | nil => simp at hc
  | cons b s ih =>
      rw [lowerAfter]
      rcases List.mem_cons.mp hc with rfl | hc
      · exact ⟨before, s, fun d hd => List.mem_append_left _ hd⟩
      · obtain ⟨before', after, h⟩ := ih (b :: before) hc
        exact ⟨before', after, fun d hd => List.mem_append_right _ (h d hd)⟩

/-- What is made of ASCII letters in lower case was made of ASCII letters and Kelvin signs. -/
theorem isAsciiLetter_of_mem_lower {s : List Char} (h : SmallLetters (lower s))
    {c : Char} (hc : c ∈ s) : isAsciiLetter c = true ∨ c = kelvinSign := by
  obtain ⟨before, after, himage⟩ := mem_lowerAfter [] hc
  split at himage
  · have hsigma := (h _ (himage _ (List.mem_singleton.mpr rfl))).2
    exact absurd hsigma (not_letter_lowerSigma before after)
  · exact isAsciiLetter_of_lowerChar fun d hd => h d (himage d hd)

/-! ## Characters without letter case -/

/-- A character that no letter case changes. -/
structure Caseless (c : Char) : Prop where
  sigma : c ≠ capitalSigma
  lower : lowerChar c = [c]
  upper : upperChar c = [c]

instance (c : Char) : Decidable (Caseless c) :=
  decidable_of_iff (c ≠ capitalSigma ∧ lowerChar c = [c] ∧ upperChar c = [c])
    ⟨fun h => ⟨h.1, h.2.1, h.2.2⟩, fun h => ⟨h.sigma, h.lower, h.upper⟩⟩

theorem caseless_of_isAsciiDigit {c : Char} (h : isAsciiDigit c = true) : Caseless c := by
  have hbounds := isAsciiDigit_iff.mp h
  exact forall_ascii (fun c => isAsciiDigit c = true → Caseless c) (by decide +kernel)
    (by omega) h

theorem lowerAfter_append {s : List Char}
    (h : ∀ c ∈ s, c ≠ capitalSigma ∧ lowerChar c = [c]) (before t : List Char) :
    lowerAfter before (s ++ t) = s ++ lowerAfter (s.reverse ++ before) t := by
  induction s generalizing before with
  | nil => rfl
  | cons c s ih =>
      obtain ⟨hc, hrest⟩ := List.forall_mem_cons.mp h
      rw [List.cons_append, lowerAfter, if_neg hc.1, hc.2, ih hrest, List.reverse_cons,
        List.append_assoc]
      rfl

/-- Without a capital sigma the characters are mapped one by one. -/
theorem lower_eq_flatMap {s : List Char} (h : ∀ c ∈ s, c ≠ capitalSigma) :
    lower s = s.flatMap lowerChar := by
  have hafter : ∀ before, lowerAfter before s = s.flatMap lowerChar := by
    induction s with
    | nil => exact fun _ => rfl
    | cons c s ih =>
        obtain ⟨hc, hrest⟩ := List.forall_mem_cons.mp h
        intro before
        rw [lowerAfter, if_neg hc, ih hrest, List.flatMap_cons]
  exact hafter []

theorem caseless_of_isBlank {c : Char} (h : isBlank c = true) : Caseless c := by
  have hblanks : ∀ n ∈ [9, 10, 11, 12, 13, 0x20, 0x85, 0xA0, 0x1680, 0x2000, 0x2001, 0x2002,
      0x2003, 0x2004, 0x2005, 0x2006, 0x2007, 0x2008, 0x2009, 0x200A, 0x2028, 0x2029, 0x202F,
      0x205F, 0x3000], Caseless (Char.ofNat n) := by decide +kernel
  rw [← Char.ofNat_toNat c]
  refine hblanks _ ?_
  simp only [isBlank, inRanges, List.any_cons, List.any_nil, Bool.or_eq_true, Bool.and_eq_true,
    decide_eq_true_eq, Bool.or_false] at h
  simp only [List.mem_cons, List.not_mem_nil, or_false]
  omega

theorem flatMap_eq_map {f : Char → List Char} {g : Char → Char} {s : List Char}
    (h : ∀ c ∈ s, f c = [g c]) : s.flatMap f = s.map g := by
  induction s with
  | nil => rfl
  | cons c s ih =>
      obtain ⟨hc, hrest⟩ := List.forall_mem_cons.mp h
      rw [List.flatMap_cons, hc, ih hrest]
      rfl

/-- Between characters that a table leaves alone, ASCII characters are mapped one by one. -/
theorem CaseTable.flatMap_framed (t : CaseTable) {before core after : List Char}
    (hbefore : ∀ c ∈ before, t.image c = [c]) (hcore : ∀ c ∈ core, c.toNat < 0x80)
    (hafter : ∀ c ∈ after, t.image c = [c]) :
    (before ++ (core ++ after)).flatMap t.image = before ++ (core.map t.ascii ++ after) := by
  have hframe : ∀ {s : List Char}, (∀ c ∈ s, t.image c = [c]) → s.flatMap t.image = s :=
    fun hs => (flatMap_eq_map (g := id) hs).trans (List.map_id _)
  have hword : core.flatMap t.image = core.map t.ascii :=
    flatMap_eq_map fun c hc => t.image_of_ascii (hcore c hc)
  rw [List.flatMap_append, List.flatMap_append, hframe hbefore, hframe hafter, hword]

section Framed

variable {before core after : List Char} (hbefore : ∀ c ∈ before, Caseless c)
  (hcore : ∀ c ∈ core, c.toNat < 0x80) (hafter : ∀ c ∈ after, Caseless c)

include hbefore hcore hafter

theorem upper_framed :
    upper (before ++ (core ++ after)) = before ++ (core.map Char.toUpper ++ after) :=
  upperTable.flatMap_framed (fun c hc => (hbefore c hc).upper) hcore
    fun c hc => (hafter c hc).upper

theorem lower_framed :
    lower (before ++ (core ++ after)) = before ++ (core.map Char.toLower ++ after) := by
  have hsigma : ∀ c ∈ before ++ (core ++ after), c ≠ capitalSigma := by
    refine List.forall_mem_append.mpr ⟨fun c hc => (hbefore c hc).sigma,
      List.forall_mem_append.mpr ⟨?_, fun c hc => (hafter c hc).sigma⟩⟩
    rintro c hc rfl
    exact absurd (hcore _ hc) (by decide)
  rw [lower_eq_flatMap hsigma]
  exact lowerTable.flatMap_framed (fun c hc => (hbefore c hc).lower) hcore
    fun c hc => (hafter c hc).lower

end Framed

end Hooklog.Text
