import Hooklog.Proofs.Sgr.Painted

/-!
# Whole sequences

A sequence of attributes is the escape character, a bracket, parameters and a letter.  A text is
whole if each of its escape characters starts such a sequence.  Then it is made of sequences and
of other characters in one way only, so that one can speak of the sequences it holds.
-/

namespace Hooklog.Sgr

open Text

/-- Parameters: runs of digits with a semicolon between two of them, none of them empty. -/
inductive Parameters : List Char → Prop where
  | single {c : Char} : isAsciiDigit c = true → Parameters [c]
  | digit {c : Char} {s : List Char} : isAsciiDigit c = true → Parameters s → Parameters (c :: s)
  | next {c : Char} {s : List Char} : isAsciiDigit c = true → Parameters s →
      Parameters (c :: ';' :: s)

/-- A complete sequence of attributes. -/
def IsSequence (q : List Char) : Prop := ∃ s, Parameters s ∧ q = escape :: '[' :: (s ++ ['m'])

/-- A text in which every escape character starts a complete sequence. -/
def Whole (t : List Char) : Prop :=
  ∀ before rest, t = before ++ escape :: rest →
    ∃ q after, IsSequence q ∧ escape :: rest = q ++ after

/-- The sequences that a text holds, from left to right; no other character in it is an escape
character. -/
inductive Holds : List (List Char) → List Char → Prop where
  | nil : Holds [] []
  | char {c : Char} {qs : List (List Char)} {t : List Char} : c ≠ escape → Holds qs t →
      Holds qs (c :: t)
  | sequence {q : List Char} {qs : List (List Char)} {t : List Char} : IsSequence q →
      Holds qs t → Holds (q :: qs) (q ++ t)

/-! ## Sequences -/

theorem ne_of_isAsciiDigit {c d : Char} (hc : isAsciiDigit c = true)
    (hd : isAsciiDigit d = false) : c ≠ d := by
  rintro rfl
  rw [hc] at hd
  exact Bool.noConfusion hd

theorem Parameters.mem {s : List Char} (h : Parameters s) {c : Char} (hc : c ∈ s) :
    isAsciiDigit c = true ∨ c = ';' := by
  induction h with
  | single hd => exact Or.inl (List.mem_singleton.mp hc ▸ hd)
  | digit hd _ ih =>
      rcases List.mem_cons.mp hc with rfl | hc
      · exact Or.inl hd
      · exact ih hc
  | next hd _ ih =>
      rcases List.mem_cons.mp hc with rfl | hc
      · exact Or.inl hd
      · rcases List.mem_cons.mp hc with rfl | hc
        · exact Or.inr rfl
        · exact ih hc

theorem Parameters.notMem {s : List Char} (h : Parameters s) {c : Char}
    (hdigit : isAsciiDigit c = false) (hsemicolon : c ≠ ';') : c ∉ s := by
  intro hc
  rcases h.mem hc with hd | hd
  · exact ne_of_isAsciiDigit hd hdigit rfl
  · exact hsemicolon hd

/-- A sequence has no escape character but the first. -/
theorem IsSequence.exists_cons {q : List Char} (h : IsSequence q) :
    ∃ body, q = escape :: body ∧ escape ∉ body := by
  obtain ⟨s, hs, rfl⟩ := h
  refine ⟨'[' :: (s ++ ['m']), rfl, ?_⟩
  have hparameters := hs.notMem (c := escape) (by decide) (by decide)
  simp only [List.mem_cons, List.mem_append, List.not_mem_nil, or_false, not_or]
  exact ⟨by decide, hparameters, by decide⟩

theorem IsSequence.letter_mem {q : List Char} (h : IsSequence q) : 'm' ∈ q := by
  obtain ⟨s, -, rfl⟩ := h
  simp

/-- A sequence ends at its first letter. -/
theorem IsSequence.append_inj {q q' t t' : List Char} (h : IsSequence q) (h' : IsSequence q')
    (heq : q ++ t = q' ++ t') : q = q' ∧ t = t' := by
  obtain ⟨s, hs, rfl⟩ := h
  obtain ⟨s', hs', rfl⟩ := h'
  have hm : ∀ {r : List Char}, Parameters r → ∀ c ∈ r, (c != 'm') = true := by
    intro r hr c hc
    have hnone := hr.notMem (c := 'm') (by decide) (by decide)
    exact bne_iff_ne.mpr fun hcm => hnone (hcm ▸ hc)
  have hbody : s ++ 'm' :: t = s' ++ 'm' :: t' := by simpa using heq
  have htake := congrArg (List.takeWhile fun c => c != 'm') hbody
  have hdrop := congrArg (List.dropWhile fun c => c != 'm') hbody
  rw [List.takeWhile_append_of_pos (hm hs), List.takeWhile_append_of_pos (hm hs')] at htake
  rw [List.dropWhile_append_of_pos (hm hs), List.dropWhile_append_of_pos (hm hs')] at hdrop
  simp only [List.takeWhile_cons, List.dropWhile_cons, bne_self_eq_false, Bool.false_eq_true,
    if_false, List.append_nil, List.cons.injEq, true_and] at htake hdrop
  exact ⟨by rw [htake], hdrop⟩

/-! ## Texts that hold sequences -/

/-- Other characters hold no sequence. -/
theorem holds_of_notMem {t : List Char} (h : escape ∉ t) : Holds [] t := by
  induction t with
  | nil => exact .nil
  | cons c t ih =>
      rw [List.mem_cons, not_or] at h
      exact .char (Ne.symm h.1) (ih h.2)

namespace Holds

variable {qs : List (List Char)} {t : List Char}

theorem append {qs' : List (List Char)} {t' : List Char} (h : Holds qs t) (h' : Holds qs' t') :
    Holds (qs ++ qs') (t ++ t') := by
  induction h with
  | nil => exact h'
  | char hc _ ih => exact .char hc ih
  | sequence hq _ ih =>
      rw [List.append_assoc]
      exact .sequence hq ih

/-- Every sequence has its own escape character. -/
theorem count_escape (h : Holds qs t) : t.count escape = qs.length := by
  induction h with
  | nil => rfl
  | char hc _ ih => rw [List.count_cons_of_ne hc, ih]
  | sequence hq _ ih =>
      obtain ⟨body, rfl, hbody⟩ := hq.exists_cons
      rw [List.count_append, List.count_cons_self, List.count_eq_zero.mpr hbody, ih,
        List.length_cons, Nat.add_comm]

theorem escape_notMem (h : Holds [] t) : escape ∉ t :=
  List.count_eq_zero.mp h.count_escape

theorem escape_mem {q : List Char} (h : Holds (q :: qs) t) : escape ∈ t := by
  have hcount := h.count_escape
  rw [List.length_cons] at hcount
  exact List.count_pos_iff.mp (by omega)

/-- A text that holds a sequence has the letter of it. -/
theorem letter_mem (h : Holds qs t) (hne : qs ≠ []) : 'm' ∈ t := by
  induction h with
  | nil => exact absurd rfl hne
  | char _ _ ih => exact List.mem_cons_of_mem _ (ih hne)
  | sequence hq _ _ => exact List.mem_append_left _ hq.letter_mem

theorem cons_inv {c : Char} (hc : c ≠ escape) (h : Holds qs (c :: t)) : Holds qs t := by
  generalize hu : c :: t = u at h
  cases h with
  | nil => simp at hu
  | char _ hrest =>
      obtain ⟨-, rfl⟩ := List.cons_eq_cons.mp hu
      exact hrest
  | sequence hq _ =>
      obtain ⟨body, rfl, -⟩ := hq.exists_cons
      exact absurd (List.cons_eq_cons.mp hu).1 hc

theorem sequence_inv {q : List Char} (hq : IsSequence q) (h : Holds qs (q ++ t)) :
    ∃ later, qs = q :: later ∧ Holds later t := by
  obtain ⟨body, hbody, -⟩ := hq.exists_cons
  generalize hu : q ++ t = u at h
  cases h with
  | nil => simp [hbody] at hu
  | char hc _ =>
      rw [hbody] at hu
      exact absurd (List.cons_eq_cons.mp hu).1.symm hc
  | sequence hq' hrest =>
      obtain ⟨rfl, rfl⟩ := hq.append_inj hq' hu
      exact ⟨_, rfl, hrest⟩

/-- A text is made of sequences and other characters in one way only. -/
theorem unique {qs' : List (List Char)} (h : Holds qs t) (h' : Holds qs' t) : qs = qs' := by
  induction h generalizing qs' with
  | nil =>
      cases qs' with
      | nil => rfl
      | cons q qs' => exact absurd h'.escape_mem List.not_mem_nil
  | char hc _ ih => exact ih (h'.cons_inv hc)
  | sequence hq _ ih =>
      obtain ⟨later, rfl, hlater⟩ := h'.sequence_inv hq
      rw [ih hlater]

/-- A space at the end belongs to no sequence. -/
theorem of_concat_space (h : Holds qs (t ++ [' '])) : Holds qs t := by
  generalize hu : t ++ [' '] = u at h
  induction h generalizing t with
  | nil => simp at hu
  | @char c qs u hc hrest ih =>
      cases t with
      | nil =>
          obtain ⟨-, rfl⟩ := List.cons_eq_cons.mp hu
          exact hrest
      | cons d t =>
          obtain ⟨rfl, rfl⟩ := List.cons_eq_cons.mp hu
          exact .char hc (ih rfl)
  | @sequence q qs u hq hrest ih =>
      -- the last character of the sequence is a letter, so the space stands behind it
      rcases List.eq_nil_or_concat u with rfl | ⟨t', c, rfl⟩
      · obtain ⟨s, -, rfl⟩ := hq
        have hends : t ++ [' '] = escape :: '[' :: s ++ ['m'] := by simpa using hu
        exact absurd (List.append_inj' hends rfl).2 (by decide)
      · rw [List.concat_eq_append, ← List.append_assoc] at hu
        obtain ⟨rfl, hc⟩ := List.append_inj' hu rfl
        exact .sequence hq (ih (by rw [List.concat_eq_append, hc]))

theorem of_append_spaces {n : Nat} (h : Holds qs (t ++ List.replicate n ' ')) : Holds qs t := by
  induction n with
  | zero => simpa using h
  | succ n ih =>
      rw [List.replicate_succ', ← List.append_assoc] at h
      exact ih h.of_concat_space

theorem of_spaces_append {n : Nat} (h : Holds qs (List.replicate n ' ' ++ t)) : Holds qs t := by
  induction n with
  | zero => exact h
  | succ n ih => exact ih (h.cons_inv (by decide))

end Holds

theorem holds_replicate_space (n : Nat) : Holds [] (List.replicate n ' ') := by
  refine holds_of_notMem fun h => ?_
  exact absurd (List.eq_of_mem_replicate h) (by decide)

/-! ## Whole texts -/

theorem Whole.of_append {s t : List Char} (h : Whole (s ++ t)) : Whole t := by
  intro before rest ht
  exact h (s ++ before) rest (by rw [ht, List.append_assoc])

theorem Holds.whole {qs : List (List Char)} {t : List Char} (h : Holds qs t) : Whole t := by
  induction h with
  | nil =>
      intro before rest ht
      simp at ht
  | char hc _ ih =>
      intro before rest ht
      cases before with
      | nil => exact absurd (List.cons_eq_cons.mp ht).1 hc
      | cons d before => exact ih before rest (List.cons_eq_cons.mp ht).2
  | @sequence q qs t hq hrest ih =>
      intro before rest ht
      obtain ⟨body, hbody, hnone⟩ := hq.exists_cons
      cases before with
      | nil => exact ⟨q, t, hq, ht.symm⟩
      | cons d before =>
          -- no other escape character stands in the sequence
          rw [hbody] at ht
          rcases List.append_eq_append_iff.mp (List.cons_eq_cons.mp ht).2 with
            ⟨between, hbefore, ht⟩ | ⟨between, hbody, ht⟩
          · exact ih between rest ht
          · cases between with
            | nil => exact ih [] rest ht.symm
            | cons c between =>
                obtain ⟨rfl, -⟩ := List.cons_eq_cons.mp ht
                rw [hbody] at hnone
                simp at hnone

/-- A whole text holds some sequences. -/
theorem Whole.exists_holds {t : List Char} (h : Whole t) : ∃ qs, Holds qs t := by
  -- a sequence is read at once, so the length decreases by more than one
  induction hn : t.length using Nat.strongRecOn generalizing t with
  | ind n ih =>
      cases t with
      | nil => exact ⟨[], .nil⟩
      | cons c t =>
          rw [List.length_cons] at hn
          by_cases hc : c = escape
          · obtain ⟨q, after, hq, ht⟩ := h [] t (by rw [hc, List.nil_append])
            obtain ⟨body, hbody, -⟩ := hq.exists_cons
            rw [hc, ht] at h ⊢
            have hlength := congrArg List.length ht
            simp only [hbody, List.length_append, List.length_cons] at hlength
            obtain ⟨qs, hqs⟩ := ih after.length (by omega) h.of_append rfl
            exact ⟨q :: qs, .sequence hq hqs⟩
          · obtain ⟨qs, hqs⟩ := ih t.length (by omega)
              (Whole.of_append (s := [c]) h) rfl
            exact ⟨qs, .char hc hqs⟩

theorem Whole.append {s t : List Char} (hs : Whole s) (ht : Whole t) : Whole (s ++ t) := by
  obtain ⟨qs, hqs⟩ := hs.exists_holds
  obtain ⟨qs', hqs'⟩ := ht.exists_holds
  exact (hqs.append hqs').whole

theorem whole_of_notMem {t : List Char} (h : escape ∉ t) : Whole t := (holds_of_notMem h).whole

/-- A text with an escape character and no letter to end a sequence is not whole. -/
theorem not_whole_of_notMem {t : List Char} (hescape : escape ∈ t) (hletter : 'm' ∉ t) :
    ¬ Whole t := by
  intro h
  obtain ⟨qs, hqs⟩ := h.exists_holds
  cases qs with
  | nil => exact hqs.escape_notMem hescape
  | cons q qs => exact hletter (hqs.letter_mem (List.cons_ne_nil q qs))

/-- The leading characters of a text hold all of its sequences exactly if none of them is cut and
no other follows. -/
theorem Holds.take_iff {qs : List (List Char)} {t : List Char} (h : Holds qs t) (n : Nat) :
    Holds qs (t.take n) ↔ Whole (t.take n) ∧ escape ∉ t.drop n := by
  constructor
  · intro htake
    -- all escape characters stand among the leading ones, since every sequence has its own
    have hcount := h.count_escape
    rw [← List.take_append_drop n t, List.count_append, htake.count_escape] at hcount
    exact ⟨htake.whole, List.count_eq_zero.mp (by omega)⟩
  · rintro ⟨hwhole, hdrop⟩
    obtain ⟨qs', htake⟩ := hwhole.exists_holds
    have hall := htake.append (holds_of_notMem hdrop)
    rw [List.take_append_drop, List.append_nil] at hall
    rwa [h.unique hall]

/-! ## Sequences that are written -/

theorem Parameters.of_digits {digits s : List Char} (hdigits : ∀ c ∈ digits, isAsciiDigit c = true)
    (hne : digits ≠ []) (hs : s = [] ∨ ∃ later, Parameters later ∧ s = ';' :: later) :
    Parameters (digits ++ s) := by
  induction digits with
  | nil => exact absurd rfl hne
  | cons c digits ih =>
      obtain ⟨hc, hrest⟩ := List.forall_mem_cons.mp hdigits
      cases digits with
      | nil =>
          rcases hs with rfl | ⟨later, hlater, rfl⟩
          · exact .single hc
          · exact .next hc hlater
      | cons d digits => exact .digit hc (ih hrest (List.cons_ne_nil d digits))

theorem Parameters.of_codes {codes : List Nat} (hne : codes ≠ []) :
    Parameters (parameters codes) := by
  induction codes with
  | nil => exact absurd rfl hne
  | cons n rest ih =>
      have hdigits : ∀ c ∈ Decimal.digitsOf n, isAsciiDigit c = true :=
        fun _ => Decimal.isAsciiDigit_of_mem_digitsOf
      have hsome := Decimal.digitsOf_ne_nil n
      cases rest with
      | nil =>
          rw [parameters_singleton, ← List.append_nil (Decimal.digitsOf n)]
          exact .of_digits hdigits hsome (Or.inl rfl)
      | cons m rest =>
          rw [parameters_cons_cons]
          exact .of_digits hdigits hsome (Or.inr ⟨_, ih (List.cons_ne_nil m rest), rfl⟩)

theorem isSequence_opening {attributes : List Attribute} (hne : attributes ≠ []) :
    IsSequence (opening attributes).toList :=
  ⟨_, Parameters.of_codes (codesOf_ne_nil hne), toList_opening attributes⟩

theorem IsSequence.whole {q : List Char} (h : IsSequence q) : Whole q := by
  rw [← List.append_nil q]
  exact (Holds.sequence h .nil).whole

/-- Attributes around a whole text. -/
theorem Whole.paint {t : List Char} (h : Whole t) {attributes : List Attribute}
    (hne : attributes ≠ []) :
    Whole ((opening attributes).toList ++ t ++ closing.toList) := by
  rw [closing_eq]
  exact ((isSequence_opening hne).whole.append h).append
    (isSequence_opening (List.cons_ne_nil _ _)).whole

end Hooklog.Sgr
