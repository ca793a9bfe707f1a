import Hooklog.Proofs.Sgr.PlainCase
import Hooklog.Proofs.Sgr.Sequences
import Hooklog.Proofs.Text.Classes

/-!
# Letter case of sequences

Lower case leaves a sequence as it is.  So does title case, since the letter of a sequence
follows a digit and never starts a word.  Upper case changes that letter, and no other character
is mapped to it.
-/

namespace Hooklog.Sgr

open Text

/-! ## What no mapping produces -/

theorem escape_notMem_upper {s : List Char} (h : escape ∉ s) : escape ∉ upper s := by
  intro hmem
  obtain ⟨c, hc, hescape⟩ := List.mem_flatMap.mp hmem
  exact escape_notMem_image upperTable_mem (fun heq => h (heq ▸ hc)) hescape

/-- No letter `m` is left in upper case. -/
theorem letter_notMem_upperChar (c : Char) : 'm' ∉ upperChar c := by
  have hmisses : Misses upperTable 'm'.toNat := by
    refine ⟨fun c => ?_, by decide +kernel, by decide +kernel⟩
    exact forall_ascii (fun c => c.toNat ≠ 'm'.toNat → c.toUpper.toNat ≠ 'm'.toNat)
      (by decide +kernel)
  by_cases hc : c = 'm'
  · subst hc
    decide
  · intro hmem
    have hnat : c.toNat ≠ 'm'.toNat := fun h => hc (Char.toNat_inj.mp h)
    exact hmisses.image_ne (by decide) hnat 'm' hmem rfl

theorem letter_notMem_upper (s : List Char) : 'm' ∉ upper s := by
  intro hmem
  obtain ⟨c, -, hm⟩ := List.mem_flatMap.mp hmem
  exact letter_notMem_upperChar c hm

/-! ## Sequences in lower case -/

theorem IsSequence.lowerAfter_append {q : List Char} (hq : IsSequence q) (before t : List Char) :
    lowerAfter before (q ++ t) = q ++ lowerAfter (q.reverse ++ before) t := by
  obtain ⟨s, hs, rfl⟩ := hq
  refine Text.lowerAfter_append (fun c hc => ?_) before t
  simp only [List.mem_cons, List.mem_append, List.not_mem_nil, or_false] at hc
  rcases hc with rfl | rfl | hc | rfl
  · decide
  · decide
  · rcases hs.mem hc with hdigit | rfl
    · have hcaseless := caseless_of_isAsciiDigit hdigit
      exact ⟨hcaseless.sigma, hcaseless.lower⟩
    · decide
  · decide

theorem Holds.lowerAfter {qs : List (List Char)} {t : List Char} (h : Holds qs t)
    (before : List Char) : Holds qs (lowerAfter before t) := by
  induction h generalizing before with
  | nil => exact .nil
  | @char c qs t hc _ ih =>
      rw [Text.lowerAfter]
      refine (holds_of_notMem ?_).append (ih (c :: before))
      split
      · rw [List.mem_singleton]
        unfold lowerSigma
        split <;> decide
      · exact escape_notMem_image lowerTable_mem hc
  | sequence hq _ ih =>
      rw [hq.lowerAfter_append]
      exact .sequence hq (ih _)

/-! ## Sequences in title case -/

/-- Parameters and the letter behind them, which does not start a word. -/
theorem Parameters.titleFrom_append {s : List Char} (hs : Parameters s) (atStart : Bool)
    (t : List Char) :
    titleFrom atStart (s ++ 'm' :: t) = s ++ 'm' :: titleFrom false t := by
  have hdigit : ∀ {c : Char}, isAsciiDigit c = true → ∀ (atStart : Bool) (rest : List Char),
      titleFrom atStart (c :: rest) = c :: titleFrom false rest := by
    intro c hc atStart rest
    have hword : (!(isAlphanumeric c || c == '_')) = false := by
      rw [isAlphanumeric_of_isAsciiDigit hc]
      rfl
    rw [titleFrom, hword, (caseless_of_isAsciiDigit hc).upper]
    cases atStart <;> rfl
  induction hs generalizing atStart with
  | single hc =>
      rw [List.singleton_append, hdigit hc]
      rfl
  | digit hc _ ih => rw [List.cons_append, hdigit hc, ih]; rfl
  | @next c s hc _ ih =>
      have hsemicolon : ∀ rest, titleFrom false (';' :: rest) = ';' :: titleFrom true rest :=
        fun _ => rfl
      rw [List.cons_append, hdigit hc, List.cons_append, hsemicolon, ih]
      rfl

theorem IsSequence.titleFrom_append {q : List Char} (hq : IsSequence q) (atStart : Bool)
    (t : List Char) : titleFrom atStart (q ++ t) = q ++ titleFrom false t := by
  obtain ⟨s, hs, rfl⟩ := hq
  have hhead : ∀ rest, titleFrom atStart (escape :: '[' :: rest) =
      escape :: '[' :: titleFrom true rest := by
    intro rest
    cases atStart <;> rfl
  rw [List.cons_append, List.cons_append, List.append_assoc, List.singleton_append, hhead,
    hs.titleFrom_append]
  simp

theorem Holds.titleFrom {qs : List (List Char)} {t : List Char} (h : Holds qs t)
    (atStart : Bool) : Holds qs (titleFrom atStart t) := by
  induction h generalizing atStart with
  | nil => exact .nil
  | char hc _ ih =>
      rw [Text.titleFrom]
      refine (holds_of_notMem ?_).append (ih _)
      split
      · exact escape_notMem_image upperTable_mem hc
      · exact fun hmem => hc (List.mem_singleton.mp hmem).symm
  | sequence hq _ ih =>
      rw [hq.titleFrom_append]
      exact .sequence hq (ih false)

/-- Every letter case but the upper one leaves sequences as they are. -/
theorem Holds.apply {qs : List (List Char)} {t : List Char} (h : Holds qs t)
    {transform : Template.Transform} (htransform : transform = .upper → escape ∉ t) :
    Holds qs (transform.apply t) := by
  cases transform with
  | none => exact h
  | upper =>
      have hnone := htransform rfl
      cases qs with
      | nil => exact holds_of_notMem (escape_notMem_upper hnone)
      | cons q qs => exact absurd h.escape_mem hnone
  | lower => exact h.lowerAfter []
  | title => exact h.titleFrom true

end Hooklog.Sgr
