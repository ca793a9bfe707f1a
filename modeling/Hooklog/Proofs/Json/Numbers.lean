import Hooklog.Json.Number
import Hooklog.Proofs.Decimal.Integer
import Hooklog.Proofs.Text.Words

/-!
# Integers in JSON text

What is written of an integer of 64 bits is read as that integer, and never as a float: its digits
fit into 64 bits, and neither a point nor an exponent follows them.

* `EndsNumber` says which texts may stand behind a number.
* `takeNumber?_integerText` reads the parts of any integer, however large.
* `number_writtenInteger` is the value of these parts within the bounds of 64 bits with a sign.
-/

namespace Hooklog

open Decimal

/-! ## Digits -/

namespace Decimal

theorem exists_digitsOf_cons (n : Nat) :
    ∃ d ds, digitsOf n = d :: ds ∧ Text.isAsciiDigit d = true := by
  rcases hdigits : digitsOf n with _ | ⟨d, ds⟩
  · exact absurd hdigits (digitsOf_ne_nil n)
  · have hmem : d ∈ digitsOf n := by simp [hdigits]
    exact ⟨d, ds, rfl, isAsciiDigit_of_mem_digitsOf hmem⟩

theorem eq_zero_of_head?_digitsOf (n : Nat) (h : (digitsOf n).head? = some '0') : n = 0 := by
  induction n using Nat.strongRecOn with
  | ind n ih =>
      rcases Nat.lt_or_ge n 10 with hsmall | hlarge
      · rw [digitsOf, Nat.toDigits_of_lt_base hsmall] at h
        have hall : ∀ m < 10, Nat.digitChar m = '0' → m = 0 := by decide
        exact hall n hsmall (Option.some.inj h)
      · -- the first digit is that of a tenth of the number, which is not zero
        have hsplit : digitsOf n = digitsOf (n / 10) ++ [Nat.digitChar (n % 10)] :=
          Nat.toDigits_of_base_le (by decide) hlarge
        obtain ⟨d, ds, hdigits, -⟩ := exists_digitsOf_cons (n / 10)
        rw [hsplit, hdigits] at h
        have hzero := ih (n / 10) (by omega) (by rw [hdigits]; exact h)
        omega

/-- Only zero itself is written with the digit zero in front. -/
theorem digitsOf_ne_leadingZero (n : Nat) (d : Char) (ds : List Char) :
    digitsOf n ≠ '0' :: d :: ds := by
  intro h
  have hzero : n = 0 := eq_zero_of_head?_digitsOf n (by rw [h]; rfl)
  subst hzero
  exact absurd (congrArg List.length h) (by simp [digitsOf])

theorem le_digitsValue (n : Nat) (ds : List Char) : n ≤ digitsValue n ds := by
  induction ds generalizing n with
  | nil => exact Nat.le_refl n
  | cons c ds ih =>
      have hnext := ih (10 * n + digitValue c)
      show n ≤ digitsValue (10 * n + digitValue c) ds
      omega

theorem digitsValue_digitsOf (n : Nat) : digitsValue 0 (digitsOf n) = n :=
  Nat.ofDigitChars_ten_toDigits

end Decimal

namespace Json

/-- Whether a character continues a number: a digit, the point or the mark of an exponent. -/
def continuesNumber (c : Char) : Bool :=
  Text.isAsciiDigit c || c = '.' || c = 'e' || c = 'E'

/-- A text that no number before it runs into. -/
def EndsNumber (rest : List Char) : Prop :=
  ∀ c, rest.head? = some c → continuesNumber c = false

theorem endsNumber_cons {c : Char} (h : continuesNumber c = false) (rest : List Char) :
    EndsNumber (c :: rest) := by
  intro d hd
  rw [List.head?_cons, Option.some.injEq] at hd
  rw [← hd]
  exact h

/-! ## Parts of a number -/

section Parts

variable {n : Nat} {rest : List Char} (h : EndsNumber rest)

include h

/-- The digits of a number end where the number ends. -/
theorem takeDigits?_digitsOf : takeDigits? (digitsOf n ++ rest) = some (digitsOf n, rest) := by
  have hdigits : ∀ c ∈ digitsOf n, Text.isAsciiDigit c = true := fun c hc =>
    isAsciiDigit_of_mem_digitsOf hc
  have hstop : ∀ c, rest.head? = some c → Text.isAsciiDigit c = false := by
    intro c hc
    have hends := h c hc
    simp only [continuesNumber, Bool.or_eq_false_iff] at hends
    exact hends.1.1.1
  rw [takeDigits?, Text.takeWhile_append_stop hdigits hstop,
    Text.dropWhile_append_stop hdigits hstop]
  exact if_neg (digitsOf_ne_nil n)

theorem takeWhole?_digitsOf : takeWhole? (digitsOf n ++ rest) = some (digitsOf n, rest) := by
  rw [takeWhole?, takeDigits?_digitsOf h]
  split
  · rename_i d ds tail heq
    have hpair : digitsOf n = '0' :: d :: ds := congrArg Prod.fst (Option.some.inj heq)
    exact absurd hpair (digitsOf_ne_leadingZero n d ds)
  · rfl

/-- Neither a fraction nor an exponent is read where a number ends. -/
theorem takeFraction?_of_ends : takeFraction? rest = some (none, rest) := by
  unfold takeFraction?
  split
  · rename_i s
    exact absurd (h '.' rfl) (by decide)
  · rfl

theorem takeExponent?_of_ends : takeExponent? rest = some (none, rest) := by
  rcases rest with _ | ⟨c, rest⟩
  · rfl
  · have hends := h c rfl
    simp only [continuesNumber, Bool.or_eq_false_iff, decide_eq_false_iff_not] at hends
    unfold takeExponent?
    exact if_neg (not_or.mpr ⟨hends.1.2, hends.2⟩)

theorem takeUnsigned?_digitsOf (negative : Bool) :
    takeUnsigned? negative (digitsOf n ++ rest) =
      some (⟨negative, digitsOf n, none, none⟩, rest) := by
  rw [takeUnsigned?, takeWhole?_digitsOf h]
  simp only [takeFraction?_of_ends h, takeExponent?_of_ends h]

end Parts

/-- Parts of an integer as it is written. -/
def writtenInteger (n : Int) : Written := ⟨decide (n < 0), digitsOf n.natAbs, none, none⟩

/-- A written integer is read whole, up to the text behind it. -/
theorem takeNumber?_integerText (n : Int) {rest : List Char} (h : EndsNumber rest) :
    takeNumber? ((integerText n).toList ++ rest) = some (writtenInteger n, rest) := by
  rw [toList_integerText]
  by_cases hn : n < 0
  · rw [if_pos hn, List.cons_append, takeNumber?, takeUnsigned?_digitsOf h, writtenInteger,
      decide_eq_true hn]
  · rw [if_neg hn, writtenInteger, decide_eq_false hn, ← takeUnsigned?_digitsOf h]
    obtain ⟨d, ds, hdigits, hd⟩ := exists_digitsOf_cons n.natAbs
    unfold takeNumber?
    split
    · -- no digit is a minus sign
      rename_i s heq
      rw [hdigits, List.cons_append] at heq
      rw [(List.cons.inj heq).1] at hd
      exact absurd hd (by decide)
    · rfl

/-! ## Value of a number -/

/-- Digits that stand for no more than 64 bits are all collected. -/
theorem collectWhole_of_le {n : Nat} {ds : List Char} (h : digitsValue n ds ≤ largest) :
    collectWhole n ds = (⟨digitsValue n ds, 0⟩, false) := by
  induction ds generalizing n with
  | nil => rfl
  | cons c ds ih =>
      have hnext : 10 * n + digitValue c ≤ largest := Nat.le_trans (le_digitsValue _ ds) h
      rw [collectWhole, if_pos hnext]
      exact ih h

theorem signed64_holds_iff {n : Int} :
    signed64.holds n = true ↔ -9223372036854775808 ≤ n ∧ n ≤ 9223372036854775807 := by
  have hlow : signed64.low = -9223372036854775808 := by decide
  have hhigh : signed64.high = 9223372036854775807 := by decide
  simp only [Bounds.holds, hlow, hhigh, Bool.and_eq_true, decide_eq_true_eq]

/-- An integer of 64 bits stays an integer, with the sign that it was written with. -/
theorem number_writtenInteger {n : Int} (h : signed64.holds n = true) :
    (writtenInteger n).number = if n < 0 then .negative n else .natural n.toNat := by
  have hbounds := signed64_holds_iff.mp h
  have hlargest : largest = 2 ^ 64 - 1 := by decide
  have hcollect : collectWhole 0 (digitsOf n.natAbs) = (⟨n.natAbs, 0⟩, false) := by
    have hvalue := digitsValue_digitsOf n.natAbs
    have hle : digitsValue 0 (digitsOf n.natAbs) ≤ largest := by omega
    rw [collectWhole_of_le hle, hvalue]
  unfold writtenInteger Written.number
  simp only [hcollect]
  by_cases hn : n < 0
  · have hlimit : n.natAbs ≤ Nat.pow 2 63 := by
      have hpow : Nat.pow 2 63 = 2 ^ 63 := rfl
      omega
    have hpos : 0 < n.natAbs := by omega
    have hneg : -(n.natAbs : Int) = n := by omega
    have hbits : (decide (0 < n.natAbs) && decide (n.natAbs ≤ Nat.pow 2 63)) = true := by
      rw [decide_eq_true hpos, decide_eq_true hlimit]
      rfl
    rw [if_neg Bool.false_ne_true, if_neg (by simp [hn]), if_pos hbits, if_pos hn, hneg]
  · have habs : n.natAbs = n.toNat := by omega
    rw [if_neg Bool.false_ne_true, if_pos (by simp [hn]), if_neg hn, habs]

end Json

end Hooklog
