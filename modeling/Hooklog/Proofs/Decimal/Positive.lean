import Hooklog.Proofs.Decimal.Whole
import Mathlib.Data.List.TakeWhile

/-!
# Positive numbers in running text

A number that is not zero is never written as zero: the interval of reals that read back as it
lies above zero, and so do the decimals found in it.  Quotients of which the denominator is at
most the numerator are such numbers, finite and without sign, as long as they are not too large
for the format.

* `Binary64.IsNormal` is a positive number with a full mantissa.
* `isNormal_ofQuotient` and `isNormal_div` say which quotients are such numbers.
* `plainText_of_isNormal` gives the text of such a number, `positionalText_ne_zero` tells it from
  zero and `isNumberChar_of_mem_positionalText` names its characters.
-/

namespace Hooklog

open Decimal

/-- A finite number without sign whose exponent field is not the least one. -/
structure Binary64.IsNormal (x : Binary64) : Prop where
  pos : 0 < x.exponentField
  lt : x.exponentField < 2047
  sign : x.isNegative = false

namespace Decimal

/-! ## Digits -/

theorem value_stripZeros_pos (fuel : Nat) {d : Digits} (h : 0 < d.value) :
    0 < (stripZeros fuel d).value := by
  induction fuel generalizing d with
  | zero => exact h
  | succ fuel ih =>
      unfold stripZeros
      split
      · rename_i hzero
        rw [Bool.and_eq_true, decide_eq_true_eq, decide_eq_true_eq] at hzero
        exact ih (by dsimp only; omega)
      · exact h

namespace Interval

variable {i : Interval}

theorem low_inUnits_pos (h : 0 < i.low) (e : Int) : 0 < (i.inUnits e).low := by
  unfold inUnits
  split
  · exact h
  · exact Nat.mul_pos h (Nat.pow_pos (by decide))

theorem pos_of_holds (h : 0 < i.low) {c : Nat} (hc : i.holds c = true) : 0 < c := by
  rcases Nat.eq_zero_or_pos c with rfl | hpos
  · exfalso
    unfold holds at hc
    dsimp only at hc
    rw [Nat.zero_mul] at hc
    split at hc
    · rw [Bool.and_eq_true, decide_eq_true_eq] at hc
      omega
    · rw [Bool.and_eq_true, decide_eq_true_eq] at hc
      omega
  · exact hpos

end Interval

section Normal

variable {x : Binary64} (h : x.IsNormal)

include h

theorem mantissa_pos : 0 < x.mantissa := by
  rw [Binary64.mantissa, if_neg (Nat.ne_of_gt h.pos)]
  exact Nat.lt_of_lt_of_le (Nat.pow_pos (by decide)) (Nat.le_add_left _ _)

/-- All reals that read back as a positive number are positive. -/
theorem low_interval_pos : 0 < (Interval.of x).low := by
  have hmantissa := mantissa_pos h
  unfold Interval.of
  dsimp only
  refine Nat.mul_pos ?_ ?_
  · split <;> omega
  · split
    · exact Nat.pow_pos (by decide)
    · exact Nat.one_pos

theorem value_shortest_pos (tie : Tie) : 0 < (shortest tie x).value := by
  unfold shortest
  dsimp only
  refine value_stripZeros_pos 20 ?_
  generalize hfound : List.findSome? _ (List.range 17) = found
  cases found with
  | none => exact mantissa_pos h
  | some d =>
      obtain ⟨n, -, hn⟩ := List.exists_of_findSome?_eq_some hfound
      obtain ⟨c, hc, rfl⟩ := Option.map_eq_some_iff.mp hn
      exact Interval.pos_of_holds (Interval.low_inUnits_pos (low_interval_pos h) _)
        (Interval.holds_of_candidate? hc)

/-- The text of a positive number is that of its shortest digits. -/
theorem plainText_of_isNormal :
    plainText x = String.ofList (plain.positionalText (shortest .up x)) := by
  have hfinite : x.isFinite = true := decide_eq_true (Nat.ne_of_lt h.lt)
  have hnumber : x.isNaN = false := by
    rw [Binary64.isNaN, decide_eq_false (Nat.ne_of_lt h.lt), Bool.false_and]
  have hzero : x.isZero = false := by
    rw [Binary64.isZero, decide_eq_false (Nat.ne_of_gt h.pos), Bool.false_and]
  rw [plainText, hnumber, if_neg Bool.false_ne_true, hfinite, if_pos rfl, Layout.text, h.sign,
    if_neg Bool.false_ne_true, hzero, if_neg Bool.false_ne_true]
  rfl

end Normal

/-! ## Text -/

/-- Character of a number without exponent and sign. -/
def isNumberChar (c : Char) : Bool := Text.isAsciiDigit c || c = '.'

theorem isNumberChar_of_mem_digitsOf {n : Nat} {c : Char} (h : c ∈ digitsOf n) :
    isNumberChar c = true := by
  rw [isNumberChar, isAsciiDigit_of_mem_digitsOf h, Bool.true_or]

theorem isNumberChar_of_mem_positionalText {d : Digits} {c : Char}
    (h : c ∈ plain.positionalText d) : isNumberChar c = true := by
  have hzero : ∀ n, c ∈ List.replicate n '0' → isNumberChar c = true := by
    intro n hc
    rw [List.eq_of_mem_replicate hc]
    decide
  have hpoint : plain.wholePoint = false := rfl
  unfold Layout.positionalText at h
  dsimp only at h
  rw [hpoint, if_neg Bool.false_ne_true, List.append_nil] at h
  split at h
  · rcases List.mem_append.mp h with h | h
    · exact isNumberChar_of_mem_digitsOf h
    · exact hzero _ h
  · split at h
    · rcases List.mem_append.mp h with h | h
      · exact isNumberChar_of_mem_digitsOf (List.mem_of_mem_take h)
      · rcases List.mem_cons.mp h with rfl | h
        · decide
        · exact isNumberChar_of_mem_digitsOf (List.mem_of_mem_drop h)
    · rcases List.mem_append.mp h with h | h
      · rcases List.mem_append.mp h with h | h
        · simp only [List.mem_cons, List.not_mem_nil, or_false] at h
          rcases h with rfl | rfl <;> decide
        · exact hzero _ h
      · exact isNumberChar_of_mem_digitsOf h

theorem positionalText_ne_nil (d : Digits) : plain.positionalText d ≠ [] := by
  have hdigits := digitsOf_ne_nil d.value
  have hpoint : plain.wholePoint = false := rfl
  unfold Layout.positionalText
  dsimp only
  split
  · simp [hdigits]
  · split <;> simp

theorem digitsOf_ne_zero {n : Nat} (h : 0 < n) : digitsOf n ≠ ['0'] := by
  intro heq
  have hread := readNatural?_digitsOf n
  rw [heq] at hread
  exact Nat.ne_of_lt h (Option.some.inj hread)

/-- Digits that stand for something are not written as zero. -/
theorem positionalText_ne_zero {d : Digits} (h : 0 < d.value) :
    plain.positionalText d ≠ ['0'] := by
  have hdigits := digitsOf_ne_nil d.value
  have hpoint : plain.wholePoint = false := rfl
  unfold Layout.positionalText
  dsimp only
  rw [hpoint, if_neg Bool.false_ne_true, List.append_nil]
  split
  · intro heq
    rcases List.append_eq_singleton_iff.mp heq with ⟨hnil, -⟩ | ⟨hzero, -⟩
    · exact hdigits hnil
    · exact digitsOf_ne_zero h hzero
  · -- a number with a fraction has a point
    split
    · rw [ne_eq, List.append_eq_singleton_iff]
      simp
    · simp

/-! ## Quotients -/

theorem scaleByTwo_bounds {num den : Nat} {e : Int} (hden : 0 < den) (hle : den ≤ num)
    (hlow : (num.log2 : Int) - (den.log2 : Int) - 53 ≤ e)
    (hhigh : e ≤ (num.log2 : Int) - (den.log2 : Int) - 52) :
    1 ≤ (scaleByTwo num den e).1 / (scaleByTwo num den e).2 ∧
      (scaleByTwo num den e).1 / (scaleByTwo num den e).2 < 2 ^ 54 := by
  have hnum : num ≠ 0 := Nat.ne_of_gt (Nat.lt_of_lt_of_le hden hle)
  have hnumLow := Nat.log2_self_le hnum
  have hnumHigh := Nat.lt_log2_self (n := num)
  have hdenLow := Nat.log2_self_le (Nat.ne_of_gt hden)
  have hdenHigh := Nat.lt_log2_self (n := den)
  unfold scaleByTwo
  split
  · rename_i he
    obtain ⟨k, rfl⟩ := Int.eq_ofNat_of_zero_le he
    rw [Int.toNat_natCast]
    show 1 ≤ num / (den * 2 ^ k) ∧ num / (den * 2 ^ k) < 2 ^ 54
    have hpow := Nat.two_pow_pos k
    constructor
    · rw [Nat.le_div_iff_mul_le (Nat.mul_pos hden hpow), Nat.one_mul]
      calc den * 2 ^ k ≤ 2 ^ (den.log2 + 1) * 2 ^ k := Nat.mul_le_mul_right _ (Nat.le_of_lt hdenHigh)
        _ = 2 ^ (den.log2 + 1 + k) := (Nat.pow_add 2 _ k).symm
        _ ≤ 2 ^ num.log2 := Nat.pow_le_pow_right (by decide) (by omega)
        _ ≤ num := hnumLow
    · rw [Nat.div_lt_iff_lt_mul (Nat.mul_pos hden hpow)]
      calc num < 2 ^ (num.log2 + 1) := hnumHigh
        _ ≤ 2 ^ (54 + (den.log2 + k)) := Nat.pow_le_pow_right (by decide) (by omega)
        _ = 2 ^ 54 * (2 ^ den.log2 * 2 ^ k) := by rw [Nat.pow_add, Nat.pow_add 2 den.log2]
        _ ≤ 2 ^ 54 * (den * 2 ^ k) :=
          Nat.mul_le_mul_left _ (Nat.mul_le_mul_right _ hdenLow)
  · rename_i he
    obtain ⟨k, hk⟩ := Int.eq_ofNat_of_zero_le (a := -e) (by omega)
    rw [hk, Int.toNat_natCast]
    show 1 ≤ num * 2 ^ k / den ∧ num * 2 ^ k / den < 2 ^ 54
    have hpow := Nat.two_pow_pos k
    constructor
    · rw [Nat.le_div_iff_mul_le hden, Nat.one_mul]
      exact Nat.le_trans hle (Nat.le_mul_of_pos_right num hpow)
    · rw [Nat.div_lt_iff_lt_mul hden]
      calc num * 2 ^ k < 2 ^ (num.log2 + 1) * 2 ^ k := (Nat.mul_lt_mul_right hpow).mpr hnumHigh
        _ = 2 ^ (num.log2 + 1 + k) := (Nat.pow_add 2 _ k).symm
        _ ≤ 2 ^ (54 + den.log2) := Nat.pow_le_pow_right (by decide) (by omega)
        _ = 2 ^ 54 * 2 ^ den.log2 := Nat.pow_add 2 54 _
        _ ≤ 2 ^ 54 * den := Nat.mul_le_mul_left _ hdenLow

theorem divNearestEven_bounds (num den : Nat) :
    num / den ≤ divNearestEven num den ∧ divNearestEven num den ≤ num / den + 1 := by
  unfold divNearestEven
  dsimp only
  split
  · omega
  · split
    · omega
    · split <;> omega

theorem nearest_bounds {num den : Nat} (hden : 0 < den) (hle : den ≤ num)
    (hnum : num.log2 < 200) :
    ∃ m e, Format.double.nearest num den = .finite m e ∧ m ≤ 2 ^ 54 ∧ -53 ≤ e ∧ e ≤ 200 := by
  have hprecision : Format.double.precision = 53 := rfl
  have hmin : Format.double.minExponent = -1074 := rfl
  have hmax : Format.double.maxExponent = 1024 := rfl
  have hnonzero : num ≠ 0 := Nat.ne_of_gt (Nat.lt_of_lt_of_le hden hle)
  have hlog : den.log2 ≤ num.log2 :=
    (Nat.le_log2 hnonzero).mpr (Nat.le_trans (Nat.log2_self_le (Nat.ne_of_gt hden)) hle)
  have hexponent : (num.log2 : Int) - (den.log2 : Int) - 53 ≤ Format.double.exponentOf num den ∧
      Format.double.exponentOf num den ≤ (num.log2 : Int) - (den.log2 : Int) - 52 := by
    unfold Format.exponentOf
    dsimp only
    rw [hprecision, hmin]
    split <;> omega
  have hscaled := scaleByTwo_bounds hden hle hexponent.1 hexponent.2
  have hdiv := divNearestEven_bounds (scaleByTwo num den (Format.double.exponentOf num den)).1
    (scaleByTwo num den (Format.double.exponentOf num den)).2
  unfold Format.nearest
  rw [if_neg hnonzero]
  dsimp only
  rw [hprecision, hmax]
  split
  · rw [if_neg (by omega)]
    exact ⟨_, _, rfl, Nat.pow_le_pow_right (by decide) (by decide), by omega, by omega⟩
  · rw [if_neg (by omega)]
    exact ⟨_, _, rfl, by omega, by omega, by omega⟩

/-- A quotient from one up is a positive number, unless it is far too large. -/
theorem isNormal_ofQuotient {num den : Nat} (hden : 0 < den) (hle : den ≤ num)
    (hnum : num.log2 < 200) : (Binary64.ofQuotient false num den).IsNormal := by
  obtain ⟨m, e, hnearest, hm, hlow, hhigh⟩ := nearest_bounds hden hle hnum
  have hbits : (Binary64.ofQuotient false num den).bits.toNat =
      (e + 1074).toNat * 2 ^ 52 + m := by
    rw [Binary64.ofQuotient, hnearest, Binary64.ofMagnitude, Binary64.signBits,
      if_neg Bool.false_ne_true, Nat.zero_add]
    refine UInt64.toNat_ofNat_of_lt' ?_
    have hsize : UInt64.size = 2 ^ 64 := rfl
    have hpow : Nat.pow 2 52 = 2 ^ 52 := rfl
    rw [hsize, hpow]
    omega
  constructor
  · show 0 < (Binary64.ofQuotient false num den).bits.toNat / 2 ^ 52 % 2 ^ 11
    omega
  · show (Binary64.ofQuotient false num den).bits.toNat / 2 ^ 52 % 2 ^ 11 < 2047
    omega
  · refine decide_eq_false ?_
    show ¬(2 ^ 63 ≤ (Binary64.ofQuotient false num den).bits.toNat)
    omega

theorem isNormal_ofInt {n : Nat} (hpos : 0 < n) (hlt : n < 2 ^ 64) :
    (Binary64.ofInt n).IsNormal := by
  have hlog : n.log2 < 64 := (Nat.log2_lt (Nat.ne_of_gt hpos)).mpr hlt
  have hsign : decide ((n : Int) < 0) = false := decide_eq_false (by omega)
  rw [Binary64.ofInt, Int.natAbs_natCast, hsign]
  exact isNormal_ofQuotient Nat.one_pos hpos (by omega)

/-- One whole number divided by another that is not greater. -/
theorem isNormal_div {a b : Nat} (ha : Holdable a) (hb : Holdable b) (hle : b ≤ a) :
    ((Binary64.ofInt a).div (Binary64.ofInt b)).IsNormal := by
  have hsign : ((Binary64.ofInt a).isNegative != (Binary64.ofInt b).isNegative) = false := by
    rw [ha.fields_ofInt.2.2, hb.fields_ofInt.2.2]
    rfl
  have hshift : shiftOf a ≤ 52 ∧ shiftOf b ≤ 52 := ⟨Nat.sub_le 52 _, Nat.sub_le 52 _⟩
  rw [Binary64.div, quotient_ofInt ha, quotient_ofInt hb, hsign]
  dsimp only
  refine isNormal_ofQuotient (Nat.mul_pos (Nat.two_pow_pos _) ?_) ?_ ?_
  · exact Nat.mul_pos hb.pos (Nat.two_pow_pos _)
  · calc 2 ^ shiftOf a * (b * 2 ^ shiftOf b) = b * (2 ^ shiftOf a * 2 ^ shiftOf b) :=
          Nat.mul_left_comm _ _ _
      _ ≤ a * (2 ^ shiftOf a * 2 ^ shiftOf b) := Nat.mul_le_mul_right _ hle
      _ = a * 2 ^ shiftOf a * 2 ^ shiftOf b := (Nat.mul_assoc _ _ _).symm
  · have hpos : a * 2 ^ shiftOf a * 2 ^ shiftOf b ≠ 0 := Nat.ne_of_gt
      (Nat.mul_pos (Nat.mul_pos ha.pos (Nat.two_pow_pos _)) (Nat.two_pow_pos _))
    rw [Nat.log2_lt hpos]
    calc a * 2 ^ shiftOf a * 2 ^ shiftOf b < 2 ^ 53 * 2 ^ shiftOf b :=
          (Nat.mul_lt_mul_right (Nat.two_pow_pos _)).mpr ha.shifted_bounds.2
      _ = 2 ^ (53 + shiftOf b) := (Nat.pow_add 2 53 _).symm
      _ ≤ 2 ^ 200 := Nat.pow_le_pow_right (by decide) (by omega)

end Decimal
end Hooklog
