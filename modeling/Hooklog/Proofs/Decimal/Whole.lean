import Mathlib.Algebra.Group.Nat.Defs
import Hooklog.Decimal.Layout
import Hooklog.Proofs.Decimal.Integer

/-!
# Whole numbers in floating point

A positive whole number below `2 ^ 53` is a double precision number itself, and no other whole
number lies in the interval that reads back as it.  So its shortest digits are its own ones,
trailing zeros apart, and in running text it is written like any natural number.
-/

namespace Hooklog.Decimal

/-! ## The nearest double -/

/-- Places by which a whole number is shifted to fill a mantissa. -/
def shiftOf (n : Nat) : Nat := 52 - n.log2

/-- A whole number that a mantissa can hold. -/
structure Holdable (n : Nat) : Prop where
  pos : 0 < n
  lt : n < 2 ^ 53

theorem scaleByTwo_neg (n k : Nat) : scaleByTwo n 1 (-(k : Int)) = (n * 2 ^ k, 1) := by
  unfold scaleByTwo
  cases k with
  | zero => simp
  | succ k =>
      rw [if_neg (by omega), Int.neg_neg, Int.toNat_natCast]
      rfl

namespace Holdable

variable {n : Nat} (h : Holdable n)

include h

theorem log2_lt : n.log2 < 53 := (Nat.log2_lt (Nat.ne_of_gt h.pos)).mpr h.lt

/-- The shifted number fills the mantissa. -/
theorem shifted_bounds : 2 ^ 52 ≤ n * 2 ^ shiftOf n ∧ n * 2 ^ shiftOf n < 2 ^ 53 := by
  have hlog := h.log2_lt
  have hlow := Nat.mul_le_mul_right (2 ^ shiftOf n) (Nat.log2_self_le (Nat.ne_of_gt h.pos))
  have hhigh := (Nat.mul_lt_mul_right (Nat.two_pow_pos (shiftOf n))).mpr (Nat.lt_log2_self (n := n))
  have hsum : n.log2 + shiftOf n = 52 := by
    unfold shiftOf
    omega
  rw [← Nat.pow_add, hsum] at hlow
  rw [← Nat.pow_add, Nat.add_right_comm, hsum] at hhigh
  exact ⟨hlow, hhigh⟩

theorem exponentOf_eq : Format.double.exponentOf n 1 = -(shiftOf n : Int) := by
  have hlog := h.log2_lt
  have hguess : (n.log2 : Int) - ((1 : Nat).log2 : Int) - (Format.double.precision : Int) =
      -((shiftOf n + 1 : Nat) : Int) := by
    have hone : (1 : Nat).log2 = 0 := by decide
    have hprecision : Format.double.precision = 53 := rfl
    rw [hone, hprecision]
    unfold shiftOf
    omega
  have hfull : ¬(n * 2 ^ (shiftOf n + 1) / 1 < Nat.pow 2 Format.double.precision) := by
    have hbounds := h.shifted_bounds
    have hpow : n * 2 ^ (shiftOf n + 1) = n * 2 ^ shiftOf n * 2 := by
      rw [Nat.pow_succ, Nat.mul_assoc]
    have hprecision : Nat.pow 2 Format.double.precision = 2 ^ 53 := rfl
    rw [Nat.div_one, hpow, hprecision]
    omega
  unfold Format.exponentOf
  dsimp only
  rw [hguess, scaleByTwo_neg, if_neg hfull]
  have hleast : Format.double.minExponent = -1074 := rfl
  unfold shiftOf
  omega

theorem nearest_eq :
    Format.double.nearest n 1 = .finite (n * 2 ^ shiftOf n) (-(shiftOf n : Int)) := by
  have hbounds := h.shifted_bounds
  have hexact : divNearestEven (n * 2 ^ shiftOf n) 1 = n * 2 ^ shiftOf n := by
    unfold divNearestEven
    rw [Nat.div_one, Nat.mod_one]
    rfl
  have hcarried : ¬(n * 2 ^ shiftOf n = Nat.pow 2 Format.double.precision) := by
    have hprecision : Nat.pow 2 Format.double.precision = 2 ^ 53 := rfl
    rw [hprecision]
    omega
  have hoverflow : ¬(Format.double.maxExponent <
      -(shiftOf n : Int) + (Format.double.precision : Int)) := by
    have hmax : Format.double.maxExponent = 1024 := rfl
    have hprecision : Format.double.precision = 53 := rfl
    rw [hmax, hprecision]
    omega
  unfold Format.nearest
  rw [if_neg (Nat.ne_of_gt h.pos)]
  dsimp only
  rw [h.exponentOf_eq, scaleByTwo_neg]
  dsimp only
  rw [hexact, if_neg hcarried, if_neg hcarried, if_neg hoverflow]

theorem toNat_bits_ofInt :
    (Binary64.ofInt n).bits.toNat = (1074 - shiftOf n) * 2 ^ 52 + n * 2 ^ shiftOf n := by
  have hlog := h.log2_lt
  have hbounds := h.shifted_bounds
  have hexponent : (-(shiftOf n : Int) + 1074).toNat = 1074 - shiftOf n := by omega
  have hsign : decide ((n : Int) < 0) = false := decide_eq_false (by omega)
  have hpow : Nat.pow 2 52 = 2 ^ 52 := rfl
  rw [Binary64.ofInt, Binary64.ofQuotient, Int.natAbs_natCast, h.nearest_eq, hsign,
    Binary64.ofMagnitude, hexponent, Binary64.signBits, if_neg Bool.false_ne_true, hpow,
    Nat.zero_add]
  refine UInt64.toNat_ofNat_of_lt' ?_
  have hsize : UInt64.size = 2 ^ 64 := rfl
  rw [hsize]
  unfold shiftOf at hbounds ⊢
  omega

/-- The fields of a whole number. -/
theorem fields_ofInt :
    (Binary64.ofInt n).exponentField = 1075 - shiftOf n ∧
      (Binary64.ofInt n).fractionField = n * 2 ^ shiftOf n - 2 ^ 52 ∧
      (Binary64.ofInt n).isNegative = false := by
  have hbits := h.toNat_bits_ofInt
  have hbounds := h.shifted_bounds
  have hshift : shiftOf n ≤ 52 := Nat.sub_le 52 _
  refine ⟨?_, ?_, ?_⟩
  · show (Binary64.ofInt n).bits.toNat / 2 ^ 52 % 2 ^ 11 = _
    omega
  · show (Binary64.ofInt n).bits.toNat % 2 ^ 52 = _
    omega
  · exact decide_eq_false (by
      show ¬(2 ^ 63 ≤ (Binary64.ofInt n).bits.toNat)
      omega)

theorem mantissa_ofInt : (Binary64.ofInt n).mantissa = n * 2 ^ shiftOf n := by
  obtain ⟨hexponent, hfraction, -⟩ := h.fields_ofInt
  have hbounds := h.shifted_bounds
  have hshift : shiftOf n ≤ 52 := Nat.sub_le 52 _
  have hpow : Nat.pow 2 52 = 2 ^ 52 := rfl
  rw [Binary64.mantissa, hexponent, hfraction, if_neg (by omega), hpow]
  omega

theorem exponent_ofInt : (Binary64.ofInt n).exponent = -(shiftOf n : Int) := by
  obtain ⟨hexponent, -, -⟩ := h.fields_ofInt
  have hshift : shiftOf n ≤ 52 := Nat.sub_le 52 _
  rw [Binary64.exponent, hexponent, if_neg (by omega)]
  omega

end Holdable

/-! ## The interval that reads back as a whole number -/

/-- An interval around a whole number that no other one lies in. -/
structure Interval.Isolates (i : Interval) (n : Nat) : Prop where
  mid : i.mid = n * i.denominator
  low : i.low < i.mid
  high : i.mid < i.high
  near_low : i.mid < i.low + i.denominator
  near_high : i.high < i.mid + i.denominator

theorem Holdable.isolates {n : Nat} (h : Holdable n) :
    (Interval.of (Binary64.ofInt n)).Isolates n := by
  have hmantissa := h.mantissa_ofInt
  have hexponent := h.exponent_ofInt
  have hbounds := h.shifted_bounds
  have hscale : (if 0 ≤ (Binary64.ofInt n).exponent then
      Nat.pow 2 (Binary64.ofInt n).exponent.toNat else 1) = 1 := by
    rw [hexponent]
    split
    · have hzero : (-(shiftOf n : Int)).toNat = 0 := by omega
      exact congrArg (Nat.pow 2) hzero
    · rfl
  have hdenominator : (if 0 ≤ (Binary64.ofInt n).exponent then 4 else
      4 * Nat.pow 2 (-(Binary64.ofInt n).exponent).toNat) = 4 * 2 ^ shiftOf n := by
    rw [hexponent, Int.neg_neg, Int.toNat_natCast]
    split
    · have hzero : shiftOf n = 0 := by omega
      exact congrArg (fun k => 4 * 2 ^ k) hzero.symm
    · rfl
  have hpow := Nat.two_pow_pos (shiftOf n)
  unfold Interval.of
  dsimp only
  rw [hscale, hdenominator, hmantissa]
  constructor <;> dsimp only
  case mid => rw [Nat.mul_one, Nat.mul_left_comm]
  case low => split <;> omega
  case high => omega
  case near_low => split <;> omega
  case near_high => omega

namespace Interval

variable {i : Interval} {n : Nat}

theorem Isolates.mid_inUnits (h : i.Isolates n) (j : Nat) :
    (i.inUnits j).mid = n * i.denominator ∧
      (i.inUnits j).denominator = i.denominator * 10 ^ j := by
  rw [inUnits, if_pos (by omega), Int.toNat_natCast]
  exact ⟨h.mid, rfl⟩

/-- A power of ten has a multiple in the interval only if the whole number is one. -/
theorem Isolates.holds_inUnits (h : i.Isolates n) (j c : Nat) :
    (i.inUnits j).holds c = true ↔ c * 10 ^ j = n := by
  have hproduct : c * (i.denominator * 10 ^ j) = c * 10 ^ j * i.denominator := by
    rw [Nat.mul_comm i.denominator, Nat.mul_assoc]
  have hholds : (i.inUnits j).holds c = true ↔
      if i.closed then i.low ≤ c * 10 ^ j * i.denominator ∧ c * 10 ^ j * i.denominator ≤ i.high
      else i.low < c * 10 ^ j * i.denominator ∧ c * 10 ^ j * i.denominator < i.high := by
    rw [inUnits, if_pos (by omega), Int.toNat_natCast, holds]
    dsimp only
    rw [show Nat.pow 10 j = 10 ^ j from rfl, hproduct]
    cases i.closed <;> simp
  have hmid := h.mid
  have hlow := h.low
  have hhigh := h.high
  have hnear := h.near_low
  have hnear' := h.near_high
  rw [hholds]
  constructor
  · intro hbounds
    have hwithin : i.low ≤ c * 10 ^ j * i.denominator ∧ c * 10 ^ j * i.denominator ≤ i.high := by
      split at hbounds <;> omega
    -- two multiples of the denominator that are less than it apart
    rcases Nat.lt_trichotomy (c * 10 ^ j) n with hlt | heq | hgt
    · have hgap := Nat.mul_le_mul_right i.denominator hlt
      rw [Nat.succ_mul] at hgap
      omega
    · exact heq
    · have hgap := Nat.mul_le_mul_right i.denominator hgt
      rw [Nat.succ_mul] at hgap
      omega
  · rintro rfl
    split <;> omega

theorem holds_of_candidate? {tie : Tie} {c : Nat} (h : i.candidate? tie = some c) :
    i.holds c = true := by
  unfold candidate? at h
  dsimp only at h
  split at h
  · exact absurd h.symm (Option.some_ne_none c)
  · rename_i hbelow _
    exact Option.some.inj h ▸ hbelow
  · rename_i _ habove
    exact Option.some.inj h ▸ habove
  · rename_i hbelow habove
    split at h
    · exact Option.some.inj h ▸ hbelow
    · split at h
      · exact Option.some.inj h ▸ habove
      · split at h
        · exact Option.some.inj h ▸ hbelow
        · exact Option.some.inj h ▸ habove

theorem candidate?_ne_none {tie : Tie} (h : i.holds (i.mid / i.denominator) = true) :
    i.candidate? tie ≠ none := by
  unfold candidate?
  dsimp only
  rw [h]
  split
  · rename_i hbelow _
    exact absurd hbelow (by decide)
  · exact Option.some_ne_none _
  · exact Option.some_ne_none _
  · split
    · exact Option.some_ne_none _
    · split
      · exact Option.some_ne_none _
      · split <;> exact Option.some_ne_none _

end Interval

/-! ## Shortest digits -/

/-- Digits that stand for a whole number. -/
structure Digits.Stands (d : Digits) (n : Nat) : Prop where
  nonneg : 0 ≤ d.exponent
  value : d.value * 10 ^ d.exponent.toNat = n

theorem Digits.Stands.stripZeros {d : Digits} {n : Nat} (h : d.Stands n) (fuel : Nat) :
    (stripZeros fuel d).Stands n := by
  induction fuel generalizing d with
  | zero => exact h
  | succ fuel ih =>
      unfold Decimal.stripZeros
      split
      · rename_i hzero
        simp only [Bool.and_eq_true, decide_eq_true_eq] at hzero
        refine ih ⟨Int.le_add_one h.nonneg, ?_⟩
        have hexponent : (d.exponent + 1).toNat = d.exponent.toNat + 1 := by
          have := h.nonneg
          omega
        have hten : d.value / 10 * 10 = d.value :=
          Nat.div_mul_cancel (Nat.dvd_of_mod_eq_zero hzero.2)
        show d.value / 10 * 10 ^ (d.exponent + 1).toNat = n
        rw [hexponent, Nat.pow_succ', ← Nat.mul_assoc, hten, h.value]
      · exact h

/-- The first exponent tried is that of the leading digit. -/
theorem leadingExponent_whole {n d : Nat} (hn : 0 < n) (hd : 0 < d) :
    leadingExponent (n * d) d = ((digitsOf n).length : Int) - 1 := by
  rw [leadingExponent, if_pos (Nat.le_mul_of_pos_left d hn), Nat.mul_div_cancel n hd]
  rfl

/-- A search over the first numbers stops at the latest where something is found. -/
theorem exists_findSome?_range {β : Type} {f : Nat → Option β} {m k : Nat} (hk : k < m)
    (hf : f k ≠ none) :
    ∃ j b, j ≤ k ∧ f j = some b ∧ (List.range m).findSome? f = some b := by
  cases hfound : (List.range m).findSome? f with
  | none => exact absurd (List.findSome?_eq_none_iff.mp hfound k (List.mem_range.mpr hk)) hf
  | some b =>
      obtain ⟨before, j, after, hrange, hj, hbefore⟩ := List.findSome?_eq_some_iff.mp hfound
      refine ⟨j, b, ?_, hj, rfl⟩
      have hsorted : (before ++ j :: after).Pairwise (· < ·) := hrange ▸ List.pairwise_lt_range
      have hmem : k ∈ before ++ j :: after := hrange ▸ List.mem_range.mpr hk
      rcases List.mem_append.mp hmem with hmem | hmem
      · exact absurd (hbefore k hmem) hf
      · rcases List.mem_cons.mp hmem with heq | hmem
        · exact Nat.le_of_eq heq.symm
        · exact Nat.le_of_lt
            (List.rel_of_pairwise_cons (List.pairwise_append.mp hsorted).2.1 hmem)

theorem length_digitsOf_pos (n : Nat) : 0 < (digitsOf n).length :=
  List.length_pos_iff.mpr (digitsOf_ne_nil n)

/-- In units of one the middle of the interval is a candidate. -/
theorem Interval.Isolates.candidate?_ne_none {i : Interval} {n : Nat} (h : i.Isolates n)
    (tie : Tie) : (i.inUnits ((0 : Nat) : Int)).candidate? tie ≠ none := by
  have hlow := h.low
  have hnear := h.near_low
  obtain ⟨hmid, hdenominator⟩ := h.mid_inUnits 0
  refine Interval.candidate?_ne_none ((h.holds_inUnits 0 _).mpr ?_)
  rw [hmid, hdenominator, Nat.pow_zero, Nat.mul_one, Nat.mul_one,
    Nat.mul_div_cancel n (by omega)]

namespace Holdable

variable {n : Nat} (h : Holdable n)

include h

theorem length_digitsOf_le : (digitsOf n).length ≤ 16 :=
  (Nat.length_toDigits_le_iff (by decide) (by decide)).mpr
    (Nat.lt_trans h.lt (by decide))

theorem shortest_stands (tie : Tie) : (shortest tie (Binary64.ofInt n)).Stands n := by
  have hi := h.isolates
  have hlength := h.length_digitsOf_le
  have hlengthPos := length_digitsOf_pos n
  have hdenominator : 0 < (Interval.of (Binary64.ofInt n)).denominator := by
    have hlow := hi.low
    have hnear := hi.near_low
    omega
  have hlead : leadingExponent (Interval.of (Binary64.ofInt n)).mid
      (Interval.of (Binary64.ofInt n)).denominator = ((digitsOf n).length : Int) - 1 := by
    rw [hi.mid]
    exact leadingExponent_whole h.pos hdenominator
  have hexponent : ∀ k < (digitsOf n).length,
      ((digitsOf n).length : Int) - 1 - (k : Int) =
        (((digitsOf n).length - 1 - k : Nat) : Int) := by
    intro k hk
    omega
  unfold shortest
  dsimp only
  rw [hlead]
  refine Digits.Stands.stripZeros ?_ 20
  -- the search stops at the exponent zero at the latest
  obtain ⟨k, d, hk, hd, hfound⟩ := exists_findSome?_range (m := 17)
    (f := fun k => (((Interval.of (Binary64.ofInt n)).inUnits
      (((digitsOf n).length : Int) - 1 - (k : Int))).candidate? tie).map fun c =>
        (⟨c, ((digitsOf n).length : Int) - 1 - (k : Int)⟩ : Digits))
    (k := (digitsOf n).length - 1) (by omega) (by
      rw [hexponent _ (by omega), Nat.sub_self]
      exact fun hnone => hi.candidate?_ne_none tie (Option.map_eq_none_iff.mp hnone))
  rw [hexponent k (by omega)] at hd
  obtain ⟨c, hc, rfl⟩ := Option.map_eq_some_iff.mp hd
  rw [hfound]
  exact ⟨Int.natCast_nonneg _, (hi.holds_inUnits _ c).mp (Interval.holds_of_candidate? hc)⟩

end Holdable

/-! ## Text -/

/-- A whole number with zeros after its digits. -/
theorem digitsOf_mul_pow {v : Nat} (hv : 0 < v) (e : Nat) :
    digitsOf (v * 10 ^ e) = digitsOf v ++ List.replicate e '0' := by
  induction e with
  | zero => simp
  | succ e ih =>
      have hpos : 0 < v * 10 ^ e := Nat.mul_pos hv (Nat.pow_pos (by decide))
      have hten : v * 10 ^ (e + 1) = 10 * (v * 10 ^ e) + 0 := by
        rw [Nat.pow_succ, ← Nat.mul_assoc, Nat.mul_comm]
        rfl
      have happend := Nat.toDigits_append_toDigits (b := 10) (d := 0) (by decide) hpos (by decide)
      rw [digitsOf, hten, ← happend, List.replicate_succ', ← List.append_assoc]
      exact congrArg (· ++ ['0']) ih

theorem positionalText_of_stands {d : Digits} {n : Nat} (h : d.Stands n) (hn : 0 < n) :
    plain.positionalText d = digitsOf n := by
  have hvalue : 0 < d.value := by
    rcases Nat.eq_zero_or_pos d.value with hzero | hpos
    · have hn' := h.value
      rw [hzero, Nat.zero_mul] at hn'
      omega
    · exact hpos
  have hpoint : plain.wholePoint = false := rfl
  unfold Layout.positionalText
  dsimp only
  rw [if_pos h.nonneg, hpoint, if_neg Bool.false_ne_true, List.append_nil, ← h.value]
  exact (digitsOf_mul_pow hvalue _).symm

/-- A whole number that a mantissa can hold is written with its own digits. -/
theorem plainText_ofInt {n : Nat} (h : Holdable n) :
    plainText (Binary64.ofInt n) = naturalText n := by
  obtain ⟨hexponent, hfraction, hsign⟩ := h.fields_ofInt
  have hshift : shiftOf n ≤ 52 := Nat.sub_le 52 _
  have hfinite : (Binary64.ofInt n).isFinite = true := by
    rw [Binary64.isFinite, hexponent]
    exact decide_eq_true (by omega)
  have hnumber : (Binary64.ofInt n).isNaN = false := by
    rw [Binary64.isNaN, hexponent, decide_eq_false (by omega), Bool.false_and]
  have hzero : (Binary64.ofInt n).isZero = false := by
    rw [Binary64.isZero, hexponent, decide_eq_false (by omega), Bool.false_and]
  have hdigits : plain.positiveText (Binary64.ofInt n) = digitsOf n :=
    positionalText_of_stands (h.shortest_stands .up) h.pos
  rw [plainText, hnumber, if_neg Bool.false_ne_true, hfinite, if_pos rfl, Layout.text, hsign,
    if_neg Bool.false_ne_true, hzero, if_neg Bool.false_ne_true, hdigits]
  rfl

theorem quotient_ofInt {n : Nat} (h : Holdable n) :
    (Binary64.ofInt n).quotient = (n * 2 ^ shiftOf n, 2 ^ shiftOf n) := by
  rw [Binary64.quotient, h.mantissa_ofInt, h.exponent_ofInt, Int.neg_neg, Int.toNat_natCast]
  split
  · have hzero : shiftOf n = 0 := by omega
    rw [hzero]
    exact Prod.ext (Nat.mul_one _) rfl
  · rfl

/-- Comparing a whole number in floating point compares the number itself. -/
theorem atLeast_ofInt {n : Nat} (h : Holdable n) (m : Nat) :
    (Binary64.ofInt n).atLeast m = decide (m ≤ n) := by
  rw [Binary64.atLeast, quotient_ofInt h]
  exact decide_eq_decide.mpr (Nat.mul_le_mul_right_iff (Nat.two_pow_pos _))

end Hooklog.Decimal
