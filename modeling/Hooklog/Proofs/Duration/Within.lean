import Hooklog.Proofs.Duration.Rounding

/-!
# Rounding within 64 bits

The calculations of rounding once more, with every step checked: a step whose result does not
fit into 64 bits would end them.  Only twice a remainder can be such a result
(`roundNanosWithin?_eq_ite`).  The precisions that suit magnitudes are too short for that, so no
step of rounding by magnitude ever leaves the 64 bits, not even for durations beyond them, which
are cut before they are rounded.
-/

namespace Hooklog.Duration

open Decimal

/-- A number, unless it leaves the 64 bits. -/
def fit? (n : Int) : Option Int := if signed64.holds n then some n else none

/-- The calculation of `roundNanos`, ended by the first step that leaves the 64 bits.  Only the
last step may leave them, where the result is cut instead. -/
def roundNanosWithin? (n precision : Int) : Option Int := do
  if precision ≤ 0 then some n
  else
    let r ← fit? (Int.tmod n precision)
    if n < 0 then
      let r ← fit? (-r)
      let twice ← fit? (r + r)
      if twice < precision then fit? (n + r)
      else
        let rest ← fit? (precision - r)
        some (signed64.clamp (n - rest))
    else
      let twice ← fit? (r + r)
      if twice < precision then fit? (n - r)
      else
        let rest ← fit? (precision - r)
        some (signed64.clamp (n + rest))

/-- The calculation of `roundSuited`, ended by the first step that leaves the 64 bits. -/
def roundSuitedWithin? (n : Int) : Option Int :=
  match suitedPrecision n with
  | some p => roundNanosWithin? n p
  | none => some n

/-- The calculation of `round`, ended by the first step that leaves the 64 bits. -/
def roundWithin? (d : Int) : Option Int := do
  let n := saturate d
  if n < 0 then
    let m ← roundSuitedWithin? (opposite n)
    fit? (-m)
  else roundSuitedWithin? n

theorem fit?_of_le {n : Int} (hlow : -(largest + 1) ≤ n) (hhigh : n ≤ largest) :
    fit? n = some n := by
  have hholds : signed64.holds n = true := by
    rw [← low_signed64] at hlow
    simp only [Bounds.holds, Bool.and_eq_true, decide_eq_true_eq]
    exact ⟨hlow, hhigh⟩
  exact if_pos hholds

theorem fit?_of_gt {n : Int} (h : largest < n) : fit? n = none := by
  refine if_neg ?_
  rw [Bounds.holds, Bool.and_eq_true, decide_eq_true_eq, decide_eq_true_eq]
  exact fun hholds => absurd hholds.2 (Int.not_le.mpr h)

/-- Rounding stays within 64 bits exactly when twice the remainder does. -/
theorem roundNanosWithin?_eq_ite {n g : Int} (hlow : -(largest + 1) ≤ n) (hhigh : n ≤ largest)
    (hg : 0 < g) (hmax : g ≤ largest) :
    roundNanosWithin? n g =
      if 2 * ((n.natAbs : Int) % g) ≤ largest then some (roundNanos n g) else none := by
  have hr := emod_bounds hg (n.natAbs : Int)
  have hle := emod_le hg (n := n.natAbs) (by omega)
  have htmod := tmod_eq_ite n g
  have hsigned := fit?_of_le (n := Int.tmod n g) (by rw [htmod]; split <;> omega)
    (by rw [htmod]; split <;> omega)
  have hremainder := fit?_of_le (n := (n.natAbs : Int) % g) (by omega) (by omega)
  have hrest := fit?_of_le (n := g - (n.natAbs : Int) % g) (by omega) (by omega)
  unfold roundNanosWithin?
  rw [if_neg (Int.not_le.mpr hg), hsigned]
  simp only [Option.bind_eq_bind, Option.bind_some]
  by_cases hfits : 2 * ((n.natAbs : Int) % g) ≤ largest
  · have hdoubled := doubled_of_small hr.1 hfits
    have htwice := fit?_of_le (n := (n.natAbs : Int) % g + (n.natAbs : Int) % g) (by omega)
      (by omega)
    rw [if_pos hfits]
    unfold roundNanos
    rw [if_neg (Int.not_le.mpr hg)]
    by_cases hn : n < 0
    · have hup := fit?_of_le (n := n + (n.natAbs : Int) % g) (by omega) (by omega)
      rw [if_pos hn] at htmod
      rw [if_pos hn, if_pos hn, htmod]
      simp only [Int.neg_neg, hremainder, Option.bind_some, htwice, hup, hrest, hdoubled,
        Int.two_mul]
      split <;> rfl
    · have hdown := fit?_of_le (n := n - (n.natAbs : Int) % g) (by omega) (by omega)
      rw [if_neg hn] at htmod
      rw [if_neg hn, if_neg hn, htmod]
      simp only [Option.bind_some, htwice, hdown, hrest, hdoubled, Int.two_mul]
      split <;> rfl
  · have htwice := fit?_of_gt (n := (n.natAbs : Int) % g + (n.natAbs : Int) % g) (by omega)
    rw [if_neg hfits, htmod]
    by_cases hn : n < 0
    · rw [if_pos hn, if_pos hn]
      simp only [Int.neg_neg, hremainder, Option.bind_some, htwice, Option.bind_none]
    · rw [if_neg hn, if_neg hn]
      simp only [htwice, Option.bind_none]

theorem roundNanosWithin?_eq {n g : Int} (hn : 0 ≤ n) (hmax : n ≤ largest) (hg : 0 < g)
    (hsmall : 2 * g ≤ largest) : roundNanosWithin? n g = some (roundNanos n g) := by
  have hr := emod_bounds hg (n.natAbs : Int)
  rw [roundNanosWithin?_eq_ite (by omega) hmax hg (by omega), if_pos (by omega)]

theorem exists_bucket_of_granularityIn {l : List Bucket} {n g : Int}
    (h : granularityIn l n = some g) : ∃ b ∈ l, b.granularity = g := by
  induction l with
  | nil => exact absurd h.symm (Option.some_ne_none g)
  | cons b rest ih =>
      rw [granularityIn] at h
      split at h
      · exact ⟨b, List.mem_cons_self, Option.some.inj h⟩
      · obtain ⟨c, hc, hg⟩ := ih h
        exact ⟨c, List.mem_cons_of_mem b hc, hg⟩

theorem roundSuitedWithin?_eq {n : Int} (hn : 0 ≤ n) (hmax : n ≤ largest) :
    roundSuitedWithin? n = some (roundSuited n) := by
  unfold roundSuitedWithin? roundSuited
  rw [suitedPrecision_eq]
  cases hg : granularityIn buckets n with
  | none => rfl
  | some g =>
      obtain ⟨b, hb, rfl⟩ := exists_bucket_of_granularityIn hg
      have hfits := ladder_buckets.fits b hb
      exact roundNanosWithin?_eq hn hmax hfits.pos hfits.small

theorem roundWithin?_eq (d : Int) : roundWithin? d = some (round d) := by
  have hlargest := largest_eq
  have hsaturate := saturate_eq d
  unfold roundWithin? round
  dsimp only
  by_cases hd : saturate d < 0
  · have hopposite : opposite (saturate d) = min (-saturate d) largest := by
      rw [opposite, clamp_eq_min (by omega)]
    have hnonneg : 0 ≤ opposite (saturate d) := by omega
    have hmax : opposite (saturate d) ≤ largest := by omega
    have hrange : 0 ≤ roundSuited (opposite (saturate d)) ∧
        roundSuited (opposite (saturate d)) ≤ largest := by
      rw [roundSuited_eq_roundIn hnonneg hmax]
      have hmagnitude := roundedMagnitude_nonneg hnonneg
      rw [roundedMagnitude, Int.min_eq_left hmax] at hmagnitude
      exact ⟨hmagnitude, roundIn_le_largest hmax⟩
    rw [if_pos hd, if_pos hd, roundSuitedWithin?_eq hnonneg hmax]
    exact fit?_of_le (by omega) (by omega)
  · rw [if_neg hd, if_neg hd]
    exact roundSuitedWithin?_eq (by omega) (by omega)

/-- Rounding twice is rounding once, the opposite duration is rounded to the opposite one, and
no step of the calculation leaves the 64 bits, whatever the duration. -/
theorem round_idempotent_odd (d : Int) :
    round (round d) = round d ∧ round (-d) = -round d ∧ roundWithin? d = some (round d) :=
  ⟨round_round d, round_neg d, roundWithin?_eq d⟩

end Hooklog.Duration
