import Hooklog.Duration.Rounding
import Mathlib.Data.List.Chain

/-!
# Rounding by magnitude

A duration is rounded to a granularity that grows with its magnitude.  The magnitudes are cut
into buckets, and the least magnitude of a bucket is a multiple of its own granularity and of
that of the bucket below.  So what is rounded up out of a bucket lands on the least magnitude of
the next one and stays there, and the order of durations is kept from bucket to bucket.

* `nearest` is the multiple of a granularity nearest to a magnitude, `nearestAway` that of a number
  of either sign, and `roundNanos` is that multiple cut to 64 bits, unless twice the remainder is
  too large (`roundNanos_eq`).
* `roundIn` rounds by a list of buckets, and `roundSuited` does so by `buckets`.
* `round_round`, `round_neg` and `round_monotone` are the laws of rounding durations of both
  signs, and `round_monotone_close` says besides how far a duration is moved.
-/

namespace Hooklog.Duration

open Decimal

/-! ## Nearest multiples -/

/-- Multiple of a granularity nearest to a number, halfway numbers going up. -/
def nearest (n g : Int) : Int := if 2 * (n % g) < g then n - n % g else n + (g - n % g)

/-- Multiple of a granularity nearest to a number, halfway numbers going away from zero. -/
def nearestAway (n g : Int) : Int := if n < 0 then -nearest (-n) g else nearest n g

theorem dvd_nearest (n g : Int) : g ∣ nearest n g := by
  have hbelow : g ∣ n - n % g := Int.dvd_self_sub_emod
  unfold nearest
  split
  · exact hbelow
  · have habove : n + (g - n % g) = n - n % g + g := by omega
    rw [habove]
    exact Int.dvd_add hbelow (Int.dvd_refl g)

section Nearest

variable {g : Int} (hg : 0 < g)

include hg

theorem emod_bounds (n : Int) : 0 ≤ n % g ∧ n % g < g :=
  ⟨Int.emod_nonneg n (Int.ne_of_gt hg), Int.emod_lt_of_pos n hg⟩

theorem emod_le {n : Int} (hn : 0 ≤ n) : n % g ≤ n := by
  have hmultiple : 0 ≤ g * (n / g) :=
    Int.mul_nonneg (Int.le_of_lt hg) (Int.ediv_nonneg hn (Int.le_of_lt hg))
  have hsum := Int.mul_ediv_add_emod n g
  omega

theorem nearest_of_dvd {n : Int} (h : g ∣ n) : nearest n g = n := by
  rw [nearest, Int.emod_eq_zero_of_dvd h, if_pos (by omega), Int.sub_zero]

/-- No number is farther from its nearest multiple than half the granularity. -/
theorem nearest_close (n : Int) : 2 * ((nearest n g - n).natAbs : Int) ≤ g := by
  have hr := emod_bounds hg n
  unfold nearest
  split <;> omega

theorem nearest_monotone {n m : Int} (h : n ≤ m) : nearest n g ≤ nearest m g := by
  have hn : g * (n / g) + n % g = n := Int.mul_ediv_add_emod n g
  have hm : g * (m / g) + m % g = m := Int.mul_ediv_add_emod m g
  have hr := emod_bounds hg n
  have hs := emod_bounds hg m
  have hle : n / g ≤ m / g := Int.ediv_le_ediv hg h
  rcases Int.lt_or_eq_of_le hle with hlt | heq
  · -- a multiple lies between the two numbers
    have hbetween : g * (n / g) + g ≤ g * (m / g) := by
      have hnext := Int.mul_le_mul_of_nonneg_left hlt (Int.le_of_lt hg)
      rwa [Int.mul_add, Int.mul_one] at hnext
    unfold nearest
    split <;> split <;> omega
  · rw [heq] at hn
    unfold nearest
    split <;> split <;> omega

theorem le_nearest {a n : Int} (ha : g ∣ a) (h : a ≤ n) : a ≤ nearest n g := by
  rw [← nearest_of_dvd hg ha]
  exact nearest_monotone hg h

theorem nearest_le {b n : Int} (hb : g ∣ b) (h : n ≤ b) : nearest n g ≤ b := by
  rw [← nearest_of_dvd hg hb]
  exact nearest_monotone hg h

end Nearest

/-! ## Rounding in 64 bits -/

theorem largest_eq : largest = 9223372036854775807 := by decide

theorem low_signed64 : signed64.low = -(largest + 1) := by decide

theorem clamp_eq (n : Int) : signed64.clamp n = max (-(largest + 1)) (min largest n) := by
  rw [← low_signed64]
  rfl

theorem saturate_eq (d : Int) : saturate d = max (-(largest + 1)) (min largest d) := clamp_eq d

theorem clamp_eq_min {n : Int} (h : 0 ≤ n) : signed64.clamp n = min n largest := by
  have hlargest := largest_eq
  rw [clamp_eq]
  omega

theorem doubled_of_small {r : Int} (h : 0 ≤ r) (hr : 2 * r ≤ largest) : doubled r = 2 * r := by
  have hlargest := largest_eq
  have hsize : (UInt64.size : Int) = 18446744073709551616 := by decide
  exact Int.bmod_eq_of_le_mul_two (by omega) (by omega)

theorem doubled_of_large {r : Int} (h : largest < 2 * r) (hr : r ≤ largest) : doubled r < 0 := by
  have hlargest := largest_eq
  have hsize : (UInt64.size : Int) = 18446744073709551616 := by decide
  rw [doubled, Int.bmod_def, hsize, Int.emod_eq_of_lt (by omega) (by omega), if_neg (by omega)]
  omega

/-- The remainder has the sign of the number and the size of that of the magnitude. -/
theorem tmod_eq_ite (n g : Int) :
    Int.tmod n g = if n < 0 then -((n.natAbs : Int) % g) else (n.natAbs : Int) % g := by
  split
  · have hopposite : n = -(n.natAbs : Int) := by omega
    rw [hopposite, Int.neg_tmod, Int.tmod_eq_emod_of_nonneg (by omega), Int.natAbs_neg,
      Int.natAbs_natCast]
  · rw [Int.tmod_eq_emod_of_nonneg (by omega), Int.natAbs_of_nonneg (by omega)]

/-- Rounding gives the nearest multiple cut to 64 bits, as long as twice the remainder fits into
them.  Beyond, it always gives the multiple next to zero. -/
theorem roundNanos_eq {n g : Int} (hlow : -(largest + 1) ≤ n) (hhigh : n ≤ largest) (hg : 0 < g)
    (hmax : g ≤ largest) :
    roundNanos n g =
      if 2 * ((n.natAbs : Int) % g) ≤ largest then signed64.clamp (nearestAway n g)
      else n - Int.tmod n g := by
  have hr := emod_bounds hg (n.natAbs : Int)
  have hle := emod_le hg (n := n.natAbs) (by omega)
  have htmod := tmod_eq_ite n g
  unfold roundNanos nearestAway nearest
  rw [if_neg (Int.not_le.mpr hg)]
  dsimp only
  by_cases hn : n < 0
  · have habs : -n = (n.natAbs : Int) := by omega
    rw [if_pos hn] at htmod
    rw [if_pos hn, if_pos hn, htmod, Int.neg_neg, habs]
    by_cases hfits : 2 * ((n.natAbs : Int) % g) ≤ largest
    · rw [if_pos hfits, doubled_of_small hr.1 hfits, clamp_eq, clamp_eq]
      split <;> omega
    · have hwraps := doubled_of_large (Int.not_le.mp hfits) (by omega)
      rw [if_neg hfits, if_pos (by omega)]
      omega
  · have habs : n = (n.natAbs : Int) := by omega
    rw [if_neg hn] at htmod
    rw [if_neg hn, if_neg hn, htmod]
    rw [← habs] at hr hle ⊢
    by_cases hfits : 2 * (n % g) ≤ largest
    · rw [if_pos hfits, doubled_of_small hr.1 hfits, clamp_eq, clamp_eq]
      split <;> omega
    · have hwraps := doubled_of_large (Int.not_le.mp hfits) (by omega)
      rw [if_neg hfits, if_pos (by omega)]

/-- A magnitude is rounded to the nearest multiple that is not beyond the largest duration. -/
theorem roundNanos_eq_min {n g : Int} (hn : 0 ≤ n) (hmax : n ≤ largest) (hg : 0 < g)
    (hsmall : 2 * g ≤ largest) : roundNanos n g = min (nearest n g) largest := by
  have hr := emod_bounds hg (n.natAbs : Int)
  have hnonneg : 0 ≤ nearest n g := le_nearest hg (Int.dvd_zero g) hn
  rw [roundNanos_eq (by omega) hmax hg (by omega), if_pos (by omega), nearestAway,
    if_neg (Int.not_lt.mpr hn), clamp_eq_min hnonneg]

/-! ## Buckets -/

/-- Magnitudes from a least one on, rounded to one granularity. -/
structure Bucket where
  least : Int
  granularity : Int
  deriving DecidableEq

/-- The buckets, from the largest magnitudes down to a microsecond. -/
def buckets : List Bucket :=
  [⟨month, day⟩, ⟨hour, minute⟩, ⟨5 * minute, second⟩, ⟨minute, 5 * second⟩,
    ⟨10 * second, 100 * millisecond⟩, ⟨second, 10 * millisecond⟩,
    ⟨millisecond, 10 * microsecond⟩, ⟨microsecond, 10⟩]

/-- Granularity of a magnitude in a list of buckets, if it is in one of them. -/
def granularityIn : List Bucket → Int → Option Int
  | [], _ => none
  | b :: rest, n => if b.least ≤ n then some b.granularity else granularityIn rest n

/-- Granularity of a magnitude, zero below a microsecond. -/
def granularity (n : Int) : Int := (granularityIn buckets n).getD 0

/-- A magnitude rounded by a list of buckets. -/
def roundIn : List Bucket → Int → Int
  | [], n => n
  | b :: rest, n =>
      if b.least ≤ n then min (nearest n b.granularity) largest else roundIn rest n

/-- A bucket whose least magnitude is a multiple of its granularity. -/
structure Bucket.Fits (b : Bucket) : Prop where
  pos : 0 < b.granularity
  small : 2 * b.granularity ≤ largest
  dvd : b.granularity ∣ b.least

instance (b : Bucket) : Decidable b.Fits :=
  decidable_of_iff
    (0 < b.granularity ∧ 2 * b.granularity ≤ largest ∧ b.granularity ∣ b.least)
    ⟨fun h => ⟨h.1, h.2.1, h.2.2⟩, fun h => ⟨h.pos, h.small, h.dvd⟩⟩

/-- Two buckets one below the other: where the upper one starts, the lower one has a multiple. -/
structure Bucket.Meets (upper lower : Bucket) : Prop where
  dvd : lower.granularity ∣ upper.least
  le : lower.least ≤ upper.least

instance (upper lower : Bucket) : Decidable (upper.Meets lower) :=
  decidable_of_iff (lower.granularity ∣ upper.least ∧ lower.least ≤ upper.least)
    ⟨fun h => ⟨h.1, h.2⟩, fun h => ⟨h.dvd, h.le⟩⟩

/-- A list of buckets that meet. -/
structure Ladder (l : List Bucket) : Prop where
  fits : ∀ b ∈ l, b.Fits
  meets : l.IsChain Bucket.Meets

theorem ladder_buckets : Ladder buckets where
  fits := by decide
  meets := by decide

theorem Ladder.tail {b : Bucket} {rest : List Bucket} (h : Ladder (b :: rest)) : Ladder rest where
  fits c hc := h.fits c (List.mem_cons_of_mem b hc)
  meets := h.meets.tail

section Ladders

variable {l : List Bucket} {b : Bucket} {n m : Int}

/-- What is rounded below a bucket does not get above its least magnitude. -/
theorem roundIn_le_least (h : Ladder (b :: l)) (hn : n ≤ b.least) : roundIn l n ≤ b.least := by
  induction l generalizing b with
  | nil => exact hn
  | cons c rest ih =>
      have hmeets : b.Meets c := (List.isChain_cons_cons.mp h.meets).1
      have hfits : c.Fits := h.fits c (by simp)
      unfold roundIn
      split
      · have hnearest := nearest_le hfits.pos hmeets.dvd hn
        omega
      · have hbelow := ih h.tail (by omega)
        exact Int.le_trans hbelow hmeets.le

/-- What is rounded in a bucket does not get below its least magnitude. -/
theorem least_le_roundIn (h : b.Fits) (hn : b.least ≤ n) (hmax : n ≤ largest) :
    b.least ≤ roundIn (b :: l) n := by
  have hnearest := le_nearest h.pos h.dvd hn
  rw [roundIn, if_pos hn]
  omega

theorem roundIn_le_largest (hmax : n ≤ largest) : roundIn l n ≤ largest := by
  induction l with
  | nil => exact hmax
  | cons b rest ih =>
      unfold roundIn
      split
      · omega
      · exact ih

theorem roundIn_monotone (h : Ladder l) (hnm : n ≤ m) (hmax : m ≤ largest) :
    roundIn l n ≤ roundIn l m := by
  induction l with
  | nil => exact hnm
  | cons b rest ih =>
      have hfits : b.Fits := h.fits b List.mem_cons_self
      by_cases hn : b.least ≤ n
      · have hnearest := nearest_monotone hfits.pos hnm
        rw [roundIn, roundIn, if_pos hn, if_pos (Int.le_trans hn hnm)]
        omega
      · by_cases hm : b.least ≤ m
        · -- the least magnitude of the bucket lies between the two results
          have hlow : roundIn (b :: rest) n ≤ b.least := by
            rw [roundIn, if_neg hn]
            exact roundIn_le_least h (by omega)
          exact Int.le_trans hlow (least_le_roundIn hfits hm hmax)
        · rw [roundIn, roundIn, if_neg hn, if_neg hm]
          exact ih h.tail

theorem roundIn_roundIn (h : Ladder l) (hmax : n ≤ largest) :
    roundIn l (roundIn l n) = roundIn l n := by
  induction l with
  | nil => rfl
  | cons b rest ih =>
      have hfits : b.Fits := h.fits b List.mem_cons_self
      by_cases hn : b.least ≤ n
      · have hleast := least_le_roundIn (l := rest) hfits hn hmax
        rw [roundIn, if_pos hn] at hleast
        rw [roundIn, roundIn, if_pos hn, if_pos hleast]
        -- either the result is a multiple, or it was cut to the largest duration
        have hdvd := nearest_of_dvd hfits.pos (dvd_nearest n b.granularity)
        have hlargest := nearest_monotone hfits.pos hmax
        rcases Int.le_total (nearest n b.granularity) largest with hle | hle
        · rw [Int.min_eq_left hle, hdvd, Int.min_eq_left hle]
        · rw [Int.min_eq_right hle]
          omega
      · have hbelow : roundIn rest n ≤ b.least := roundIn_le_least h (by omega)
        have hrange : roundIn rest n ≤ largest := roundIn_le_largest hmax
        rw [roundIn, roundIn, if_neg hn]
        split
        · -- rounded up to the least magnitude of the bucket, which is a multiple in it
          have heq : roundIn rest n = b.least := by omega
          rw [heq, nearest_of_dvd hfits.pos hfits.dvd]
          omega
        · exact ih h.tail

theorem roundIn_close (h : Ladder l) (hmax : n ≤ largest) :
    2 * ((roundIn l n - n).natAbs : Int) ≤ (granularityIn l n).getD 0 := by
  induction l with
  | nil =>
      rw [roundIn, granularityIn, Option.getD_none]
      omega
  | cons b rest ih =>
      have hclose := nearest_close (h.fits b List.mem_cons_self).pos n
      unfold roundIn granularityIn
      split
      · rw [Option.getD_some]
        omega
      · exact ih h.tail

/-- Rounding by buckets is rounding to the granularity of the magnitude. -/
theorem roundIn_eq_roundNanos (h : Ladder l) (hn : 0 ≤ n) (hmax : n ≤ largest) :
    roundIn l n = (granularityIn l n).elim n (roundNanos n) := by
  induction l with
  | nil => rfl
  | cons b rest ih =>
      have hfits : b.Fits := h.fits b List.mem_cons_self
      by_cases hb : b.least ≤ n
      · rw [roundIn, granularityIn, if_pos hb, if_pos hb]
        exact (roundNanos_eq_min hn hmax hfits.pos hfits.small).symm
      · rw [roundIn, granularityIn, if_neg hb, if_neg hb]
        exact ih h.tail

end Ladders

/-- The precision that suits a magnitude is the granularity of its bucket. -/
theorem suitedPrecision_eq (n : Int) : suitedPrecision n = granularityIn buckets n := rfl

/-- A duration that is not negative is rounded by the buckets. -/
theorem roundSuited_eq_roundIn {n : Int} (hn : 0 ≤ n) (hmax : n ≤ largest) :
    roundSuited n = roundIn buckets n := by
  rw [roundIn_eq_roundNanos ladder_buckets hn hmax, roundSuited, suitedPrecision_eq]
  cases granularityIn buckets n <;> rfl

/-! ## Durations of both signs -/

/-- A duration without sign, rounded. -/
def roundedMagnitude (n : Int) : Int := roundIn buckets (min n largest)

/-- Rounding keeps the sign and rounds the magnitude. -/
theorem round_eq (d : Int) :
    round d = if d < 0 then -roundedMagnitude (-d) else roundedMagnitude d := by
  have hlargest := largest_eq
  have hsaturate := saturate_eq d
  unfold round roundedMagnitude
  dsimp only
  by_cases hd : d < 0
  · have hopposite : opposite (saturate d) = min (-d) largest := by
      rw [opposite, clamp_eq_min (by omega), hsaturate]
      omega
    rw [if_pos (by omega), if_pos hd, hopposite,
      roundSuited_eq_roundIn (by omega) (by omega)]
  · have hmin : saturate d = min d largest := by
      rw [hsaturate]
      omega
    rw [hmin, if_neg (by omega), if_neg hd, roundSuited_eq_roundIn (by omega) (by omega)]

theorem roundedMagnitude_monotone {n m : Int} (h : n ≤ m) :
    roundedMagnitude n ≤ roundedMagnitude m :=
  roundIn_monotone ladder_buckets (by omega) (by omega)

theorem roundedMagnitude_zero : roundedMagnitude 0 = 0 := by decide

theorem roundedMagnitude_nonneg {n : Int} (h : 0 ≤ n) : 0 ≤ roundedMagnitude n := by
  have hmonotone := roundedMagnitude_monotone h
  rwa [roundedMagnitude_zero] at hmonotone

theorem roundedMagnitude_le_largest (n : Int) : roundedMagnitude n ≤ largest :=
  roundIn_le_largest (by omega)

theorem roundedMagnitude_idempotent (n : Int) :
    roundedMagnitude (roundedMagnitude n) = roundedMagnitude n := by
  have hmax := roundedMagnitude_le_largest n
  unfold roundedMagnitude at hmax ⊢
  rw [Int.min_eq_left hmax]
  exact roundIn_roundIn ladder_buckets (by omega)

theorem round_neg (d : Int) : round (-d) = -round d := by
  have hzero := roundedMagnitude_zero
  rw [round_eq, round_eq, Int.neg_neg]
  rcases Int.lt_trichotomy d 0 with hd | rfl | hd
  · rw [if_neg (by omega), if_pos hd, Int.neg_neg]
  · rw [Int.neg_zero, if_neg (by omega), hzero, Int.neg_zero]
  · rw [if_pos (by omega), if_neg (by omega)]

theorem round_of_nonneg {d : Int} (h : 0 ≤ d) : round d = roundedMagnitude d := by
  rw [round_eq, if_neg (by omega)]

theorem round_round (d : Int) : round (round d) = round d := by
  have hround : ∀ n, 0 ≤ n → round (round n) = round n := by
    intro n hn
    rw [round_of_nonneg hn, round_of_nonneg (roundedMagnitude_nonneg hn),
      roundedMagnitude_idempotent]
  rcases Int.le_total 0 d with hd | hd
  · exact hround d hd
  · -- the opposite duration is rounded to the opposite one
    have hopposite := hround (-d) (by omega)
    rw [round_neg, round_neg] at hopposite
    omega

theorem round_monotone {d e : Int} (h : d ≤ e) : round d ≤ round e := by
  rcases Int.lt_or_le d 0 with hd | hd
  · rcases Int.lt_or_le e 0 with he | he
    · have hmagnitude := roundedMagnitude_monotone (n := -e) (m := -d) (by omega)
      rw [round_eq, round_eq, if_pos hd, if_pos he]
      omega
    · have hlow := roundedMagnitude_nonneg (n := -d) (by omega)
      have hhigh := roundedMagnitude_nonneg he
      rw [round_eq, round_of_nonneg he, if_pos hd]
      omega
  · rw [round_of_nonneg hd, round_of_nonneg (by omega)]
    exact roundedMagnitude_monotone h

theorem natAbs_round_sub (d : Int) :
    (round (-d) - -d).natAbs = (round d - d).natAbs := by
  rw [round_neg]
  omega

/-- The order of durations is kept, and a duration of 64 bits is moved by half the granularity
of its magnitude at most. -/
theorem round_monotone_close :
    (∀ d e : Int, d ≤ e → round d ≤ round e) ∧
      ∀ d : Int, signed64.holds d = true →
        2 * ((round d - d).natAbs : Int) ≤ granularity d.natAbs := by
  have hclose : ∀ n, 0 ≤ n → n ≤ largest →
      2 * ((round n - n).natAbs : Int) ≤ granularity n.natAbs := by
    intro n hn hmax
    have hbucket := roundIn_close ladder_buckets hmax
    rw [Int.natAbs_of_nonneg hn, round_of_nonneg hn, roundedMagnitude, Int.min_eq_left hmax]
    exact hbucket
  refine ⟨fun _ _ => round_monotone, fun d hd => ?_⟩
  simp only [Bounds.holds, Bool.and_eq_true, decide_eq_true_eq] at hd
  obtain ⟨hlow, hhigh⟩ := hd
  rw [low_signed64] at hlow
  rcases Int.le_total 0 d with hnonneg | hneg
  · exact hclose d hnonneg hhigh
  · by_cases hleast : d = -(largest + 1)
    · -- the least duration has no opposite and becomes that of the largest one
      rw [hleast]
      decide
    · have hopposite := hclose (-d) (by omega) (by omega)
      rwa [natAbs_round_sub, Int.natAbs_neg] at hopposite

/-- A duration just below ten seconds is rounded up, and the one that it reaches is its own
multiple. -/
theorem round_monotone_close_ten_seconds :
    round 9996000000 = 10000000000 ∧ round 9996000000 ≤ round 10000000000 ∧
      2 * ((round 9996000000 - 9996000000).natAbs : Int) ≤ 10 * millisecond :=
  ⟨by decide, round_monotone_close.1 9996000000 10000000000 (by decide),
    round_monotone_close.2 9996000000 (by decide)⟩

end Hooklog.Duration
