import Hooklog.Proofs.Duration.Within

/-!
# Multiples of a precision

Rounding to a given precision, which may be as long as a duration can be.  The multiple that is
asked for is said without any calculation: none is nearer to the duration, and none that is as
near is farther from zero.  The calculation compares twice the remainder with the precision, and
it finds that multiple exactly when twice the remainder fits into 64 bits.  For precisions up to
half the longest duration it always does.

* `IsNearest` is the multiple that is asked for, and `nearestAway` is that multiple
  (`isNearest_nearestAway`).
* `RemainderDoubles` says of a duration and a precision that twice the remainder fits.
* `roundTo_nearest_iff` is the main statement.
* `roundTo_eq_zero_iff` says which durations round to nothing.
-/

namespace Hooklog.Duration

open Decimal

/-! ## The nearest multiple -/

/-- A multiple of a precision such that none is nearer to a number, and none that is as near is
farther from zero. -/
structure IsNearest (p n m : Int) : Prop where
  dvd : p ∣ m
  nearest : ∀ k, p ∣ k → (m - n).natAbs ≤ (k - n).natAbs
  away : ∀ k, p ∣ k → (k - n).natAbs = (m - n).natAbs → k.natAbs ≤ m.natAbs

/-- The opposite number has the opposite nearest multiple. -/
theorem IsNearest.neg {p n m : Int} (h : IsNearest p n m) : IsNearest p (-n) (-m) where
  dvd := Int.dvd_neg.mpr h.dvd
  nearest k hk := by
    have hopposite := h.nearest (-k) (Int.dvd_neg.mpr hk)
    omega
  away k hk heq := by
    have hopposite := h.away (-k) (Int.dvd_neg.mpr hk) (by omega)
    omega

theorem IsNearest.unique {p n m k : Int} (hm : IsNearest p n m) (hk : IsNearest p n k) :
    m = k := by
  have hmk := hm.nearest k hk.dvd
  have hkm := hk.nearest m hm.dvd
  have haway := hm.away k hk.dvd (by omega)
  have haway' := hk.away m hm.dvd (by omega)
  -- opposite multiples are as near only to zero, which is a multiple itself
  have hzero := hm.nearest 0 (Int.dvd_zero p)
  omega

section Precision

variable {p n : Int} (hp : 0 < p)

include hp

/-- Between the multiples on both sides of a number there is none. -/
theorem le_or_le_of_dvd (n : Int) {k : Int} (hk : p ∣ k) :
    k ≤ n - n % p ∨ n - n % p + p ≤ k := by
  obtain ⟨c, rfl⟩ := hk
  have hsum : p * (n / p) + n % p = n := Int.mul_ediv_add_emod n p
  rcases Int.lt_or_le (n / p) c with hc | hc
  · have habove := Int.mul_le_mul_of_nonneg_left hc (Int.le_of_lt hp)
    rw [Int.mul_add, Int.mul_one] at habove
    exact Or.inr (by omega)
  · have hbelow := Int.mul_le_mul_of_nonneg_left hc (Int.le_of_lt hp)
    exact Or.inl (by omega)

theorem isNearest_nearest (hn : 0 ≤ n) : IsNearest p n (nearest n p) := by
  have hr := emod_bounds hp n
  have hle := emod_le hp hn
  refine ⟨dvd_nearest n p, fun k hk => ?_, fun k hk heq => ?_⟩
  · have hsides := le_or_le_of_dvd hp n hk
    unfold nearest
    split <;> omega
  · have hsides := le_or_le_of_dvd hp n hk
    unfold nearest at heq ⊢
    split at heq <;> split <;> omega

theorem isNearest_nearestAway (n : Int) : IsNearest p n (nearestAway n p) := by
  unfold nearestAway
  split
  · have hopposite := (isNearest_nearest hp (n := -n) (by omega)).neg
    rwa [Int.neg_neg] at hopposite
  · exact isNearest_nearest hp (by omega)

end Precision

/-! ## Rounding to a precision -/

/-- The calculation of `roundTo`, ended by the first step that leaves the 64 bits. -/
def roundToWithin? (d precision : Int) : Option Int :=
  roundNanosWithin? (saturate d) (saturate precision)

/-- Twice the remainder of a duration, without its sign, fits into 64 bits. -/
def RemainderDoubles (d p : Int) : Prop :=
  2 * (((saturate d).natAbs : Int) % saturate p) ≤ largest

instance (d p : Int) : Decidable (RemainderDoubles d p) :=
  inferInstanceAs (Decidable (2 * (((saturate d).natAbs : Int) % saturate p) ≤ largest))

theorem saturate_bounds (d : Int) : -(largest + 1) ≤ saturate d ∧ saturate d ≤ largest := by
  have hlargest := largest_eq
  have hsaturate := saturate_eq d
  omega

theorem saturate_pos {p : Int} (hp : 0 < p) : 0 < saturate p := by
  have hlargest := largest_eq
  have hsaturate := saturate_eq p
  omega

section RoundTo

variable {d p : Int} (hp : 0 < p)

include hp

theorem roundTo_eq_ite :
    roundTo d p =
      if RemainderDoubles d p then signed64.clamp (nearestAway (saturate d) (saturate p))
      else saturate d - Int.tmod (saturate d) (saturate p) :=
  roundNanos_eq (saturate_bounds d).1 (saturate_bounds d).2 (saturate_pos hp)
    (saturate_bounds p).2

theorem roundToWithin?_eq_ite :
    roundToWithin? d p = if RemainderDoubles d p then some (roundTo d p) else none :=
  roundNanosWithin?_eq_ite (saturate_bounds d).1 (saturate_bounds d).2 (saturate_pos hp)
    (saturate_bounds p).2

/-- The multiple next to zero is not the nearest one where twice the remainder does not fit. -/
theorem clamp_nearestAway_ne (h : ¬RemainderDoubles d p) :
    signed64.clamp (nearestAway (saturate d) (saturate p)) ≠
      saturate d - Int.tmod (saturate d) (saturate p) := by
  have hq := saturate_pos hp
  have hqmax := (saturate_bounds p).2
  have hbounds := saturate_bounds d
  have hr := emod_bounds hq ((saturate d).natAbs : Int)
  have htmod := tmod_eq_ite (saturate d) (saturate p)
  have hlarge : largest < 2 * (((saturate d).natAbs : Int) % saturate p) := Int.not_le.mp h
  rw [clamp_eq]
  unfold nearestAway nearest
  by_cases hneg : saturate d < 0
  · have habs : -saturate d = ((saturate d).natAbs : Int) := by omega
    rw [if_pos hneg] at htmod ⊢
    rw [htmod, habs, if_neg (by omega)]
    omega
  · have habs : saturate d = ((saturate d).natAbs : Int) := by omega
    rw [if_neg hneg] at htmod ⊢
    rw [htmod]
    rw [← habs] at hr hlarge ⊢
    rw [if_neg (by omega)]
    omega

/-- Up to half the longest duration every precision leaves room for twice a remainder. -/
theorem remainderDoubles_of_le (h : 2 * p ≤ largest + 1) : RemainderDoubles d p := by
  have hr := emod_bounds (saturate_pos hp) ((saturate d).natAbs : Int)
  have hsaturate := saturate_eq p
  unfold RemainderDoubles
  omega

/-- Rounding a duration to a precision, both cut to 64 bits, gives the multiple nearest to it,
halfway durations going away from zero and the result being cut to 64 bits, exactly when twice
the remainder fits into 64 bits; and exactly then no step of the calculation leaves them.  It
fits for all durations if the precision is at most half the longest duration, and where it does
not, the multiple next to zero is given. -/
theorem roundTo_nearest_iff :
    ((∃ m, IsNearest (saturate p) (saturate d) m ∧ roundTo d p = signed64.clamp m) ↔
        RemainderDoubles d p) ∧
      (roundToWithin? d p = some (roundTo d p) ↔ RemainderDoubles d p) ∧
      (2 * p ≤ largest + 1 → RemainderDoubles d p) ∧
      (¬RemainderDoubles d p →
        roundTo d p = saturate d - Int.tmod (saturate d) (saturate p)) := by
  have hnearest := isNearest_nearestAway (saturate_pos hp) (saturate d)
  refine ⟨⟨?_, fun h => ⟨_, hnearest, ?_⟩⟩, ⟨fun h => ?_, fun h => ?_⟩,
    remainderDoubles_of_le hp, fun h => ?_⟩
  · rintro ⟨m, hm, hround⟩
    by_contra h
    rw [roundTo_eq_ite hp, if_neg h, ← hnearest.unique hm] at hround
    exact clamp_nearestAway_ne hp h hround.symm
  · rw [roundTo_eq_ite hp, if_pos h]
  · by_contra hlarge
    rw [roundToWithin?_eq_ite hp, if_neg hlarge] at h
    exact Option.some_ne_none _ h.symm
  · rw [roundToWithin?_eq_ite hp, if_pos h]
  · rw [roundTo_eq_ite hp, if_neg h]

end RoundTo

/-- Half of a precision of about 146 years, more than one of them before zero, goes to the most
negative duration. -/
theorem roundTo_nearest_iff_halfway :
    (0 : Int) < 4611686018427387904 ∧
      (∃ m, IsNearest 4611686018427387904 (-6917529027641081856) m ∧
        roundTo (-6917529027641081856) 4611686018427387904 = signed64.clamp m) ∧
      roundTo (-6917529027641081856) 4611686018427387904 = -9223372036854775808 ∧
      roundToWithin? (-6917529027641081856) 4611686018427387904 =
        some (-9223372036854775808) := by
  have hpos : (0 : Int) < 4611686018427387904 := by decide
  have hmain := roundTo_nearest_iff (d := -6917529027641081856) hpos
  have hdoubles := hmain.2.2.1 (by decide)
  exact ⟨hpos, hmain.1.mpr hdoubles, by decide, hmain.2.1.mpr hdoubles⟩

/-- With a precision of about 190 years, a duration of 158 years is rounded to nothing, though
the precision itself is the multiple nearest to it. -/
theorem roundTo_nothing_instead_of_nearest :
    IsNearest 6000000000000000000 5000000000000000000 6000000000000000000 ∧
      roundTo 5000000000000000000 6000000000000000000 = 0 ∧
      roundToWithin? 5000000000000000000 6000000000000000000 = none ∧
      ¬∃ m, IsNearest (saturate 6000000000000000000) (saturate 5000000000000000000) m ∧
        roundTo 5000000000000000000 6000000000000000000 = signed64.clamp m := by
  have hnearest : IsNearest 6000000000000000000 5000000000000000000 6000000000000000000 :=
    isNearest_nearest (by decide) (by decide)
  refine ⟨hnearest, by decide, by decide, ?_⟩
  rintro ⟨m, hm, hround⟩
  have hsaturated : saturate 6000000000000000000 = 6000000000000000000 ∧
      saturate 5000000000000000000 = 5000000000000000000 := by decide
  rw [hsaturated.1, hsaturated.2] at hm
  rw [← hnearest.unique hm] at hround
  exact absurd hround (by decide)

/-! ## Durations that round to nothing -/

section Halves

variable {d p : Int} (hp : 0 < p) (hmax : 2 * p ≤ largest + 1)

include hp hmax

theorem roundTo_eq_clamp : roundTo d p = signed64.clamp (nearestAway (saturate d) p) := by
  have hsaturate := saturate_eq p
  have hwhole : saturate p = p := by omega
  rw [roundTo_eq_ite hp, if_pos (remainderDoubles_of_le hp hmax), hwhole]

omit hmax in
/-- Less than half a precision on both sides of zero rounds to it. -/
theorem nearestAway_eq_zero_iff (n : Int) : nearestAway n p = 0 ↔ 2 * (n.natAbs : Int) < p := by
  have hmagnitude : ∀ k, 0 ≤ k → (nearest k p = 0 ↔ 2 * k < p) := by
    intro k hk
    have hr := emod_bounds hp k
    have hle := emod_le hp hk
    have hsides := le_or_le_of_dvd hp k (Int.dvd_refl p)
    have hzero := le_or_le_of_dvd hp k (Int.dvd_zero p)
    unfold nearest
    split <;> omega
  unfold nearestAway
  split
  · rw [Int.neg_eq_zero, hmagnitude _ (by omega)]
    omega
  · rw [hmagnitude _ (by omega)]
    omega

theorem roundTo_eq_zero_iff : roundTo d p = 0 ↔ 2 * (d.natAbs : Int) < p := by
  have hsaturate := saturate_eq d
  have hzero := nearestAway_eq_zero_iff hp (saturate d)
  rw [roundTo_eq_clamp hp hmax, clamp_eq]
  -- a duration that is cut is longer than the precision before and after
  have hcut : 2 * ((saturate d).natAbs : Int) < p ↔ 2 * (d.natAbs : Int) < p := by omega
  rw [← hcut, ← hzero]
  omega

/-- A time before an instant is not rounded to one after it. -/
theorem roundTo_nonpos (hd : d < 0) : roundTo d p ≤ 0 := by
  have hsaturate := saturate_eq d
  have hr := emod_bounds hp (-saturate d)
  have hle := emod_le hp (n := -saturate d) (by omega)
  rw [roundTo_eq_clamp hp hmax, clamp_eq]
  unfold nearestAway nearest
  rw [if_pos (by omega : saturate d < 0)]
  split <;> omega

end Halves

end Hooklog.Duration
