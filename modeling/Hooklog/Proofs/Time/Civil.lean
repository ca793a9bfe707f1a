import Hooklog.Time.Civil

/-!
# Ranges of calendar and clock

Rough bounds on the numbers read off the calendar and the clock.  They are far from sharp and
hold for every instant, whether or not the calendar reaches it.
-/

namespace Hooklog

namespace Date

/-- The day of the year that a day of the era falls on. -/
theorem dayOfYear_bounds {dayOfEra ofEra : Int} (hlow : 0 ≤ dayOfEra)
    (hhigh : dayOfEra < 146097)
    (hera : ofEra =
      (dayOfEra - dayOfEra / 1460 + dayOfEra / 36524 - dayOfEra / 146096) / 365) :
    -800 < dayOfEra - (365 * ofEra + ofEra / 4 - ofEra / 100) ∧
      dayOfEra - (365 * ofEra + ofEra / 4 - ofEra / 100) < 800 := by
  omega

theorem month_day_bounds {dayOfYear : Int} (hlow : -800 < dayOfYear) (hhigh : dayOfYear < 800) :
    (if (5 * dayOfYear + 2) / 153 < 10 then (5 * dayOfYear + 2) / 153 + 3
        else (5 * dayOfYear + 2) / 153 - 9).toNat < 40 ∧
      (dayOfYear - (153 * ((5 * dayOfYear + 2) / 153) + 2) / 5 + 1).toNat < 40 := by
  omega

theorem ofDays_bounds (n : Int) : (ofDays n).month < 40 ∧ (ofDays n).day < 40 := by
  have hlow : 0 ≤ (n + epochShift) % 146097 := Int.emod_nonneg _ (by decide)
  have hhigh : (n + epochShift) % 146097 < 146097 := Int.emod_lt_of_pos _ (by decide)
  obtain ⟨hyearLow, hyearHigh⟩ := dayOfYear_bounds hlow hhigh rfl
  exact month_day_bounds hyearLow hyearHigh

/-- A date lies within a few years of the start of its year. -/
theorem ordinal_lt {d : Date} (hmonth : d.month < 40) (hday : d.day < 40) : d.ordinal < 3000 := by
  obtain ⟨year, month, day⟩ := d
  simp only at hmonth hday
  have hdays : toDays ⟨year, month, day⟩ - toDays ⟨year, 1, 1⟩ < 2999 := by
    simp only [toDays]
    split
    · omega
    · omega
  show (toDays ⟨year, month, day⟩ - toDays ⟨year, 1, 1⟩ + 1).toNat < 3000
  omega

theorem weekOfYear_lt {d : Date} (hmonth : d.month < 40) (hday : d.day < 40)
    (sinceStart : Nat) : d.weekOfYear sinceStart < 1000 := by
  have := ordinal_lt hmonth hday
  rw [weekOfYear]
  omega

theorem isoWeek_lt (d : Date) : d.isoWeek.2 < 1000 := by
  obtain ⟨hmonth, hday⟩ := ofDays_bounds (d.toDays - (d.daysFromMonday : Int) + 3)
  have := ordinal_lt hmonth hday
  show ((ofDays _).ordinal - 1) / 7 + 1 < 1000
  omega

end Date

namespace Instant

variable (t : Instant) (east : Int)

theorem civil_date : (t.civil east).date.month < 40 ∧ (t.civil east).date.day < 40 :=
  Date.ofDays_bounds _

theorem civil_second_lt : (t.civil east).second < 86400 := by
  have hlow : 0 ≤ (t.seconds + east) % (secondsPerDay : Int) := Int.emod_nonneg _ (by decide)
  have hhigh : (t.seconds + east) % (secondsPerDay : Int) < 86400 :=
    Int.emod_lt_of_pos _ (by decide)
  show ((t.seconds + east) % (secondsPerDay : Int)).toNat < 86400
  omega

theorem civil_hour_lt : (t.civil east).hour < 24 := by
  have := t.civil_second_lt east
  rw [Civil.hour]
  omega

theorem civil_hour12_lt : (t.civil east).hour12 < 13 := by
  rw [Civil.hour12]
  split
  · decide
  · omega

theorem civil_minute_lt : (t.civil east).minute < 60 := by
  rw [Civil.minute]
  omega

/-- Within a leap second the second of the minute is 60 at most. -/
theorem civil_secondOfMinute_lt (h : t.nanos < 2 * nanosPerSecond) :
    (t.civil east).secondOfMinute < 61 := by
  have hnanos : (t.civil east).nanos / nanosPerSecond < 2 := by
    show t.nanos / nanosPerSecond < 2
    exact Nat.div_lt_of_lt_mul (by rwa [Nat.mul_comm])
  rw [Civil.secondOfMinute]
  omega

end Instant

end Hooklog
