import Hooklog.Proofs.Decimal.Positive
import Hooklog.Proofs.Duration.Reading
import Hooklog.Proofs.Sgr.PlainValues

/-!
# Durations that are not zero

No format writes a duration that is not zero as no time.  Rounding by magnitude leaves it above
zero, a unit of it is written, and the amount of the first such unit is a positive number: a
whole one, or a duration of at most a minute over a unit that is not longer.

* `isNormal_of_mem_amounts` says that every amount is a positive number.
* `exists_unsignedText` splits the text after the number that it starts with.
* `format_ne_zeroText` is the main statement, and `format_ne_less` says besides that no text
  starts with the sign of being less than something.
-/

namespace Hooklog

open Decimal

namespace Duration

/-! ## Amounts -/

/-- A whole number of a unit, or a duration of up to a minute over a shorter unit, is a positive
number. -/
theorem isNormal_of_mem_amounts {style : DurationStyle} {us : List TimeUnit}
    (hus : ∀ u ∈ us, u.Fits) {n : Int} (hn : 0 ≤ n) (hmax : n ≤ largest)
    {p : Binary64 × TimeUnit} (hp : p ∈ amounts style n us) : p.1.IsNormal := by
  have hlargest := largest_eq
  induction us generalizing n with
  | nil => exact absurd hp List.not_mem_nil
  | cons u rest ih =>
      obtain ⟨⟨hpos, hlength⟩, hrest⟩ := List.forall_mem_cons.mp hus
      have hr := emod_bounds hpos n
      rw [amounts] at hp
      split at hp
      · exact ih hrest hn hmax hp
      · rename_i hused
        have hleast : u.least ≤ n := by
          rw [Bool.or_eq_true, not_or, decide_eq_true_eq] at hused
          omega
        split at hp
        · have hremainder : n - n / u.length * u.length = n % u.length := by
            rw [Int.emod_def, Int.mul_comm]
          rw [hremainder] at hp
          rcases List.mem_cons.mp hp with rfl | hp
          · have hquotient : 1 ≤ n / u.length := (Int.le_ediv_iff_mul_le hpos).mpr (by omega)
            have hle : n / u.length ≤ n := Int.ediv_le_self _ hn
            obtain ⟨k, hk⟩ := Int.eq_ofNat_of_zero_le (a := n / u.length) (by omega)
            dsimp only
            rw [hk] at hquotient hle ⊢
            exact isNormal_ofInt (by omega) (by omega)
          · exact ih hrest hr.1 (by omega) hp
        · rename_i hsmall
          rcases List.mem_cons.mp hp with rfl | hp
          · have hminute : style.wholeAbove ≤ 60000000000 := by cases style <;> decide
            obtain ⟨k, rfl⟩ := Int.eq_ofNat_of_zero_le hn
            obtain ⟨l, hl⟩ := Int.eq_ofNat_of_zero_le (Int.le_of_lt hpos)
            dsimp only
            rw [hl] at hpos hlength ⊢
            exact isNormal_div ⟨by omega, by omega⟩ ⟨by omega, by omega⟩ (by omega)
          · exact ih hrest (Int.le_refl 0) (by omega) hp

/-- A duration from the least one of a unit up is written with some unit. -/
theorem amounts_ne_nil {style : DurationStyle} {us : List TimeUnit} {u : TimeUnit} {n : Int}
    (hu : u ∈ us) (huses : style.uses u = true) (hle : u.least ≤ n) :
    amounts style n us ≠ [] := by
  induction us with
  | nil => exact absurd hu List.not_mem_nil
  | cons w rest ih =>
      rw [amounts]
      split
      · rename_i hskipped
        rcases List.mem_cons.mp hu with rfl | hu
        · rw [huses, Bool.not_true, Bool.false_or, decide_eq_true_eq] at hskipped
          exact absurd hle (Int.not_le.mpr hskipped)
        · exact ih hu
      · split <;> exact List.cons_ne_nil _ _

/-- The name of a unit does not go on with a number. -/
theorem head_short_units :
    ∀ u ∈ units, ∃ c t, u.short.toList = c :: t ∧ isNumberChar c = false := by
  have hheads : ∀ u ∈ units, u.short.toList.head?.any (fun c => !isNumberChar c) = true := by
    decide
  intro u hu
  have hhead := hheads u hu
  cases hshort : u.short.toList with
  | nil =>
      rw [hshort] at hhead
      exact absurd hhead Bool.false_ne_true
  | cons c t =>
      rw [hshort] at hhead
      exact ⟨c, t, rfl, by simpa using hhead⟩

/-! ## Texts -/

/-- The text of a positive duration starts with a positive number, which is followed by something
else. -/
theorem exists_unsignedText (style : DurationStyle) (long : Bool) {n : Int} (hn : 0 < n)
    (hmax : n ≤ largest) :
    ∃ d c t, 0 < d.value ∧ isNumberChar c = false ∧
      (unsignedText style long n).toList = plain.positionalText d ++ c :: t := by
  have hnanosecond : (⟨1, 1, "ns", "nanosecond"⟩ : TimeUnit) ∈ units := by decide
  have huses : style.uses ⟨1, 1, "ns", "nanosecond"⟩ = true := by cases style <;> decide
  cases hamounts : amounts style n units with
  | nil => exact absurd hamounts (amounts_ne_nil hnanosecond huses hn)
  | cons p rest =>
      have hp : p ∈ amounts style n units := hamounts ▸ List.mem_cons_self
      have hnormal := isNormal_of_mem_amounts scale_units.fits (Int.le_of_lt hn) hmax hp
      have hnumber := plainText_of_isNormal hnormal
      have hvalue := value_shortest_pos hnormal .up
      unfold unsignedText
      dsimp only
      rw [hamounts, List.isEmpty_cons, if_neg Bool.false_ne_true, if_neg Bool.false_ne_true,
        List.map_cons, List.map_cons]
      cases long with
      | true =>
          obtain ⟨t, ht⟩ := exists_toList_joinWith_cons " " (longText p) (rest.map longText)
          rw [if_pos rfl, ht, longText, hnumber]
          exact ⟨_, ' ', _, hvalue, by decide, by
            simp only [String.toList_append, String.toList_ofList, List.append_assoc]
            rfl⟩
      | false =>
          obtain ⟨c, name, hname, hc⟩ :=
            head_short_units p.2 (Sgr.mem_units_of_mem_amounts hp)
          obtain ⟨t, ht⟩ := exists_toList_joinWith_cons "" (shortText p) (rest.map shortText)
          rw [if_neg Bool.false_ne_true, ht, shortText, hnumber]
          exact ⟨_, c, _, hvalue, hc, by
            simp only [String.toList_append, String.toList_ofList, hname, List.append_assoc]
            rfl⟩

/-- The number that a text starts with is not zero, but that of no time is. -/
theorem unsignedText_ne_zeroText (style : DurationStyle) (long long' : Bool) {n : Int}
    (hn : 0 < n) (hmax : n ≤ largest) : unsignedText style long n ≠ zeroText long' := by
  obtain ⟨d, c, t, hvalue, hc, htext⟩ := exists_unsignedText style long hn hmax
  have hnumber : (unsignedText style long n).toList.takeWhile isNumberChar =
      plain.positionalText d := by
    rw [htext, List.takeWhile_append_of_pos fun _ => isNumberChar_of_mem_positionalText,
      List.takeWhile_cons_of_neg (by rw [hc]; exact Bool.false_ne_true), List.append_nil]
  have hzero : (zeroText long').toList.takeWhile isNumberChar = ['0'] := by
    cases long' <;> decide
  intro heq
  rw [heq, hzero] at hnumber
  exact positionalText_ne_zero hvalue hnumber.symm

/-- The text of no time starts with a zero. -/
theorem ne_zeroText_of_head {s : String} {c : Char} (hs : s.toList.head? = some c)
    (hc : c ≠ '0') (long : Bool) : s ≠ zeroText long := by
  rintro rfl
  have hzero : (zeroText long).toList.head? = some '0' := by cases long <;> decide
  rw [hzero] at hs
  exact hc (Option.some.inj hs).symm

theorem roundSuited_pos {n : Int} (hn : 0 < n) (hmax : n ≤ largest) : 0 < roundSuited n := by
  have hone : roundIn buckets 1 = 1 := by decide
  have hmonotone := roundIn_monotone ladder_buckets (n := 1) hn hmax
  rw [roundSuited_eq_roundIn (Int.le_of_lt hn) hmax]
  omega

end Duration

namespace DurationFormat

open Duration

variable (f : DurationFormat)

/-- Magnitude that is written for a positive duration. -/
theorem exists_magnitudeText {n : Int} (hn : 0 < n) (hmax : n ≤ largest) :
    ∃ k, 0 < k ∧ k ≤ largest ∧ f.magnitudeText n = unsignedText f.style f.long k := by
  unfold magnitudeText
  split
  · refine ⟨_, roundSuited_pos hn hmax, ?_, rfl⟩
    rw [roundSuited_eq_roundIn (Int.le_of_lt hn) hmax]
    exact roundIn_le_largest hmax
  · exact ⟨n, hn, hmax, rfl⟩

theorem format_of_pos {d : Int} (hd : 0 < d) : f.format d = f.magnitudeText (min d largest) := by
  have hlargest := largest_eq
  have hsaturate : saturate d = min d largest := clamp_eq_min (Int.le_of_lt hd)
  unfold format
  dsimp only
  rw [hsaturate, if_neg (by omega)]

/-- A duration before zero is written as the opposite one behind a sign. -/
theorem format_neg {d : Int} (hd : 0 < d) : f.format (-d) = "-" ++ f.format d := by
  have hlargest := largest_eq
  have hsaturate := saturate_eq (-d)
  have hopposite : opposite (saturate (-d)) = min d largest := by
    rw [opposite, clamp_eq_min (by omega)]
    omega
  rw [f.format_of_pos hd]
  unfold format
  dsimp only
  rw [if_pos (by omega), hopposite]

theorem format_pos_ne_zeroText {d : Int} (hd : 0 < d) (long : Bool) :
    f.format d ≠ zeroText long := by
  have hlargest := largest_eq
  obtain ⟨k, hk, hmax, htext⟩ := f.exists_magnitudeText (n := min d largest) (by omega) (by omega)
  rw [f.format_of_pos hd, htext]
  exact unsignedText_ne_zeroText _ _ long hk hmax

/-- The text of a positive duration starts with a digit or a point. -/
theorem exists_format_pos {d : Int} (hd : 0 < d) :
    ∃ c t, (f.format d).toList = c :: t ∧ isNumberChar c = true := by
  have hlargest := largest_eq
  obtain ⟨k, hk, hmax, htext⟩ := f.exists_magnitudeText (n := min d largest) (by omega) (by omega)
  obtain ⟨digits, c, t, -, -, hnumber⟩ := exists_unsignedText f.style f.long hk hmax
  obtain ⟨first, more, hfirst⟩ := List.exists_cons_of_ne_nil (positionalText_ne_nil digits)
  have hchar := isNumberChar_of_mem_positionalText (d := digits) (hfirst ▸ List.mem_cons_self)
  rw [f.format_of_pos hd, htext, hnumber, hfirst]
  exact ⟨first, _, rfl, hchar⟩

/-- No time is written as less than something. -/
theorem format_ne_less {d : Int} (hd : d ≠ 0) (s : String) : f.format d ≠ "<" ++ s := by
  intro heq
  have hchars : (f.format d).toList = '<' :: s.toList := by rw [heq, String.toList_append]; rfl
  rcases Int.lt_or_gt_of_ne hd with hneg | hpos
  · have hsign := f.format_neg (d := -d) (by omega)
    rw [Int.neg_neg] at hsign
    rw [hsign, String.toList_append] at hchars
    exact absurd (List.cons_eq_cons.mp hchars).1 (by decide)
  · obtain ⟨c, t, htext, hc⟩ := f.exists_format_pos hpos
    rw [htext] at hchars
    rw [(List.cons_eq_cons.mp hchars).1] at hc
    exact absurd hc (by decide)

/-- A duration that is not zero is not written as no time, in no format. -/
theorem format_ne_zeroText {d : Int} (hd : d ≠ 0) (long : Bool) : f.format d ≠ zeroText long := by
  rcases Int.lt_or_gt_of_ne hd with hneg | hpos
  · have hsign := f.format_neg (d := -d) (by omega)
    rw [Int.neg_neg] at hsign
    rw [hsign]
    exact ne_zeroText_of_head (by rw [String.toList_append]; rfl) (by decide : '-' ≠ '0') long
  · exact f.format_pos_ne_zeroText hpos long

end DurationFormat

end Hooklog
