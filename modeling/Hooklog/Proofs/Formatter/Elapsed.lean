import Hooklog.Formatter.Line
import Hooklog.Proofs.Duration.Multiples
import Hooklog.Proofs.Duration.Nonzero
import Hooklog.Proofs.Formatter.Interpretation

/-!
# Elapsed times

The value of a field that shows the time since an instant.  The time is rounded to the multiple
of the precision nearest to it; one that rounds to nothing is shown as less than the precision.
So no value says that no time has passed, whatever the format of durations rounds off besides.

* `originOf?` is the instant from which a token counts, and `chosenPrecision` the precision that
  the options and the settings ask for.
* `elapsed_never_zero` is the main statement.
-/

namespace Hooklog.Line

open Decimal Template Duration

/-- Instant from which a token counts the time that has passed. -/
def originOf? (v : View) : Token → Option Instant
  | .delta => some v.last
  | .delay => some v.baseTime
  | .globalDelay => some v.settings.globalTime.value
  | _ => none

/-- Precision of the formatter unless it is absent or zero, else that of the process. -/
def chosenPrecision (v : View) : Nat :=
  (v.options.precision.filter (· ≠ 0)).getD v.settings.precision.value

/-- A precision of up to half the longest duration is in force as it is. -/
theorem precision_eq {v : View} (h : chosenPrecision v ≤ 2 ^ 62) :
    precision v = chosenPrecision v := by
  have hlimit : 2 ^ 62 ≤ (Nat.pow 2 63 - 1) * 1000000 := by decide
  unfold chosenPrecision at h ⊢
  unfold precision
  generalize v.options.precision = chosen at h ⊢
  cases chosen with
  | none => exact if_pos (Nat.le_trans h hlimit)
  | some p =>
      dsimp only
      by_cases hp : p = 0
      · rw [if_pos hp]
        have hdropped : (some p).filter (· ≠ 0) = none := by rw [hp]; rfl
        rw [hdropped, Option.getD_none] at h ⊢
        exact if_pos (Nat.le_trans h hlimit)
      · rw [if_neg hp]
        have hkept : (some p).filter (· ≠ 0) = some p :=
          Option.filter_some_pos (decide_eq_true hp)
        rw [hkept, Option.getD_some] at h ⊢
        exact if_pos (Nat.le_trans h hlimit)

theorem valueOf_of_origin {v : View} {e : Entry} {spec : FieldSpec} {origin : Instant}
    (h : originOf? v spec.token = some origin) :
    valueOf v e spec = .ok (elapsed v e.time origin, true) := by
  unfold originOf? at h
  split at h
  · rename_i htoken
    rw [valueOf, htoken, ← Option.some.inj h]
  · rename_i htoken
    rw [valueOf, htoken, ← Option.some.inj h]
  · rename_i htoken
    rw [valueOf, htoken, ← Option.some.inj h]
  · exact absurd h.symm (Option.some_ne_none origin)

theorem elapsed_eq {v : View} (hdefault : v.options.durationText = none)
    (hmax : chosenPrecision v ≤ 2 ^ 62) (t origin : Instant) :
    elapsed v t origin =
      if roundTo (t.since origin) (chosenPrecision v) = 0 then
        "<" ++ v.settings.durationFormat.value.format (chosenPrecision v)
      else v.settings.durationFormat.value.format
        (roundTo (t.since origin) (chosenPrecision v)) := by
  have htext : ∀ d, durationText v d = v.settings.durationFormat.value.format d := by
    intro d
    unfold durationText
    rw [hdefault]
  unfold elapsed
  dsimp only
  rw [precision_eq hmax, htext, htext]

/-- The value of a field that shows the time since an instant, when durations have no text of
their own and the precision is from one nanosecond to half the longest duration.  It says that
less than the precision has passed exactly when twice the time is less; any other time is shown
as the multiple of the precision nearest to it, halfway times going away from zero, behind a sign
if it is before the instant.  It is never the text of no time. -/
theorem elapsed_never_zero {v : View} (hdefault : v.options.durationText = none)
    (hpos : 0 < chosenPrecision v) (hmax : chosenPrecision v ≤ 2 ^ 62) (e : Entry)
    {spec : FieldSpec} {origin : Instant} (horigin : originOf? v spec.token = some origin) :
    ∃ text, valueOf v e spec = .ok (text, true) ∧
      (text = "<" ++ v.settings.durationFormat.value.format (chosenPrecision v) ↔
        2 * (e.time.since origin).natAbs < chosenPrecision v) ∧
      (chosenPrecision v ≤ 2 * (e.time.since origin).natAbs →
        ∃ m, IsNearest (chosenPrecision v) (saturate (e.time.since origin)) m ∧
          text = v.settings.durationFormat.value.format (signed64.clamp m) ∧
          (e.time.since origin < 0 →
            text = "-" ++ v.settings.durationFormat.value.format (-signed64.clamp m))) ∧
      text ≠ "0s" ∧ text ≠ "0 second" := by
  have hp : (0 : Int) < chosenPrecision v := by omega
  have hhalf : 2 * (chosenPrecision v : Int) ≤ largest + 1 := by
    have hlargest := largest_eq
    omega
  have hvalue := valueOf_of_origin (e := e) horigin
  have htext := elapsed_eq hdefault hmax e.time origin
  have hzero := roundTo_eq_zero_iff (d := e.time.since origin) hp hhalf
  generalize e.time.since origin = d at *
  refine ⟨_, hvalue, ?_⟩
  rw [htext]
  -- nothing is left of a time of less than half the precision, and of no other
  by_cases hnothing : roundTo d (chosenPrecision v) = 0
  · rw [if_pos hnothing]
    have hshort := hzero.mp hnothing
    have hless : ("<" ++ v.settings.durationFormat.value.format
        (chosenPrecision v)).toList.head? = some '<' := by rw [String.toList_append]; rfl
    exact ⟨⟨fun _ => by omega, fun _ => rfl⟩, fun hlong => absurd hlong (by omega),
      ne_zeroText_of_head hless (by decide) false, ne_zeroText_of_head hless (by decide) true⟩
  · rw [if_neg hnothing]
    have hround := roundTo_eq_clamp (d := d) hp hhalf
    refine ⟨⟨fun heq => absurd heq (DurationFormat.format_ne_less _ hnothing _), fun h => ?_⟩,
      fun _ => ⟨_, isNearest_nearestAway hp (saturate d), congrArg _ hround, fun hneg => ?_⟩,
      DurationFormat.format_ne_zeroText _ hnothing false,
      DurationFormat.format_ne_zeroText _ hnothing true⟩
    · exact absurd (hzero.mpr (by omega)) hnothing
    · have hbefore := roundTo_nonpos hp hhalf hneg
      rw [← hround]
      have hsign := DurationFormat.format_neg v.settings.durationFormat.value
        (d := -roundTo d (chosenPrecision v)) (by omega)
      rwa [Int.neg_neg] at hsign

/-- A view that shows durations in whole seconds. -/
def secondsView : View where
  __ := plainView
  options := { RenderOptions.standard with precision := some 1000000000 }

/-- Entry of half a second before the start of a day. -/
def earlyEntry : Entry where
  __ := plainEntry
  time := ⟨-1, 500000000⟩

/-- Half a second before the instant is shown as one second before it. -/
theorem elapsed_never_zero_before_origin :
    secondsView.options.durationText = none ∧ 0 < chosenPrecision secondsView ∧
      chosenPrecision secondsView ≤ 2 ^ 62 ∧
      originOf? secondsView Token.delay = some secondsView.baseTime ∧
      valueOf secondsView earlyEntry (.plain .delay false) = .ok ("-1s", true) := by
  have hdefault : secondsView.options.durationText = none := rfl
  have hpos : 0 < chosenPrecision secondsView := by decide
  have hmax : chosenPrecision secondsView ≤ 2 ^ 62 := by decide
  have horigin : originOf? secondsView (FieldSpec.plain .delay false).token =
      some secondsView.baseTime := rfl
  obtain ⟨text, hvalue, -, hrounded, -, -⟩ :=
    elapsed_never_zero hdefault hpos hmax earlyEntry horigin
  obtain ⟨m, hm, htext, -⟩ := hrounded (by decide)
  have hsecond : IsNearest 1000000000 (-500000000) (-1000000000) :=
    isNearest_nearestAway (by decide) _
  have hwritten : secondsView.settings.durationFormat.value.format
      (signed64.clamp (-1000000000)) = "-1s" := by decide +kernel
  rw [hm.unique hsecond, hwritten] at htext
  exact ⟨hdefault, hpos, hmax, horigin, by rw [hvalue, htext]⟩

end Hooklog.Line
