import Hooklog.Duration.Format
import Hooklog.Entry
import Hooklog.Proofs.Sgr.Plain

/-!
# Plain values

Numbers, durations and levels are written in plain text.  Callers and fields are written in the
characters of the names and texts in them and in plain ones.
-/

namespace Hooklog.Sgr

open Decimal

/-! ## Numbers with a fraction -/

theorem plainText_positionalText (l : Layout) (d : Digits) : PlainText (l.positionalText d) := by
  have hdigits := plainText_digitsOf d.value
  unfold Layout.positionalText
  split
  · simp only [plainText_append]
    exact ⟨⟨hdigits, plainText_replicate (by decide)⟩, by split <;> decide⟩
  · dsimp only
    split
    · exact plainText_append.mpr
        ⟨hdigits.take _, plainText_cons.mpr ⟨by decide, hdigits.drop _⟩⟩
    · simp only [plainText_append]
      exact ⟨⟨by decide, plainText_replicate (by decide)⟩, hdigits⟩

/-- Numbers in running text are plain, whatever their size. -/
theorem plain_plainText (x : Binary64) : Plain (plainText x) := by
  unfold plainText
  split
  · decide
  · split
    · have hpositive : PlainText (plain.positiveText x) := plainText_positionalText _ _
      refine plain_ofList.mpr (plainText_append.mpr ⟨by split <;> decide, ?_⟩)
      split
      · decide
      · exact hpositive
    · split <;> decide

/-! ## Durations -/

theorem plain_units : ∀ u ∈ Duration.units, Plain u.short ∧ Plain u.long := by decide

theorem mem_units_of_mem_amounts {style : DurationStyle} {n : Int}
    {units : List Duration.TimeUnit} {p : Binary64 × Duration.TimeUnit}
    (h : p ∈ Duration.amounts style n units) : p.2 ∈ units := by
  induction units generalizing n with
  | nil => simp [Duration.amounts] at h
  | cons u rest ih =>
      rw [Duration.amounts] at h
      split at h
      · exact List.mem_cons_of_mem u (ih h)
      · split at h
        · rcases List.mem_cons.mp h with rfl | h
          · exact List.mem_cons_self
          · exact List.mem_cons_of_mem u (ih h)
        · rcases List.mem_cons.mp h with rfl | h
          · exact List.mem_cons_self
          · exact List.mem_cons_of_mem u (ih h)

theorem plain_shortText {p : Binary64 × Duration.TimeUnit} (h : p.2 ∈ Duration.units) :
    Plain (Duration.shortText p) :=
  plain_append.mpr ⟨plain_plainText p.1, (plain_units p.2 h).1⟩

theorem plain_longText {p : Binary64 × Duration.TimeUnit} (h : p.2 ∈ Duration.units) :
    Plain (Duration.longText p) := by
  simp only [Duration.longText, plain_append]
  exact ⟨⟨⟨plain_plainText p.1, by decide⟩, (plain_units p.2 h).2⟩, by split <;> decide⟩

theorem plain_unsignedText (style : DurationStyle) (long : Bool) (n : Int) :
    Plain (Duration.unsignedText style long n) := by
  unfold Duration.unsignedText
  dsimp only
  split
  · split
    · decide
    · refine plain_joinWith (by decide) fun t ht => ?_
      obtain ⟨p, hp, rfl⟩ := List.mem_map.mp ht
      exact plain_longText (mem_units_of_mem_amounts hp)
  · split
    · decide
    · refine plain_joinWith (by decide) fun t ht => ?_
      obtain ⟨p, hp, rfl⟩ := List.mem_map.mp ht
      exact plain_shortText (mem_units_of_mem_amounts hp)

/-- Durations are plain in every format. -/
theorem plain_durationFormat (f : DurationFormat) (d : Int) : Plain (f.format d) := by
  unfold DurationFormat.format
  dsimp only
  split
  · exact plain_append.mpr ⟨by decide, plain_unsignedText _ _ _⟩
  · exact plain_unsignedText _ _ _

/-! ## Levels, callers and fields -/

theorem plain_levelText (l : Level) : Plain l.text := by
  have hnames : ∀ p ∈ Level.names, Plain p.1 := by decide
  unfold Level.text
  split
  · rename_i name hname
    obtain ⟨p, hp, rfl⟩ := Option.map_eq_some_iff.mp hname
    exact hnames p (List.mem_of_find?_eq_some hp)
  · simp only [plain_append]
    exact ⟨⟨by decide, plain_naturalText _⟩, by decide⟩

section Kinds

variable {P : Char → Prop} (hP : ∀ c, IsPlain c → P c)

include hP

/-- A caller is written in the characters of its names and plain ones. -/
theorem madeOf_callerText {c : Caller} (hfunction : MadeOf P c.function)
    (hfile : MadeOf P c.file) : MadeOf P c.text := by
  have hcolon : MadeOf P ":" := madeOf_of_plain hP (by decide)
  have hplace : MadeOf P c.place :=
    madeOf_append.mpr ⟨madeOf_append.mpr ⟨hfile, hcolon⟩,
      madeOf_of_plain hP (plain_naturalText c.line)⟩
  unfold Caller.text
  split
  · exact hfunction
  · split
    · exact hplace
    · exact madeOf_append.mpr
        ⟨madeOf_append.mpr ⟨hfunction, madeOf_of_plain hP (by decide)⟩, hplace⟩

/-- A value is written in the characters of its text, if it is one, and in plain ones. -/
theorem madeOf_toText {value : FieldValue} (h : ∀ s, value = .text s → MadeOf P s) :
    MadeOf P value.toText := by
  cases value with
  | text s => exact h s rfl
  | int n => exact madeOf_of_plain hP (plain_integerText _)
  | float x => exact madeOf_of_plain hP (plain_plainText x)
  | bool b => cases b <;> exact madeOf_of_plain hP (by decide)
  | null => exact madeOf_of_plain hP (by decide)

end Kinds

end Hooklog.Sgr
