import Hooklog.Proofs.Template.RoundTrip
import Mathlib.Data.List.TakeWhile

/-!
# Texts of whole parts

A text of whole literals and placeholders can be joined with any other: no placeholder begins in
it and ends behind it.  A percent sign that starts no placeholder in the text may start one when
more follows, so not every text is whole.

* `scan?_append` says that a placeholder that has been read is read again with more text behind
  it: the reader looks no further than its closing percent sign.
* `IsWhole` texts are joined part by part; literal texts and placeholders are whole.
-/

namespace Hooklog.Template

open Text

/-! ## Spans that end before a percent sign -/

section Spans

variable {q : Char → Bool} {s : List Char} (hq : q '%' = false) (hs : '%' ∈ s)

include hq hs

theorem percent_mem_dropWhile : '%' ∈ s.dropWhile q := by
  rw [← List.takeWhile_append_dropWhile (p := q) (l := s), List.mem_append] at hs
  rcases hs with htake | hdrop
  · have hholds := List.mem_takeWhile_imp htake
    rw [hq] at hholds
    exact absurd hholds Bool.false_ne_true
  · exact hdrop

theorem dropWhile_append_of_percent (more : List Char) :
    (s ++ more).dropWhile q = s.dropWhile q ++ more := by
  have hne := List.ne_nil_of_mem (percent_mem_dropWhile hq hs)
  rw [List.dropWhile_append, if_neg (by simp [hne])]

theorem takeWhile_append_of_percent (more : List Char) :
    (s ++ more).takeWhile q = s.takeWhile q := by
  have hsplit := List.takeWhile_append_dropWhile (p := q) (l := s ++ more)
  rw [dropWhile_append_of_percent hq hs, ← List.append_assoc] at hsplit
  have hfront := List.append_cancel_right hsplit
  exact List.append_cancel_right (hfront.trans List.takeWhile_append_dropWhile.symm)

end Spans

/-! ## Placeholders with more text behind them -/

theorem takeTail?_append {s r : List Char} {a : Option (List Char)}
    (h : takeTail? s = some (a, r)) (more : List Char) :
    takeTail? (s ++ more) = some (a, r ++ more) := by
  unfold takeTail? at h
  split at h
  · obtain ⟨rfl, rfl⟩ := Prod.mk.inj (Option.some.inj h)
    rfl
  · rename_i s
    split at h
    · rename_i rest hdrop
      obtain ⟨rfl, rfl⟩ := Prod.mk.inj (Option.some.inj h)
      have hpercent : '%' ∈ s :=
        (List.dropWhile_sublist isAttributeChar).subset (hdrop ▸ List.mem_cons_self)
      have hstop : isAttributeChar '%' = false := by decide
      rw [List.cons_append, takeTail?, dropWhile_append_of_percent hstop hpercent, hdrop,
        takeWhile_append_of_percent hstop hpercent]
      rfl
    · simp at h
  · simp at h

theorem finish?_append {w l n : Option (List Char)} {s r : List Char} {p : Placeholder}
    (h : finish? w l n s = some (p, r)) (more : List Char) :
    finish? w l n (s ++ more) = some (p, r ++ more) := by
  obtain ⟨⟨a, r'⟩, htail, hpair⟩ := Option.map_eq_some_iff.mp h
  obtain ⟨rfl, rfl⟩ := Prod.mk.inj hpair
  rw [finish?, takeTail?_append htail]
  rfl

/-- A text that starts with no point, and is not empty, still does with more text behind it. -/
theorem append_ne_point {s : List Char} (hs : '%' ∈ s) (h : ∀ rest, s ≠ '.' :: rest)
    (more rest : List Char) : s ++ more ≠ '.' :: rest := by
  cases s with
  | nil => exact absurd hs List.not_mem_nil
  | cons c s =>
      intro heq
      obtain ⟨rfl, -⟩ := List.cons.inj heq
      exact h s rfl

section Parts

variable {s r : List Char} {p : Placeholder} (more : List Char)

theorem afterPoint?_append {w : Option (List Char)} (hs : '%' ∈ s)
    (h : afterPoint? w s = some (p, r)) : afterPoint? w (s ++ more) = some (p, r ++ more) := by
  have hdigit : isDigit '%' = false := by decide
  have hword : isWord '%' = false := by decide
  have hdrop := percent_mem_dropWhile hdigit hs
  unfold afterPoint? at h ⊢
  simp only [takeWhile_append_of_percent hdigit hs, dropWhile_append_of_percent hdigit hs,
    takeWhile_append_of_percent hword hdrop, dropWhile_append_of_percent hword hdrop] at h ⊢
  split at h
  · simp at h
  · rename_i hdigits
    rw [if_neg hdigits]
    split at h
    · exact finish?_append h more
    · simp at h

theorem afterSign?_append (hs : '%' ∈ s) (h : afterSign? s = some (p, r)) :
    afterSign? (s ++ more) = some (p, r ++ more) := by
  have hdigit : isDigit '%' = false := by decide
  have hword : isWord '%' = false := by decide
  have hpercent := percent_mem_dropWhile hdigit hs
  unfold afterSign? at h ⊢
  simp only [takeWhile_append_of_percent hdigit hs, dropWhile_append_of_percent hdigit hs] at h ⊢
  split at h
  · simp at h
  · rename_i hdigits
    rw [if_neg hdigits]
    split at h
    · rename_i rest hdrop
      rw [hdrop] at hpercent ⊢
      exact afterPoint?_append more ((List.mem_cons.mp hpercent).resolve_left (by decide)) h
    · rename_i hpoint
      split
      · rename_i heq
        exact absurd heq (append_ne_point hpercent hpoint more _)
      · rw [takeWhile_append_of_percent hword hpercent, dropWhile_append_of_percent hword hpercent]
        split at h
        · exact finish?_append h more
        · simp at h

theorem afterDigits?_append (hs : '%' ∈ s) (h : afterDigits? s = some (p, r)) :
    afterDigits? (s ++ more) = some (p, r ++ more) := by
  have hdigit : isDigit '%' = false := by decide
  have hword : isWord '%' = false := by decide
  have hpercent := percent_mem_dropWhile hdigit hs
  unfold afterDigits? at h ⊢
  simp only [takeWhile_append_of_percent hdigit hs, dropWhile_append_of_percent hdigit hs] at h ⊢
  split at h
  · rename_i rest hdrop
    rw [hdrop] at hpercent ⊢
    exact afterPoint?_append more ((List.mem_cons.mp hpercent).resolve_left (by decide)) h
  · rename_i hpoint
    split
    · rename_i heq
      exact absurd heq (append_ne_point hpercent hpoint more _)
    · rw [takeWhile_append_of_percent hword hpercent, dropWhile_append_of_percent hword hpercent]
      split at h
      · exact finish?_append h more
      · exact finish?_append h more

/-- A placeholder is read up to its closing percent sign, whatever follows. -/
theorem scan?_append (h : scan? s = some (p, r)) : scan? (s ++ more) = some (p, r ++ more) := by
  have hs : '%' ∈ s := by rw [scan?_source h]; simp
  cases s with
  | nil => exact absurd hs List.not_mem_nil
  | cons c s =>
      have hword : isWord '%' = false := by decide
      rw [List.cons_append]
      rw [scan?] at h ⊢
      split at h
      · rename_i hsign
        rw [if_pos hsign]
        exact afterSign?_append more ((List.mem_cons.mp hs).resolve_left (by simp [hsign])) h
      · rename_i hsign
        rw [if_neg hsign]
        split at h
        · rename_i hpoint
          rw [if_pos hpoint]
          exact afterPoint?_append more ((List.mem_cons.mp hs).resolve_left (by simp [hpoint])) h
        · rename_i hpoint
          rw [if_neg hpoint]
          split at h
          · rename_i hnumber
            rw [if_pos hnumber]
            exact afterDigits?_append more hs h
          · rename_i hnumber
            rw [if_neg hnumber]
            split at h
            · rename_i hname
              rw [if_pos hname, ← List.cons_append, takeWhile_append_of_percent hword hs,
                dropWhile_append_of_percent hword hs]
              exact finish?_append h more
            · rename_i hname
              rw [if_neg hname]
              exact finish?_append h more

end Parts

/-! ## Whole texts -/

/-- A text is whole if nothing that follows it is read together with a part of it. -/
def IsWhole (s : List Char) : Prop := ∀ more, segments (s ++ more) = segments s ++ segments more

theorem IsWhole.append {s t : List Char} (hs : IsWhole s) (ht : IsWhole t) :
    IsWhole (s ++ t) := by
  intro more
  rw [List.append_assoc, hs, ht, hs, List.append_assoc]

/-- Literal text is whole. -/
theorem isWhole_of_notMem {s : List Char} (h : '%' ∉ s) : IsWhole s := by
  intro more
  have hself := segments_append_of_notMem h []
  rw [List.append_nil, segments_nil, List.append_nil] at hself
  rw [segments_append_of_notMem h, hself]

/-- A text without parts is empty. -/
theorem eq_nil_of_segments {s : List Char} (h : segments s = []) : s = [] := by
  rw [← flatMap_source_segments s, h]
  rfl

/-- A placeholder is whole. -/
theorem isWhole_of_segments {s : List Char} {p : Placeholder}
    (h : segments s = [.placeholder p]) : IsWhole s := by
  intro more
  -- the text is its only part, so the placeholder is read to its end
  have hsource : s = '%' :: (p.body ++ ['%']) := by
    rw [← flatMap_source_segments s, h]
    simp [Segment.source]
  rw [hsource] at h ⊢
  cases hscan : scan? (p.body ++ ['%']) with
  | none =>
      rw [segments_percent_of_none hscan] at h
      simp at h
  | some found =>
      obtain ⟨q, rest⟩ := found
      rw [segments_percent_of_some hscan] at h
      obtain ⟨-, hrest⟩ := List.cons.inj h
      have hmore := scan?_append more hscan
      rw [List.cons_append, segments_percent_of_some hmore, segments_percent_of_some hscan, hrest,
        eq_nil_of_segments hrest]
      rfl

end Hooklog.Template
