import Hooklog.Template.Placeholder

/-!
# Sources of templates

The parts of a template with their percent signs, points and colons are the template: the
reader of placeholders drops nothing and moves nothing.
-/

namespace Hooklog.Template

open Text

/-- A limit as it is written. -/
def limitSource : Option (List Char) → List Char
  | some limit => '.' :: limit
  | none => []

/-- Attributes as they are written. -/
def attributesSource : Option (List Char) → List Char
  | some attributes => ':' :: attributes
  | none => []

/-- What a placeholder was read from, up to its closing percent sign. -/
def Placeholder.body (p : Placeholder) : List Char :=
  p.width.getD [] ++ limitSource p.limit ++ p.name.getD [] ++ attributesSource p.attributes

/-- What a segment was read from. -/
def Segment.source : Segment → List Char
  | .literal c => [c]
  | .placeholder p => '%' :: p.body ++ ['%']

/-! ## Reading a placeholder -/

theorem takeTail?_source {s r : List Char} {a : Option (List Char)}
    (h : takeTail? s = some (a, r)) : s = attributesSource a ++ '%' :: r := by
  unfold takeTail? at h
  split at h
  · obtain ⟨rfl, rfl⟩ := Prod.mk.inj (Option.some.inj h)
    rfl
  · rename_i s
    split at h
    · rename_i rest hdrop
      obtain ⟨rfl, rfl⟩ := Prod.mk.inj (Option.some.inj h)
      have hsplit := List.takeWhile_append_dropWhile (p := isAttributeChar) (l := s)
      rw [hdrop] at hsplit
      rw [attributesSource, List.cons_append, hsplit]
    · simp at h
  · simp at h

theorem finish?_source {w l n : Option (List Char)} {s r : List Char} {p : Placeholder}
    (h : finish? w l n s = some (p, r)) :
    w.getD [] ++ limitSource l ++ n.getD [] ++ s = p.body ++ '%' :: r := by
  obtain ⟨⟨a, r'⟩, htail, hpair⟩ := Option.map_eq_some_iff.mp h
  obtain ⟨rfl, rfl⟩ := Prod.mk.inj hpair
  rw [Placeholder.body, List.append_assoc _ (attributesSource a), ← takeTail?_source htail]

/-- Digits and the word after them are cut at another place, if at all. -/
theorem splitName?_append {digits word number name : List Char}
    (h : splitName? digits word = some (number, name)) : number ++ name = digits ++ word := by
  unfold splitName? at h
  split at h
  · obtain ⟨rfl, rfl⟩ := Prod.mk.inj (Option.some.inj h)
    rfl
  · rename_i hword
    split at h
    · obtain ⟨rfl, rfl⟩ := Prod.mk.inj (Option.some.inj h)
      rw [List.dropLast_eq_take, List.take_append_drop, Decidable.not_not.mp hword, List.append_nil]
    · simp at h

theorem afterPoint?_source {w : Option (List Char)} {s r : List Char} {p : Placeholder}
    (h : afterPoint? w s = some (p, r)) :
    w.getD [] ++ '.' :: s = p.body ++ '%' :: r := by
  unfold afterPoint? at h
  simp only at h
  split at h
  · simp at h
  · split at h
    · rename_i limit name hsplit
      rw [← finish?_source h]
      have hname := splitName?_append hsplit
      have hword : s = limit ++ name ++ (s.dropWhile isDigit).dropWhile isWord := by
        rw [hname, List.append_assoc, List.takeWhile_append_dropWhile,
          List.takeWhile_append_dropWhile]
      simp only [limitSource, Option.getD_some, List.append_assoc, List.cons_append]
      rw [← List.append_assoc limit name, ← hword]
    · simp at h

/-- Digits with the word after them, and the rest. -/
theorem word_after_digits (s : List Char) :
    s.takeWhile isDigit ++ (s.dropWhile isDigit).takeWhile isWord
      ++ (s.dropWhile isDigit).dropWhile isWord = s := by
  rw [List.append_assoc, List.takeWhile_append_dropWhile, List.takeWhile_append_dropWhile]

theorem afterSign?_source {s r : List Char} {p : Placeholder}
    (h : afterSign? s = some (p, r)) : '-' :: s = p.body ++ '%' :: r := by
  unfold afterSign? at h
  simp only at h
  split at h
  · simp at h
  · split at h
    · rename_i rest hdrop
      rw [← afterPoint?_source h]
      have hdigits := List.takeWhile_append_dropWhile (p := isDigit) (l := s)
      rw [hdrop] at hdigits
      rw [Option.getD_some, List.cons_append, hdigits]
    · split at h
      · rename_i width name hsplit
        rw [← finish?_source h]
        have hword := word_after_digits s
        rw [← splitName?_append hsplit] at hword
        simp only [limitSource, Option.getD_some, List.cons_append, List.append_nil]
        rw [hword]
      · simp at h

theorem afterDigits?_source {s r : List Char} {p : Placeholder}
    (h : afterDigits? s = some (p, r)) : s = p.body ++ '%' :: r := by
  unfold afterDigits? at h
  simp only at h
  split at h
  · rename_i rest hdrop
    rw [← afterPoint?_source h]
    have hdigits := List.takeWhile_append_dropWhile (p := isDigit) (l := s)
    rw [hdrop] at hdigits
    exact hdigits.symm
  · have hword := word_after_digits s
    split at h
    · rename_i width name hsplit
      rw [← finish?_source h]
      rw [← splitName?_append hsplit] at hword
      simp only [limitSource, Option.getD_some, List.append_nil]
      exact hword.symm
    · rename_i hsplit
      -- with a word behind the digits they would have been split
      have hempty : (s.dropWhile isDigit).takeWhile isWord = [] := by
        by_cases hnone : (s.dropWhile isDigit).takeWhile isWord = []
        · exact hnone
        · rw [splitName?, if_pos hnone] at hsplit
          exact absurd hsplit (Option.some_ne_none _)
      rw [← finish?_source h]
      rw [hempty, List.append_nil] at hword
      simp only [limitSource, Option.getD_none, Option.getD_some, List.nil_append]
      exact hword.symm

theorem scan?_source {s r : List Char} {p : Placeholder} (h : scan? s = some (p, r)) :
    s = p.body ++ '%' :: r := by
  cases s with
  | nil => simp [scan?] at h
  | cons c s =>
      rw [scan?] at h
      split at h
      · rename_i hsign
        rw [hsign]
        exact afterSign?_source h
      · split at h
        · rename_i hpoint
          rw [hpoint]
          exact afterPoint?_source h
        · split at h
          · exact afterDigits?_source h
          · split at h
            · rw [← finish?_source h]
              simp only [limitSource, Option.getD_none, Option.getD_some, List.nil_append,
                List.takeWhile_append_dropWhile]
            · rw [← finish?_source h]
              rfl

/-! ## Reading a template -/

theorem segments_nil : segments [] = [] := by rw [segments]

theorem segments_cons_of_ne {c : Char} (h : c ≠ '%') (s : List Char) :
    segments (c :: s) = .literal c :: segments s := by
  rw [segments, if_neg h]

theorem segments_percent_of_some {s rest : List Char} {p : Placeholder}
    (h : scan? s = some (p, rest)) : segments ('%' :: s) = .placeholder p :: segments rest := by
  rw [segments, if_pos rfl]
  split
  · rename_i hfound
    rw [h] at hfound
    obtain ⟨rfl, rfl⟩ := Prod.mk.inj (Option.some.inj hfound)
    rfl
  · rename_i hfound
    rw [h] at hfound
    exact absurd hfound (Option.some_ne_none _)

theorem segments_percent_of_none {s : List Char} (h : scan? s = none) :
    segments ('%' :: s) = .literal '%' :: segments s := by
  rw [segments, if_pos rfl]
  split
  · rename_i hfound
    rw [h] at hfound
    exact absurd hfound.symm (Option.some_ne_none _)
  · rfl

/-- Induction along the parts of a template. -/
@[elab_as_elim]
theorem segmentInduction {motive : List Char → Prop} (s : List Char) (nil : motive [])
    (literal : ∀ c s, segments (c :: s) = .literal c :: segments s → motive s →
      motive (c :: s))
    (placeholder : ∀ s p rest, scan? s = some (p, rest) → motive rest → motive ('%' :: s)) :
    motive s := by
  cases s with
  | nil => exact nil
  | cons c s =>
      by_cases hc : c = '%'
      · subst hc
        cases hscan : scan? s with
        | none =>
            exact literal '%' s (segments_percent_of_none hscan)
              (segmentInduction s nil literal placeholder)
        | some found =>
            have hshorter := length_scan? hscan
            exact placeholder s found.1 found.2 hscan
              (segmentInduction found.2 nil literal placeholder)
      · exact literal c s (segments_cons_of_ne hc s) (segmentInduction s nil literal placeholder)
termination_by s.length
decreasing_by
  all_goals simp only [List.length_cons]
  all_goals omega

/-- The parts of a template, one after the other, are the template. -/
theorem flatMap_source_segments (s : List Char) :
    (segments s).flatMap Segment.source = s := by
  induction s using segmentInduction with
  | nil => rw [segments_nil]; rfl
  | literal c s hliteral ih => rw [hliteral, List.flatMap_cons, ih]; rfl
  | placeholder s p rest hscan ih =>
      rw [segments_percent_of_some hscan, List.flatMap_cons, ih, Segment.source,
        List.append_assoc, List.cons_append, List.singleton_append, ← scan?_source hscan]

end Hooklog.Template
