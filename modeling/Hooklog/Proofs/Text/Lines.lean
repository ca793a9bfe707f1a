import Hooklog.Text.Words

/-!
# Lines of a text

A text is a sequence of ended lines followed by a rest without an end.  The statements below
give `splitLines` on each form, and the induction that goes along the lines of a text.
-/

namespace Hooklog.Text

/-- Induction along the lines of a text: a text has no end of line, or it starts with a
line that has ended. -/
@[elab_as_elim]
theorem lineInduction {motive : List Char → Prop} (s : List Char)
    (rest : ∀ s, '\n' ∉ s → motive s)
    (line : ∀ line s, '\n' ∉ line → motive s → motive (line ++ '\n' :: s)) : motive s := by
  by_cases h : '\n' ∈ s
  · obtain ⟨first, later, hs, hfirst⟩ := List.eq_append_cons_of_mem h
    have hshorter : later.length < s.length := by
      rw [hs]
      simp only [List.length_append, List.length_cons]
      omega
    rw [hs]
    exact line first later hfirst (lineInduction later rest line)
  · exact rest s h
termination_by s.length

theorem splitLines_of_notMem {s : List Char} (h : '\n' ∉ s) : splitLines s = ([], s) := by
  induction s with
  | nil => rfl
  | cons c s ih =>
      rw [List.mem_cons, not_or] at h
      obtain ⟨hc, hs⟩ := h
      rw [splitLines, ih hs]
      simp only [if_neg (Ne.symm hc)]

theorem splitLines_newline (s : List Char) :
    splitLines ('\n' :: s) = ([] :: (splitLines s).1, (splitLines s).2) := by
  rw [splitLines]
  rcases splitLines s with ⟨lines, tail⟩
  cases lines with
  | nil => rfl
  | cons line lines => rfl

theorem splitLines_line {line : List Char} (h : '\n' ∉ line) (s : List Char) :
    splitLines (line ++ '\n' :: s) = (line :: (splitLines s).1, (splitLines s).2) := by
  induction line with
  | nil => exact splitLines_newline s
  | cons c line ih =>
      rw [List.mem_cons, not_or] at h
      obtain ⟨hc, hline⟩ := h
      rw [List.cons_append, splitLines, ih hline]
      simp only [if_neg (Ne.symm hc)]

/-- Lines are found part by part, as long as the first part stops at the end of a line. -/
theorem splitLines_append {s : List Char} (hs : (splitLines s).2 = []) (t : List Char) :
    splitLines (s ++ t) = ((splitLines s).1 ++ (splitLines t).1, (splitLines t).2) := by
  induction s using lineInduction with
  | rest s h =>
      rw [splitLines_of_notMem h] at hs ⊢
      subst hs
      rfl
  | line line s h ih =>
      rw [splitLines_line h] at hs ⊢
      rw [List.append_assoc, List.cons_append, splitLines_line h, ih hs]
      rfl

/-- Nothing is lost: the lines with their ends, and the rest, are the text. -/
theorem flatMap_splitLines (s : List Char) :
    (splitLines s).1.flatMap (· ++ ['\n']) ++ (splitLines s).2 = s := by
  induction s using lineInduction with
  | rest s h =>
      rw [splitLines_of_notMem h]
      rfl
  | line line s h ih =>
      rw [splitLines_line h, List.flatMap_cons, List.append_assoc, ih, List.append_assoc]
      rfl

end Hooklog.Text
