import Hooklog.Formatter.Line
import Hooklog.Proofs.Template.Positions

/-!
# Splicing

Texts put back at their positions: characters before the first position are written as they
stand, and a text at the place that has been reached is written there.
-/

namespace Hooklog.Line

open Text Template

/-- A text is cut behind any of its characters. -/
theorem splitAtByte_append (s rest : List Char) (n : Nat) :
    splitAtByte (byteLength s + n) (s ++ rest) =
      (s ++ (splitAtByte n rest).1, (splitAtByte n rest).2) := by
  induction s with
  | nil => rw [byteLength_nil, Nat.zero_add]; rfl
  | cons c s ih =>
      have hlength : byteLength (c :: s) + n = c.utf8Size + (byteLength s + n) := by
        rw [← List.singleton_append, byteLength_append, Nat.add_assoc]
        rfl
      rw [List.cons_append, splitAtByte, hlength, if_pos (Nat.le_add_right _ _),
        Nat.add_sub_cancel_left, ih]
      rfl

theorem splitAtByte_zero (s : List Char) : splitAtByte 0 s = ([], s) := by
  cases s with
  | nil => rfl
  | cons c s =>
      have hsize := c.utf8Size_pos
      rw [splitAtByte, if_neg (by omega)]

/-- Characters before every position are written as they stand. -/
theorem splice_append (written : Nat) (s rest : List Char) (texts : List (Nat × String))
    (h : ∀ p ∈ texts, written + byteLength s ≤ p.1) :
    splice written (s ++ rest) texts = s ++ splice (written + byteLength s) rest texts := by
  cases texts with
  | nil => rfl
  | cons text more =>
      have hposition : text.1 - written = byteLength s + (text.1 - (written + byteLength s)) := by
        have := h text List.mem_cons_self
        omega
      rw [splice, splice, hposition, splitAtByte_append]
      simp only [List.append_assoc]

/-- A text at the place that has been reached is written there. -/
theorem splice_here (written : Nat) (rest : List Char) (text : String)
    (more : List (Nat × String)) :
    splice written rest ((written, text) :: more) = text.toList ++ splice written rest more := by
  rw [splice, Nat.sub_self, splitAtByte_zero]
  rfl

end Hooklog.Line
