import Hooklog.Text.Class

/-!
# Characters and their numbers

A number that is no code point stands for the null character, so the character of a number
has either that number or zero.
-/

namespace Hooklog.Text

theorem toNat_ofNat_cases (n : Nat) : (Char.ofNat n).toNat = n ∨ (Char.ofNat n).toNat = 0 := by
  by_cases h : n.isValidChar
  · left
    rw [Char.ofNat, dif_pos h]
    rfl
  · right
    rw [Char.ofNat, dif_neg h]
    rfl

/-- A character other than the null character stands for its own number only. -/
theorem ofNat_ne {n : Nat} {c : Char} (hn : n ≠ c.toNat) (hc : c.toNat ≠ 0) :
    Char.ofNat n ≠ c := by
  intro heq
  rcases toNat_ofNat_cases n with h | h <;> rw [heq] at h
  · exact hn h.symm
  · exact hc h

/-- What holds of the characters of all ASCII numbers holds of all ASCII characters. -/
theorem forall_ascii (P : Char → Prop) (h : ∀ n < 0x80, P (Char.ofNat n)) {c : Char}
    (hc : c.toNat < 0x80) : P c := by
  have hchar := h c.toNat hc
  rwa [Char.ofNat_toNat] at hchar

end Hooklog.Text
