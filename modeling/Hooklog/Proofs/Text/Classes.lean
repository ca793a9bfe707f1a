import Hooklog.Text.Class

/-!
# Classes of ASCII characters

The ASCII letters and digits by their numbers, and how they are classified.  Below 128 the
tables of the character standard are not asked.
-/

namespace Hooklog.Text

theorem le_iff_toNat_le {a b : Char} : a ≤ b ↔ a.toNat ≤ b.toNat := by
  rw [Char.le_def, UInt32.le_iff_toNat_le]
  rfl

theorem isAsciiDigit_iff {c : Char} : isAsciiDigit c = true ↔ 48 ≤ c.toNat ∧ c.toNat ≤ 57 := by
  simp only [isAsciiDigit, Bool.and_eq_true, decide_eq_true_eq, le_iff_toNat_le]
  rfl

theorem isAsciiLetter_iff {c : Char} :
    isAsciiLetter c = true ↔
      (97 ≤ c.toNat ∧ c.toNat ≤ 122) ∨ (65 ≤ c.toNat ∧ c.toNat ≤ 90) := by
  simp only [isAsciiLetter, Bool.or_eq_true, Bool.and_eq_true, decide_eq_true_eq,
    le_iff_toNat_le]
  rfl

theorem isDigit_of_ascii {c : Char} (h : c.toNat < 0x80) : isDigit c = isAsciiDigit c :=
  if_pos h

theorem isAlphanumeric_of_ascii {c : Char} (h : c.toNat < 0x80) :
    isAlphanumeric c = (isAsciiLetter c || isAsciiDigit c) :=
  if_pos h

theorem isWord_of_ascii {c : Char} (h : c.toNat < 0x80) :
    isWord c = (isAsciiLetter c || isAsciiDigit c || c == '_') :=
  if_pos h

theorem isDigit_of_isAsciiDigit {c : Char} (h : isAsciiDigit c = true) : isDigit c = true := by
  have hc := isAsciiDigit_iff.mp h
  rw [isDigit_of_ascii (by omega), h]

theorem isAlphanumeric_of_isAsciiLetter {c : Char} (h : isAsciiLetter c = true) :
    isAlphanumeric c = true := by
  have hc := isAsciiLetter_iff.mp h
  rw [isAlphanumeric_of_ascii (by omega), h, Bool.true_or]

theorem isAlphanumeric_of_isAsciiDigit {c : Char} (h : isAsciiDigit c = true) :
    isAlphanumeric c = true := by
  have hc := isAsciiDigit_iff.mp h
  rw [isAlphanumeric_of_ascii (by omega), h, Bool.or_true]

theorem isWord_of_isAsciiLetter {c : Char} (h : isAsciiLetter c = true) : isWord c = true := by
  have hc := isAsciiLetter_iff.mp h
  rw [isWord_of_ascii (by omega), h, Bool.true_or, Bool.true_or]

/-- Text of the letters from `a` to `z`. -/
def SmallLetters (s : List Char) : Prop := ∀ c ∈ s, 'a' ≤ c ∧ c ≤ 'z'

-- the members are gone through one by one, where a search for an instance may try all characters
instance (s : List Char) : Decidable (SmallLetters s) := List.decidableBAll _ s

/-- A letter in lower case was a letter. -/
theorem isAsciiLetter_of_toLower {c : Char} (hlow : 'a' ≤ c.toLower) (hhigh : c.toLower ≤ 'z') :
    isAsciiLetter c = true := by
  simp only [le_iff_toNat_le] at hlow hhigh
  rw [isAsciiLetter_iff]
  unfold Char.toLower at hlow hhigh
  split at hlow
  · rename_i hupper
    simp only [ge_iff_le, UInt32.le_iff_toNat_le] at hupper
    exact Or.inr hupper
  · rename_i hupper
    rw [dif_neg hupper] at hhigh
    exact Or.inl ⟨hlow, hhigh⟩

end Hooklog.Text
