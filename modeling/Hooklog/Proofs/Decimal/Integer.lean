import Hooklog.Decimal.Integer
import Hooklog.Proofs.Text.Classes

/-!
# Reading back integers

The digits of a number are ASCII digits, and what is written of an integer is read as that
integer wherever it lies within the bounds.  More texts than these are read: `Numeral` allows a
plus sign and leading zeros, and `readSigned?_eq_some_iff` says that nothing else is read.
-/

namespace Hooklog.Decimal

theorem isAsciiDigit_of_mem_digitsOf {n : Nat} {c : Char} (h : c ∈ digitsOf n) :
    Text.isAsciiDigit c = true := by
  have hdigit := Nat.isDigit_of_mem_toDigits (by decide) (by decide) h
  simp only [Char.isDigit, Bool.and_eq_true, decide_eq_true_eq, ge_iff_le,
    UInt32.le_iff_toNat_le] at hdigit
  exact Text.isAsciiDigit_iff.mpr hdigit

theorem digitsOf_ne_nil (n : Nat) : digitsOf n ≠ [] := Nat.toDigits_ne_nil

theorem readNatural?_digitsOf (n : Nat) : readNatural? (digitsOf n) = some n := by
  have hall : (digitsOf n).all Text.isAsciiDigit = true :=
    List.all_eq_true.mpr fun _ h => isAsciiDigit_of_mem_digitsOf h
  rw [readNatural?, if_pos ⟨digitsOf_ne_nil n, hall⟩]
  exact congrArg some Nat.ofDigitChars_ten_toDigits

/-- A text that starts with a digit has no sign. -/
theorem readSigned?_digitsOf (n : Nat) : readSigned? (digitsOf n) = some (n : Int) := by
  have hread := readNatural?_digitsOf n
  unfold readSigned?
  split
  · rename_i hdigits
    have := isAsciiDigit_of_mem_digitsOf (n := n) (hdigits ▸ List.mem_cons_self)
    exact absurd this (by decide)
  · rename_i hdigits
    have := isAsciiDigit_of_mem_digitsOf (n := n) (hdigits ▸ List.mem_cons_self)
    exact absurd this (by decide)
  · rw [hread]
    rfl

theorem toList_integerText (n : Int) :
    (integerText n).toList =
      if n < 0 then '-' :: digitsOf n.natAbs else digitsOf n.natAbs := by
  unfold integerText naturalText
  split
  · simp only [String.toList_append, String.toList_ofList]
    rfl
  · rw [String.toList_ofList]

/-- An integer is read back from its text. -/
theorem readSigned?_integerText (n : Int) :
    readSigned? (integerText n).toList = some n := by
  rw [toList_integerText]
  by_cases hn : n < 0
  · have habs : -(n.natAbs : Int) = n := by omega
    rw [if_pos hn, readSigned?, readNatural?_digitsOf]
    exact congrArg some habs
  · have habs : (n.natAbs : Int) = n := by omega
    rw [if_neg hn, readSigned?_digitsOf, habs]

/-! ## All texts that are read -/

/-- ASCII digits, at least one. -/
structure IsDigits (s : List Char) : Prop where
  ne_nil : s ≠ []
  digit : ∀ c ∈ s, Text.isAsciiDigit c = true

/-- Digits with an optional sign, and the integer that they denote. -/
inductive Numeral : List Char → Int → Prop where
  | bare {s : List Char} : IsDigits s → Numeral s (Nat.ofDigitChars 10 s 0)
  | plus {s : List Char} : IsDigits s → Numeral ('+' :: s) (Nat.ofDigitChars 10 s 0)
  | minus {s : List Char} : IsDigits s → Numeral ('-' :: s) (-(Nat.ofDigitChars 10 s 0 : Nat))

theorem readNatural?_eq_some_iff {s : List Char} {n : Nat} :
    readNatural? s = some n ↔ IsDigits s ∧ n = Nat.ofDigitChars 10 s 0 := by
  have hdigits : (s ≠ [] ∧ s.all Text.isAsciiDigit = true) ↔ IsDigits s :=
    ⟨fun h => ⟨h.1, List.all_eq_true.mp h.2⟩, fun h => ⟨h.ne_nil, List.all_eq_true.mpr h.digit⟩⟩
  unfold readNatural?
  split
  · rename_i h
    rw [Option.some.injEq, eq_comm]
    exact ⟨fun heq => ⟨hdigits.mp h, heq⟩, fun heq => heq.2⟩
  · rename_i h
    exact ⟨fun heq => by simp at heq, fun heq => absurd (hdigits.mpr heq.1) h⟩

theorem readNatural?_of_isDigits {s : List Char} (h : IsDigits s) :
    readNatural? s = some (Nat.ofDigitChars 10 s 0) :=
  readNatural?_eq_some_iff.mpr ⟨h, rfl⟩

theorem readSigned?_eq_some_iff {s : List Char} {n : Int} :
    readSigned? s = some n ↔ Numeral s n := by
  -- behind the sign, digits are read, and their value is given the sign
  have hvalue : ∀ {t : List Char} {sign : Int → Int},
      Option.map sign (do let m ← readNatural? t; pure (m : Int)) = some n →
        IsDigits t ∧ sign (Nat.ofDigitChars 10 t 0 : Nat) = n := by
    intro t sign h
    cases hread : readNatural? t with
    | none =>
        rw [hread] at h
        exact absurd h.symm (Option.some_ne_none n)
    | some m =>
        obtain ⟨ht, rfl⟩ := readNatural?_eq_some_iff.mp hread
        rw [hread] at h
        exact ⟨ht, Option.some.inj h⟩
  constructor
  · intro h
    unfold readSigned? at h
    split at h
    · obtain ⟨hdigits, rfl⟩ := hvalue h
      exact .minus hdigits
    · obtain ⟨hdigits, rfl⟩ := hvalue h
      exact .plus hdigits
    · obtain ⟨hdigits, rfl⟩ := hvalue h
      exact .bare hdigits
  · intro h
    cases h with
    | bare hdigits =>
        have hsign : ∀ d t, s = d :: t → Text.isAsciiDigit d = true := fun d t hs =>
          hdigits.digit d (hs ▸ List.mem_cons_self)
        rw [readSigned?.eq_3 s (fun t hs => absurd (hsign _ t hs) (by decide))
          (fun t hs => absurd (hsign _ t hs) (by decide)), readNatural?_of_isDigits hdigits]
        rfl
    | plus hdigits => rw [readSigned?, readNatural?_of_isDigits hdigits]; rfl
    | minus hdigits => rw [readSigned?, readNatural?_of_isDigits hdigits]; rfl

theorem Numeral.unique {s : List Char} {n m : Int} (h : Numeral s n) (h' : Numeral s m) :
    n = m :=
  Option.some.inj
    ((readSigned?_eq_some_iff.mpr h).symm.trans (readSigned?_eq_some_iff.mpr h'))

/-- A numeral is made of digits and signs, and a digit comes last. -/
theorem Numeral.exists_digit {s : List Char} {n : Int} (h : Numeral s n) :
    (∀ c ∈ s, Text.isAsciiDigit c = true ∨ c = '+' ∨ c = '-') ∧
      ∃ c ∈ s, Text.isAsciiDigit c = true := by
  have hdigit : ∀ {s : List Char}, IsDigits s → ∃ c ∈ s, Text.isAsciiDigit c = true := by
    intro s hs
    obtain ⟨c, hc⟩ := List.exists_mem_of_ne_nil s hs.ne_nil
    exact ⟨c, hc, hs.digit c hc⟩
  cases h with
  | bare hs => exact ⟨fun c hc => Or.inl (hs.digit c hc), hdigit hs⟩
  | plus hs =>
      obtain ⟨c, hc, hd⟩ := hdigit hs
      exact ⟨List.forall_mem_cons.mpr ⟨Or.inr (Or.inl rfl), fun c hc => Or.inl (hs.digit c hc)⟩,
        c, List.mem_cons_of_mem _ hc, hd⟩
  | minus hs =>
      obtain ⟨c, hc, hd⟩ := hdigit hs
      exact ⟨List.forall_mem_cons.mpr ⟨Or.inr (Or.inr rfl), fun c hc => Or.inl (hs.digit c hc)⟩,
        c, List.mem_cons_of_mem _ hc, hd⟩

theorem readWithin?_eq_some_iff {b : Bounds} {s : List Char} {n : Int} :
    readWithin? b s = some n ↔ Numeral s n ∧ b.holds n = true := by
  unfold readWithin?
  constructor
  · intro h
    split at h
    · rename_i m hm
      split at h
      · obtain rfl := Option.some.inj h
        exact ⟨readSigned?_eq_some_iff.mp hm, ‹_›⟩
      · simp at h
    · simp at h
  · rintro ⟨hnumeral, hholds⟩
    rw [readSigned?_eq_some_iff.mpr hnumeral]
    exact if_pos hholds

theorem readWithin?_integerText {b : Bounds} {n : Int} (h : b.holds n = true) :
    readWithin? b (integerText n).toList = some n := by
  rw [readWithin?, readSigned?_integerText]
  exact if_pos h

theorem readWithin?_digitsOf {b : Bounds} {n : Nat} (h : b.holds n = true) :
    readWithin? b (digitsOf n) = some (n : Int) := by
  rw [readWithin?, readSigned?_digitsOf]
  exact if_pos h

end Hooklog.Decimal
