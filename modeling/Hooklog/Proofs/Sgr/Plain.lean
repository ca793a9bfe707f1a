import Hooklog.Sgr.Strip
import Hooklog.Proofs.Decimal.Integer
import Hooklog.Proofs.Text.Words

/-!
# Plain text

Text is plain if none of its characters opens a control sequence or is the bell.  Removing
control sequences leaves it as it is, and everything that is written in digits, letters and
signs of the ASCII set is plain.
-/

namespace Hooklog.Sgr

/-- A character that neither opens a control sequence nor is the bell. -/
def IsPlain (c : Char) : Prop := c.toNat ≠ 0x1B ∧ c.toNat ≠ 0x9B ∧ c.toNat ≠ 7

instance (c : Char) : Decidable (IsPlain c) :=
  inferInstanceAs (Decidable (c.toNat ≠ 0x1B ∧ c.toNat ≠ 0x9B ∧ c.toNat ≠ 7))

/-- Text of plain characters. -/
def PlainText (s : List Char) : Prop := ∀ c ∈ s, IsPlain c

instance (s : List Char) : Decidable (PlainText s) := List.decidableBAll IsPlain s

/-- String of plain characters. -/
abbrev Plain (s : String) : Prop := PlainText s.toList

/-! ## Characters -/

theorem isEscape_of_isPlain {c : Char} (h : IsPlain c) : isEscape c = false := by
  have hescape : c ≠ escape := by
    rintro rfl
    exact h.1 rfl
  have hcsi : c ≠ Char.ofNat 0x9B := by
    rintro rfl
    exact h.2.1 rfl
  simp [isEscape, hescape, hcsi]

theorem ne_bell_of_isPlain {c : Char} (h : IsPlain c) : c ≠ bell := by
  rintro rfl
  exact h.2.2 rfl

/-- The printable characters of the ASCII set are plain. -/
theorem isPlain_of_printable {c : Char} (hlow : 0x20 ≤ c.toNat) (hhigh : c.toNat < 0x80) :
    IsPlain c :=
  ⟨by omega, by omega, by omega⟩

theorem isPlain_of_isAsciiDigit {c : Char} (h : Text.isAsciiDigit c = true) : IsPlain c := by
  have := Text.isAsciiDigit_iff.mp h
  exact isPlain_of_printable (by omega) (by omega)

/-! ## Texts -/

@[simp] theorem plainText_nil : PlainText [] := fun _ h => absurd h List.not_mem_nil

@[simp] theorem plainText_cons {c : Char} {s : List Char} :
    PlainText (c :: s) ↔ IsPlain c ∧ PlainText s :=
  List.forall_mem_cons

@[simp] theorem plainText_append {s t : List Char} :
    PlainText (s ++ t) ↔ PlainText s ∧ PlainText t :=
  List.forall_mem_append

theorem plainText_replicate {n : Nat} {c : Char} (h : IsPlain c) :
    PlainText (List.replicate n c) := by
  intro d hd
  rw [(List.mem_replicate.mp hd).2]
  exact h

theorem PlainText.of_sublist {s t : List Char} (h : PlainText t) (hs : s.Sublist t) :
    PlainText s :=
  fun c hc => h c (hs.subset hc)

theorem PlainText.take {s : List Char} (h : PlainText s) (n : Nat) : PlainText (s.take n) :=
  h.of_sublist (List.take_sublist n s)

theorem PlainText.drop {s : List Char} (h : PlainText s) (n : Nat) : PlainText (s.drop n) :=
  h.of_sublist (List.drop_sublist n s)

@[simp] theorem plain_ofList {s : List Char} : Plain (String.ofList s) ↔ PlainText s := by
  rw [Plain, String.toList_ofList]

@[simp] theorem plain_append {s t : String} : Plain (s ++ t) ↔ Plain s ∧ Plain t := by
  rw [Plain, String.toList_append]
  exact plainText_append

/-- A string of characters of a kind. -/
abbrev MadeOf (P : Char → Prop) (s : String) : Prop := ∀ c ∈ s.toList, P c

theorem madeOf_append {P : Char → Prop} {s t : String} :
    MadeOf P (s ++ t) ↔ MadeOf P s ∧ MadeOf P t := by
  rw [MadeOf, String.toList_append]
  exact List.forall_mem_append

theorem madeOf_of_plain {P : Char → Prop} (hP : ∀ c, IsPlain c → P c) {s : String}
    (h : Plain s) : MadeOf P s :=
  fun c hc => hP c (h c hc)

theorem plain_joinWith {sep : String} (hsep : Plain sep) {texts : List String}
    (h : ∀ t ∈ texts, Plain t) : Plain (Text.joinWith sep texts) :=
  Text.joinWith_induction plainText_nil (fun _ _ hs ht => plainText_append.mpr ⟨hs, ht⟩) hsep h

/-- Plain text holds no control sequence to be removed. -/
theorem strip_of_plainText {s : List Char} (h : PlainText s) : strip s = s := by
  induction s with
  | nil => rw [strip]
  | cons c s ih =>
      obtain ⟨hc, hs⟩ := plainText_cons.mp h
      rw [strip, if_neg (by rw [isEscape_of_isPlain hc]; decide), ih hs]

/-! ## Numbers -/

theorem plainText_digitsOf (n : Nat) : PlainText (Decimal.digitsOf n) :=
  fun _ hc => isPlain_of_isAsciiDigit (Decimal.isAsciiDigit_of_mem_digitsOf hc)

theorem plainText_padded (width n : Nat) : PlainText (Decimal.padded width n) :=
  plainText_append.mpr ⟨plainText_replicate (by decide), plainText_digitsOf n⟩

theorem plain_naturalText (n : Nat) : Plain (Decimal.naturalText n) :=
  plain_ofList.mpr (plainText_digitsOf n)

theorem plain_integerText (n : Int) : Plain (Decimal.integerText n) := by
  unfold Decimal.integerText
  split
  · exact plain_append.mpr ⟨by decide, plain_naturalText _⟩
  · exact plain_naturalText _

end Hooklog.Sgr
