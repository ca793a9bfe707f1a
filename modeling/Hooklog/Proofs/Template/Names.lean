import Hooklog.Proofs.Sgr.Plain
import Hooklog.Proofs.Tables
import Hooklog.Proofs.Template.Source
import Hooklog.Template.Spec
import Mathlib.Data.List.TakeWhile

/-!
# Names of placeholders

The name of a placeholder is made of word characters, wherever it is cut off from the digits
before it.  So the keys that a template writes are plain text.
-/

namespace Hooklog.Template

open Text Sgr

/-- A placeholder whose name holds word characters only. -/
def Placeholder.Named (p : Placeholder) : Prop := ∀ n, p.name = some n → ∀ c ∈ n, isWord c = true

theorem isWord_of_isDigit {c : Char} (h : isDigit c = true) : isWord c = true := by
  unfold isDigit at h
  unfold isWord
  split at h
  · rename_i hascii
    rw [if_pos hascii, h, Bool.or_true, Bool.true_or]
  · rename_i hascii
    obtain ⟨hrange, hknown⟩ := Bool.and_eq_true_iff.mp h
    rw [if_neg hascii, hrange, hknown]
    simp

/-! ## Reading a name -/

theorem isWord_of_mem_digits {s : List Char} {c : Char} (h : c ∈ s.takeWhile isDigit) :
    isWord c = true :=
  isWord_of_isDigit (List.mem_takeWhile_imp h)

theorem isWord_of_splitName? {digits word number name : List Char}
    (hdigits : ∀ c ∈ digits, isWord c = true) (hword : ∀ c ∈ word, isWord c = true)
    (h : splitName? digits word = some (number, name)) : ∀ c ∈ name, isWord c = true := by
  unfold splitName? at h
  split at h
  · obtain ⟨-, rfl⟩ := Prod.mk.inj (Option.some.inj h)
    exact hword
  · split at h
    · obtain ⟨-, rfl⟩ := Prod.mk.inj (Option.some.inj h)
      exact fun c hc => hdigits c (List.mem_of_mem_drop hc)
    · simp at h

theorem named_finish? {w l n : Option (List Char)} {s r : List Char} {p : Placeholder}
    (hn : ∀ name, n = some name → ∀ c ∈ name, isWord c = true)
    (h : finish? w l n s = some (p, r)) : p.Named := by
  obtain ⟨_, -, hpair⟩ := Option.map_eq_some_iff.mp h
  obtain ⟨rfl, -⟩ := Prod.mk.inj hpair
  exact hn

/-- A name that was cut off from the digits before it. -/
theorem named_split {w l : Option (List Char)} {s t u r number name : List Char}
    {p : Placeholder}
    (hsplit : splitName? (s.takeWhile isDigit) (t.takeWhile isWord) = some (number, name))
    (h : finish? w l (some name) u = some (p, r)) : p.Named := by
  refine named_finish? (fun n hn => ?_) h
  rw [← Option.some.inj hn]
  exact isWord_of_splitName? (fun _ => isWord_of_mem_digits)
    (fun _ => List.mem_takeWhile_imp) hsplit

theorem named_afterPoint? {w : Option (List Char)} {s r : List Char} {p : Placeholder}
    (h : afterPoint? w s = some (p, r)) : p.Named := by
  unfold afterPoint? at h
  simp only at h
  split at h
  · simp at h
  · split at h
    · rename_i limit name hsplit
      exact named_split hsplit h
    · simp at h

theorem named_afterSign? {s r : List Char} {p : Placeholder}
    (h : afterSign? s = some (p, r)) : p.Named := by
  unfold afterSign? at h
  simp only at h
  split at h
  · simp at h
  · split at h
    · exact named_afterPoint? h
    · split at h
      · rename_i width name hsplit
        exact named_split hsplit h
      · simp at h

theorem named_afterDigits? {s r : List Char} {p : Placeholder}
    (h : afterDigits? s = some (p, r)) : p.Named := by
  unfold afterDigits? at h
  simp only at h
  split at h
  · exact named_afterPoint? h
  · split at h
    · rename_i width name hsplit
      exact named_split hsplit h
    · -- a digit on its own is the name
      refine named_finish? (fun n hn => ?_) h
      rw [← Option.some.inj hn]
      exact fun _ => isWord_of_mem_digits

/-- A placeholder that has been read has a name of word characters, if any. -/
theorem named_scan? {s r : List Char} {p : Placeholder} (h : scan? s = some (p, r)) :
    p.Named := by
  cases s with
  | nil => simp [scan?] at h
  | cons c s =>
      rw [scan?] at h
      split at h
      · exact named_afterSign? h
      · split at h
        · exact named_afterPoint? h
        · split at h
          · exact named_afterDigits? h
          · split at h
            · refine named_finish? (fun n hn => ?_) h
              rw [← Option.some.inj hn]
              exact fun _ => List.mem_takeWhile_imp
            · refine named_finish? (fun n hn => ?_) h
              simp at hn

theorem named_of_mem_segments {s : List Char} {p : Placeholder}
    (h : .placeholder p ∈ segments s) : p.Named := by
  induction s using segmentInduction with
  | nil =>
      rw [segments_nil] at h
      exact absurd h List.not_mem_nil
  | literal c s hliteral ih =>
      rw [hliteral] at h
      rcases List.mem_cons.mp h with h | h
      · simp at h
      · exact ih h
  | placeholder s q rest hscan ih =>
      rw [segments_percent_of_some hscan] at h
      rcases List.mem_cons.mp h with h | h
      · obtain rfl := Segment.placeholder.inj h
        exact named_scan? hscan
      · exact ih h

/-! ## Keys -/

theorem isPlain_of_isWord {c : Char} (h : isWord c = true) : IsPlain c := by
  have hcontrols : ∀ n ∈ [0x1B, 0x9B, 7], isWord (Char.ofNat n) = false := by decide +kernel
  have hne : ∀ n ∈ [0x1B, 0x9B, 7], c.toNat ≠ n := by
    intro n hn hc
    rw [← Char.ofNat_toNat c, hc, hcontrols n hn] at h
    exact Bool.false_ne_true h
  exact ⟨hne _ (by decide), hne _ (by decide), hne _ (by decide)⟩

theorem Token.key_ofName (name : List Char) :
    Plain (Token.ofName name).key ∨ Token.ofName name = .field (String.ofList name) := by
  have hnames : ∀ q ∈ Token.names, Plain q.2.key := by decide
  unfold Token.ofName
  split
  · exact Or.inr rfl
  · cases hlookup : Token.names.lookup (String.ofList (Text.lower name)) with
    | none => exact Or.inl plainText_nil
    | some t => exact Or.inl (hnames _ (mem_of_lookup hlookup))

/-- The key of a placeholder that has been read is plain. -/
theorem Placeholder.Named.plain_key {p : Placeholder} (h : p.Named) : Plain p.token.key := by
  unfold Placeholder.token
  split
  · rename_i n hn
    rcases Token.key_ofName n with hkey | hfield
    · exact hkey
    · rw [hfield]
      exact plain_ofList.mpr fun c hc => isPlain_of_isWord (h n hn c hc)
  · exact plainText_nil

end Hooklog.Template
