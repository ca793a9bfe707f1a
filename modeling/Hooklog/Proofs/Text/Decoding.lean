import Hooklog.Text.Utf8
import Hooklog.Proofs.Text.Characters
import Mathlib.Tactic.SplitIfs

/-!
# Decoding at the ends of lines

The byte of a line end closes whatever was being read, so a decoded text may be cut there: it
is the text of the bytes before, the end of the line, and the text of the bytes after.
No other bytes are read as the end of a line.
-/

namespace Hooklog.Text

/-- What a reading state promises: no ASCII byte continues the character being read, and
that character is not an ASCII one. -/
def Decoding.Sound : Decoding → Prop
  | .idle => True
  | .inside expected low _ payload =>
      0x80 ≤ low ∧ (expected ≤ 1 → 2 ≤ payload) ∧
        (1 < expected → 2 ≤ payload * 0x40 + (low - 0x80))

theorem Decoding.sound_idle : Decoding.idle.Sound := trivial

theorem Decoding.sound_start (b : Nat) : (Decoding.start b).2.Sound := by
  unfold Decoding.start Lead.ofByte?
  split_ifs <;> simp only [Decoding.Sound] <;> omega

/-- Reading a byte keeps the promise. -/
theorem Decoding.sound_step {state : Decoding} (h : state.Sound) (b : Nat) :
    (state.step b).2.Sound := by
  cases state with
  | idle => exact sound_start b
  | inside expected low high payload =>
      obtain ⟨hlow, -, hpayload⟩ := h
      simp only [Decoding.step, Bool.and_eq_true, decide_eq_true_eq]
      split_ifs with hb hexpected
      · trivial
      · -- The byte is at least `low`, so the payload that it completes is at least 2.
        simp only [Decoding.Sound]
        omega
      · exact sound_start b

theorem replacement_ne_newline : replacement ≠ '\n' := by decide

theorem newline_notMem_start {b : Nat} (hb : b ≠ 10) : '\n' ∉ (Decoding.start b).1 := by
  unfold Decoding.start Lead.ofByte?
  split_ifs with h <;> simp only [List.mem_cons, List.not_mem_nil, or_false, not_false_eq_true]
  · exact (ofNat_ne hb (by decide)).symm
  · exact replacement_ne_newline.symm
  · exact replacement_ne_newline.symm

theorem newline_notMem_step {state : Decoding} (h : state.Sound) {b : Nat} (hb : b ≠ 10) :
    '\n' ∉ (state.step b).1 := by
  cases state with
  | idle => exact newline_notMem_start hb
  | inside expected low high payload =>
      obtain ⟨hlow, hpayload, -⟩ := h
      simp only [Decoding.step, Bool.and_eq_true, decide_eq_true_eq]
      split_ifs with hrange hexpected
      · have := hpayload hexpected
        rw [List.mem_singleton]
        exact (ofNat_ne (by change _ ≠ 10; omega) (by decide)).symm
      · simp
      · simp only [List.mem_cons, not_or]
        exact ⟨replacement_ne_newline.symm, newline_notMem_start hb⟩

theorem newline_notMem_finish (state : Decoding) : '\n' ∉ state.finish := by
  cases state with
  | idle => simp [Decoding.finish]
  | inside expected low high payload => simp [Decoding.finish, replacement_ne_newline.symm]

/-- The end of a line is read off its own byte only. -/
theorem newline_notMem_decodeFrom {state : Decoding} (h : state.Sound) {bytes : Bytes}
    (hbytes : 10 ∉ bytes) : '\n' ∉ decodeFrom state bytes := by
  induction bytes generalizing state with
  | nil => exact newline_notMem_finish state
  | cons b rest ih =>
      rw [List.mem_cons, not_or] at hbytes
      obtain ⟨hb, hrest⟩ := hbytes
      have hnat : b.toNat ≠ 10 := fun heq => hb (UInt8.toNat_inj.mp heq.symm)
      rw [decodeFrom, List.mem_append, not_or]
      exact ⟨newline_notMem_step h hnat, ih (Decoding.sound_step h b.toNat) hrest⟩

theorem newline_notMem_decode {bytes : Bytes} (h : 10 ∉ bytes) : '\n' ∉ decode bytes :=
  newline_notMem_decodeFrom Decoding.sound_idle h

/-- The byte of a line end closes what is being read. -/
theorem decodeFrom_newline {state : Decoding} (h : state.Sound) (rest : Bytes) :
    decodeFrom state (10 :: rest) = state.finish ++ '\n' :: decode rest := by
  cases state with
  | idle => rfl
  | inside expected low high payload =>
      have hrange : (low ≤ (10 : UInt8).toNat && (10 : UInt8).toNat ≤ high) = false := by
        have : ¬ low ≤ 10 := by have := h.1; omega
        simpa using fun hle => absurd hle this
      rw [decodeFrom, Decoding.step, hrange]
      rfl

/-- A decoded text may be cut behind the end of a line. -/
theorem decodeFrom_append_newline {state : Decoding} (h : state.Sound) (bytes rest : Bytes) :
    decodeFrom state (bytes ++ 10 :: rest) =
      decodeFrom state bytes ++ '\n' :: decode rest := by
  induction bytes generalizing state with
  | nil => exact decodeFrom_newline h rest
  | cons b bytes ih =>
      rw [List.cons_append, decodeFrom, ih (Decoding.sound_step h b.toNat), decodeFrom,
        List.append_assoc]

/-- Bytes that stop at the end of a line. -/
def Complete (bytes : Bytes) : Prop := bytes = [] ∨ ∃ before, bytes = before ++ [10]

/-- Bytes that stop at the end of a line are decoded apart from those that follow. -/
theorem decode_append {bytes : Bytes} (h : Complete bytes) (rest : Bytes) :
    decode (bytes ++ rest) = decode bytes ++ decode rest := by
  rcases h with rfl | ⟨before, rfl⟩
  · rfl
  · rw [List.append_assoc, List.singleton_append]
    unfold decode
    rw [decodeFrom_append_newline Decoding.sound_idle,
      decodeFrom_append_newline Decoding.sound_idle, List.append_assoc]
    rfl

end Hooklog.Text
