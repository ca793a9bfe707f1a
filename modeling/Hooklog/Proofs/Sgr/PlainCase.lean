import Hooklog.Formatter.Line
import Hooklog.Proofs.Sgr.Plain
import Hooklog.Proofs.Text.Case

/-!
# Letter case of plain text

No mapping of letter case produces a control character, so plain text stays plain in every
case.
-/

namespace Hooklog.Sgr

open Text

/-! ## Tables -/

/-- A table of a letter case that leads to a code point from no other one. -/
structure Misses (t : CaseTable) (n : Nat) : Prop where
  ascii : ∀ c : Char, c.toNat < 0x80 → c.toNat ≠ n → (t.ascii c).toNat ≠ n
  sequences : ∀ p ∈ t.sequences, n ∉ p.2
  runs : ∀ r ∈ t.runs, (r.last : Int) + r.shift < n ∨ (n : Int) < r.first + r.shift

theorem Misses.shiftBy_ne {t : CaseTable} {n : Nat} (h : Misses t n) (hn : 0 < n) {m : Nat}
    (hm : m ≠ n) : shiftBy t.runs m ≠ n := by
  rcases shiftBy_cases t.runs m with hsame | ⟨r, hr, hfirst, hlast, hshift⟩
  · rw [hsame]
    exact hm
  · have hmiss := h.runs r hr
    rw [hshift, Int.ofNat_eq_natCast]
    omega

/-- Only a code point itself can have it in its image. -/
theorem Misses.image_ne {t : CaseTable} {n : Nat} (h : Misses t n) (hn : 0 < n) {c : Char}
    (hc : c.toNat ≠ n) : ∀ d ∈ t.image c, d.toNat ≠ n := by
  have hofNat : ∀ {m : Nat}, m ≠ n → (Char.ofNat m).toNat ≠ n := by
    intro m hm
    rcases toNat_ofNat_cases m with hvalid | hzero <;> omega
  intro d hd
  unfold CaseTable.image at hd
  split at hd
  · rename_i hascii
    rw [List.mem_singleton.mp hd]
    exact h.ascii c hascii hc
  · unfold mapChar at hd
    split at hd
    · rename_i image himage
      obtain ⟨m, hm, rfl⟩ := List.mem_map.mp hd
      exact hofNat fun heq => h.sequences _ (mem_of_lookup himage) (heq ▸ hm)
    · rw [List.mem_singleton.mp hd]
      exact hofNat (h.shiftBy_ne hn hc)

/-- The tables of the letter cases. -/
def caseTables : List CaseTable := [upperTable, lowerTable]

theorem upperTable_mem : upperTable ∈ caseTables := List.mem_cons_self

theorem lowerTable_mem : lowerTable ∈ caseTables := List.mem_cons_of_mem _ List.mem_cons_self

/-- Code points of the control characters that start or end a sequence. -/
def controls : List Nat := [0x1B, 0x9B, 7]

/-- No letter case leads to a control character that starts or ends a sequence. -/
theorem misses_control {t : CaseTable} (ht : t ∈ caseTables) {n : Nat}
    (hn : n ∈ controls) : Misses t n := by
  have hascii : ∀ t ∈ caseTables, ∀ n ∈ controls, ∀ m < 0x80, m ≠ n →
      (t.ascii (Char.ofNat m)).toNat ≠ n := by decide +kernel
  have hsequences : ∀ t ∈ caseTables, ∀ n ∈ controls, ∀ p ∈ t.sequences,
      n ∉ p.2 := by decide +kernel
  have hruns : ∀ t ∈ caseTables, ∀ n ∈ controls, ∀ r ∈ t.runs,
      (r.last : Int) + r.shift < n ∨ (n : Int) < r.first + r.shift := by decide +kernel
  refine ⟨fun c hc hne => ?_, hsequences t ht n hn, hruns t ht n hn⟩
  have himage := hascii t ht n hn c.toNat hc hne
  rwa [Char.ofNat_toNat] at himage

/-! ## Characters -/

theorem plainText_image {t : CaseTable} (ht : t ∈ caseTables) {c : Char}
    (hc : IsPlain c) : PlainText (t.image c) := fun d hd =>
  ⟨(misses_control ht (by decide)).image_ne (by decide) hc.1 d hd,
    (misses_control ht (by decide)).image_ne (by decide) hc.2.1 d hd,
    (misses_control ht (by decide)).image_ne (by decide) hc.2.2 d hd⟩

theorem escape_notMem_image {t : CaseTable} (ht : t ∈ caseTables) {c : Char}
    (hc : c ≠ escape) : escape ∉ t.image c := by
  have hnat : c.toNat ≠ 0x1B := fun h => hc (Char.toNat_inj.mp h)
  exact fun hmem => (misses_control ht (by decide)).image_ne (by decide) hnat escape hmem rfl

/-! ## Texts -/

theorem plainText_upper {s : List Char} (h : PlainText s) : PlainText (upper s) := by
  intro d hd
  obtain ⟨c, hc, hd⟩ := List.mem_flatMap.mp hd
  exact plainText_image upperTable_mem (h c hc) d hd

theorem plainText_lowerAfter (before : List Char) {s : List Char} (h : PlainText s) :
    PlainText (lowerAfter before s) := by
  induction s generalizing before with
  | nil => exact plainText_nil
  | cons c s ih =>
      obtain ⟨hc, hs⟩ := plainText_cons.mp h
      rw [lowerAfter, plainText_append]
      refine ⟨?_, ih (c :: before) hs⟩
      split
      · unfold lowerSigma
        split <;> decide
      · exact plainText_image lowerTable_mem hc

theorem plainText_titleFrom (atStart : Bool) {s : List Char} (h : PlainText s) :
    PlainText (titleFrom atStart s) := by
  induction s generalizing atStart with
  | nil => exact plainText_nil
  | cons c s ih =>
      obtain ⟨hc, hs⟩ := plainText_cons.mp h
      rw [titleFrom, plainText_append]
      refine ⟨?_, ih _ hs⟩
      split
      · exact plainText_image upperTable_mem hc
      · exact plainText_cons.mpr ⟨hc, plainText_nil⟩

/-- Plain text is plain in every letter case. -/
theorem plainText_apply (t : Template.Transform) {s : List Char} (h : PlainText s) :
    PlainText (t.apply s) := by
  cases t with
  | none => exact h
  | upper => exact plainText_upper h
  | lower => exact plainText_lowerAfter [] h
  | title => exact plainText_titleFrom true h

end Hooklog.Sgr
