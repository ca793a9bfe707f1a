import Hooklog.Json.Reader
import Hooklog.Json.Value

/-!
# Strings in JSON text

What is written of a string is read as that string, whatever characters it holds.

* `exists_takeString?_escapeChar` reads one written character before any text: as itself, or by
  its number if it is a control without a letter of its own.
* `read?_stringText` reads a text that is one string.
-/

namespace Hooklog.Json

/-- Whether a part of a string stands for a character alone.  The number of a control is half of
no character. -/
def Unit16.StandsFor (u : Unit16) (c : Char) : Prop :=
  u = .char c ∨ (u = .code c.toNat ∧ c.toNat < 0x20)

theorem combine?_cons {u : Unit16} {c : Char} (h : u.StandsFor c) (units : List Unit16) :
    combine? (u :: units) = (combine? units).map (c :: ·) := by
  rcases h with rfl | ⟨rfl, hcontrol⟩
  · rw [combine?]
  · have hhigh : isHighHalf c.toNat = false := by
      simp only [isHighHalf, Bool.and_eq_false_iff, decide_eq_false_iff_not]
      omega
    have hlow : isLowHalf c.toNat = false := by
      simp only [isLowHalf, Bool.and_eq_false_iff, decide_eq_false_iff_not]
      omega
    -- the reader looks at the next part only behind the first half of a character
    rcases units with _ | ⟨_ | l, units⟩ <;>
      simp [combine?, hhigh, hlow, Char.ofNat_toNat]

/-! ## One character -/

theorem takeString?_letter {e c : Char} (hu : e ≠ 'u') (h : escaped? e = some c)
    (s : List Char) :
    takeString? ('\\' :: e :: s) = (takeString? s).map fun p => (.char c :: p.1, p.2) := by
  rw [takeString?.eq_4 e s fun _ _ _ _ _ he _ => hu he, h]
  rcases takeString? s with _ | ⟨units, rest⟩ <;> rfl

theorem takeString?_code {a b c d : Char} {n : Nat} (h : hexFour? a b c d = some n)
    (s : List Char) :
    takeString? ('\\' :: 'u' :: a :: b :: c :: d :: s) =
      (takeString? s).map fun p => (.code n :: p.1, p.2) := by
  rw [takeString?, h]
  rcases takeString? s with _ | ⟨units, rest⟩ <;> rfl

theorem takeString?_plain {c : Char} (hquote : c ≠ '"') (hslash : c ≠ '\\')
    (hcontrol : ¬ c.toNat < 0x20) (s : List Char) :
    takeString? (c :: s) = (takeString? s).map fun p => (.char c :: p.1, p.2) := by
  rw [takeString?.eq_5 c s hquote (fun _ _ _ _ _ h _ => hslash h) (fun _ _ h _ => hslash h),
    if_neg (not_or.mpr ⟨hslash, hcontrol⟩)]
  rcases takeString? s with _ | ⟨units, rest⟩ <;> rfl

theorem hexFour?_hexByte {n : Nat} (h : n < 0x20) :
    ∃ a b, hexByte n = [a, b] ∧ hexFour? '0' '0' a b = some n := by
  have hall : ∀ n < 0x20, hexByte n = [(hexByte n).headD '0', (hexByte n).getLastD '0'] ∧
      hexFour? '0' '0' ((hexByte n).headD '0') ((hexByte n).getLastD '0') = some n := by
    decide
  exact ⟨_, _, hall n h⟩

/-- A written character is read as a part that stands for it. -/
theorem exists_takeString?_escapeChar (c : Char) :
    ∃ u : Unit16, u.StandsFor c ∧ ∀ s, takeString? (escapeChar c ++ s) =
      (takeString? s).map fun p => (u :: p.1, p.2) := by
  have hletter : ∀ e, e ≠ 'u' → escaped? e = some c → ∃ u : Unit16, u.StandsFor c ∧
      ∀ s, takeString? (['\\', e] ++ s) = (takeString? s).map fun p => (u :: p.1, p.2) :=
    fun e hu he => ⟨.char c, Or.inl rfl, takeString?_letter hu he⟩
  have hnumber : ∀ n, c.toNat = n → Char.ofNat n = c := by
    rintro n rfl
    exact Char.ofNat_toNat c
  unfold escapeChar
  split
  · rename_i h
    exact hletter '"' (by decide) (by rw [h]; rfl)
  · rename_i hquote
    split
    · rename_i h
      exact hletter '\\' (by decide) (by rw [h]; rfl)
    · rename_i hslash
      split
      · rename_i h
        exact hletter 'n' (by decide) (by rw [h]; rfl)
      split
      · rename_i h
        exact hletter 'r' (by decide) (by rw [h]; rfl)
      split
      · rename_i h
        exact hletter 't' (by decide) (by rw [h]; rfl)
      split
      · rename_i h
        exact hletter 'b' (by decide) (congrArg some (hnumber 8 h))
      split
      · rename_i h
        exact hletter 'f' (by decide) (congrArg some (hnumber 12 h))
      split
      · rename_i hcontrol
        obtain ⟨a, b, hbyte, hread⟩ := hexFour?_hexByte hcontrol
        refine ⟨.code c.toNat, Or.inr ⟨rfl, hcontrol⟩, fun s => ?_⟩
        rw [hbyte]
        exact takeString?_code hread s
      · rename_i hcontrol
        exact ⟨.char c, Or.inl rfl, takeString?_plain hquote hslash hcontrol⟩

/-! ## Whole strings -/

theorem exists_takeString?_escaped (cs rest : List Char) :
    ∃ units, takeString? (cs.flatMap escapeChar ++ '"' :: rest) = some (units, rest) ∧
      combine? units = some cs := by
  induction cs with
  | nil => exact ⟨[], by rw [List.flatMap_nil, List.nil_append, takeString?], rfl⟩
  | cons c cs ih =>
      obtain ⟨units, htake, hcombine⟩ := ih
      obtain ⟨u, hu, hread⟩ := exists_takeString?_escapeChar c
      refine ⟨u :: units, ?_, ?_⟩
      · rw [List.flatMap_cons, List.append_assoc, hread, htake]
        rfl
      · rw [combine?_cons hu, hcombine]
        rfl

theorem takeText?_escaped (s : String) (rest : List Char) :
    takeText? (s.toList.flatMap escapeChar ++ '"' :: rest) = some (some s, rest) := by
  obtain ⟨units, htake, hcombine⟩ := exists_takeString?_escaped s.toList rest
  rw [takeText?, htake, Option.map_some, hcombine, Option.map_some, String.ofList_toList]

theorem toList_stringText (s : String) :
    (stringText s).toList = '"' :: (s.toList.flatMap escapeChar ++ ['"']) := by
  simp only [stringText, String.toList_append, String.toList_ofList]
  rfl

/-- A text that is one written string is read as that string. -/
theorem read?_stringText (s : String) : read? (stringText s) = some (.string (some s)) := by
  have hskip : ∀ t, skipGap ('"' :: t) = '"' :: t := fun t =>
    List.dropWhile_cons_of_neg (by decide)
  rw [read?, toList_stringText, takeValue?, hskip]
  simp only [takeText?_escaped, Option.map_some]
  rfl

end Hooklog.Json
