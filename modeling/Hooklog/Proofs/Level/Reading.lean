import Hooklog.Level.Json
import Hooklog.Proofs.Decimal.Integer
import Hooklog.Proofs.Json.Strings
import Hooklog.Proofs.Logger.Filtering
import Hooklog.Proofs.Text.Case
import Hooklog.Proofs.Text.Words

/-!
# Reading back levels

A level that has a name is read back from its text and from its JSON text.  The text of any other
level shows its ordinal between parentheses, which no reader takes.

* `IsNameLike` is a text that the reader leaves as it stands, and `read_eq` looks it up among the
  names.
* `read_written` compares what is read with what was written, for every level.
-/

namespace Hooklog.Level

open Text

/-- A level that is written as a name. -/
def HasName (l : Level) : Prop := l ≤ .trace ∨ l = .print ∨ l = .disabled

instance (l : Level) : Decidable l.HasName := inferInstanceAs (Decidable (_ ∨ _ ∨ _))

/-- A character that is read as it stands: it is of ASCII, has no other lower case and is not
blank. -/
def isStable (c : Char) : Bool := c.toNat < 0x80 && c.toLower = c && !isBlank c

theorem isStable_iff {c : Char} :
    isStable c = true ↔ c.toNat < 0x80 ∧ c.toLower = c ∧ isBlank c = false := by
  simp [isStable, and_assoc]

/-- A text that is read as it stands and starts with a letter. -/
structure IsNameLike (s : List Char) : Prop where
  stable : s.all isStable = true
  head : s.head?.any isAsciiLetter = true

namespace IsNameLike

variable {s : List Char} (h : IsNameLike s)

include h

theorem isStable_of_mem : ∀ c ∈ s, c.toNat < 0x80 ∧ c.toLower = c ∧ isBlank c = false :=
  fun c hc => isStable_iff.mp (List.all_eq_true.mp h.stable c hc)

theorem exists_head : ∃ c t, s = c :: t ∧ isAsciiLetter c = true := by
  have hhead := h.head
  cases s with
  | nil => exact absurd hhead Bool.false_ne_true
  | cons c t => exact ⟨c, t, rfl, hhead⟩

theorem trim_eq : trim s = s := trimBoth_of_none fun c hc => (h.isStable_of_mem c hc).2.2

theorem lower_eq : Text.lower s = s := by
  rw [lower_of_ascii fun c hc => (h.isStable_of_mem c hc).1]
  exact (List.map_congr_left fun c hc => (h.isStable_of_mem c hc).2.1).trans (List.map_id s)

/-- A text that starts with a letter is no integer. -/
theorem readWithin?_eq (b : Decimal.Bounds) : Decimal.readWithin? b s = none := by
  obtain ⟨c, t, rfl, hletter⟩ := h.exists_head
  have hc := isAsciiLetter_iff.mp hletter
  have hdigit : isAsciiDigit c = false := by
    rw [Bool.eq_false_iff, ne_eq, isAsciiDigit_iff]
    omega
  have hminus : c ≠ '-' := by rintro rfl; exact absurd hletter (by decide)
  have hplus : c ≠ '+' := by rintro rfl; exact absurd hletter (by decide)
  have hnatural : Decimal.readNatural? (c :: t) = none := by
    rw [Decimal.readNatural?, if_neg]
    rintro ⟨-, hall⟩
    rw [List.all_cons, hdigit, Bool.false_and] at hall
    exact Bool.false_ne_true hall
  have hsigned : Decimal.readSigned? (c :: t) = none := by
    rw [Decimal.readSigned?.eq_3 _ (fun _ h => hminus (List.cons.inj h).1)
      (fun _ h => hplus (List.cons.inj h).1), hnatural]
    rfl
  rw [Decimal.readWithin?, hsigned]

theorem named?_eq : named? s = (names ++ aliases).lookup (String.ofList s) := by
  rw [named?, h.lower_eq]

end IsNameLike

/-- Such a text is looked up among the names. -/
theorem read_eq {s : String} (h : IsNameLike s.toList) :
    read s = ((names ++ aliases).lookup s).elim (.error (.invalidLevel s .unknownName)) .ok := by
  obtain ⟨c, t, hs, -⟩ := h.exists_head
  have hne : trim s.toList ≠ [] := by
    rw [h.trim_eq, hs]
    exact List.cons_ne_nil c t
  rw [read, if_neg hne, h.trim_eq, h.readWithin?_eq, h.named?_eq, String.ofList_toList]
  cases (names ++ aliases).lookup s <;> rfl

/-! ## Texts of levels -/

theorem isNameLike_of_mem_names : ∀ p ∈ names, IsNameLike p.1.toList := by
  have hstable : ∀ p ∈ names, p.1.toList.all isStable = true := by decide
  have hhead : ∀ p ∈ names, p.1.toList.head?.any isAsciiLetter = true := by decide
  exact fun p hp => ⟨hstable p hp, hhead p hp⟩

theorem lookup_of_mem_names : ∀ p ∈ names, (names ++ aliases).lookup p.1 = some p.2 := by decide

/-- Text of an ordinal that has no name. -/
def ordinalText (n : Nat) : String := "level(" ++ Decimal.naturalText n ++ ")"

theorem toList_ordinalText (n : Nat) :
    (ordinalText n).toList = "level(".toList ++ (Decimal.digitsOf n ++ [')']) := by
  simp only [ordinalText, Decimal.naturalText, String.toList_append, String.toList_ofList,
    List.append_assoc]
  rfl

theorem isNameLike_ordinalText (n : Nat) : IsNameLike (ordinalText n).toList := by
  have hdigits : ∀ {c : Char}, c.toNat < 0x80 → isAsciiDigit c = true → isStable c = true :=
    forall_ascii (fun c => isAsciiDigit c = true → isStable c = true) (by decide +kernel)
  have hnumber : (Decimal.digitsOf n).all isStable = true := by
    rw [List.all_eq_true]
    intro c hc
    have hdigit := Decimal.isAsciiDigit_of_mem_digitsOf hc
    have hrange := isAsciiDigit_iff.mp hdigit
    exact hdigits (by omega) hdigit
  have hframe : "level(".toList.all isStable = true ∧ [')'].all isStable = true := by decide
  rw [toList_ordinalText]
  refine ⟨?_, rfl⟩
  rw [List.all_append, List.all_append, hframe.1, hnumber, hframe.2]
  rfl

/-- No name holds a parenthesis. -/
theorem lookup_ordinalText (n : Nat) : (names ++ aliases).lookup (ordinalText n) = none := by
  have hnames : ∀ name ∈ (names ++ aliases).map (·.1), '(' ∉ name.toList := by decide
  rw [lookup_eq_none_iff_notMem]
  intro hmem
  refine hnames _ hmem ?_
  rw [toList_ordinalText]
  exact List.mem_append_left _ (by decide)

theorem hasName_of_mem_names : ∀ p ∈ names, p.2.HasName := by decide

theorem exists_name_of_hasName {l : Level} (h : l.HasName) : ∃ name, (name, l) ∈ names := by
  have hstandard : ∀ l ∈ standard, ∃ p ∈ names, p.2 = l := by decide
  rcases h with h | rfl | rfl
  · obtain ⟨p, hp, rfl⟩ := hstandard l ((mem_standard l).mpr h)
    exact ⟨p.1, hp⟩
  · exact ⟨"print", by decide⟩
  · exact ⟨"disabled", by decide⟩

theorem mem_names_of_hasName {l : Level} (h : l.HasName) : (l.text, l) ∈ names := by
  obtain ⟨name, hname⟩ := exists_name_of_hasName h
  cases hfind : names.find? fun p => p.2 = l with
  | none => exact absurd (decide_eq_true rfl) (List.find?_eq_none.mp hfind (name, l) hname)
  | some p =>
      have hp : p.2 = l := by simpa using List.find?_some hfind
      have htext : l.text = p.1 := by rw [text, name?, hfind]; rfl
      rw [htext, ← hp]
      exact List.mem_of_find?_eq_some hfind

theorem text_of_not_hasName {l : Level} (h : ¬ l.HasName) :
    l.text = ordinalText l.ordinal.toNat := by
  have hfind : names.find? (fun p => p.2 = l) = none := by
    rw [List.find?_eq_none]
    intro p hp hl
    exact h (of_decide_eq_true hl ▸ hasName_of_mem_names p hp)
  rw [text, name?, hfind]
  rfl

/-! ## Reading back -/

theorem read_text_of_hasName {l : Level} (h : l.HasName) : read l.text = .ok l := by
  have hname := mem_names_of_hasName h
  rw [read_eq (isNameLike_of_mem_names _ hname), lookup_of_mem_names _ hname]
  rfl

theorem read_text_of_not_hasName {l : Level} (h : ¬ l.HasName) :
    read l.text = .error (.invalidLevel l.text .unknownName) := by
  rw [text_of_not_hasName h, read_eq (isNameLike_ordinalText _), lookup_ordinalText]
  rfl

/-- A level in JSON text is read as its text is. -/
theorem ofDocument?_toJson (l : Level) :
    (Json.read? l.toJson.compact).bind ofDocument? = (read l.text).toOption := by
  rw [toJson, Json.compact, Json.read?_stringText]
  rfl

end Hooklog.Level
