import Hooklog.Catcher.Marker
import Hooklog.Proofs.Tables
import Hooklog.Proofs.Text.Words

/-!
# Markers of levels

What a marker is, said without the reader: the name of a level between brackets, in any
letter case.  `marker?` reads exactly the markers, and `firstMarker?` finds the first one of
a text.
-/

namespace Hooklog.Catcher

open Text

/-- A word marks a level: it is one of the names of the level between brackets, in any letter
case. -/
def Marks (word : List Char) (level : Level) : Prop :=
  ∃ name p, p ∈ markerWords ∧ p.2 = level ∧ name.map Char.toLower = p.1.toList ∧
    word = '[' :: (name ++ [']'])

/-- A marker stands in a text before some characters and after others, and none stands
further to the left. -/
structure FirstMarker (text before : List Char) (level : Level) (after : List Char) :
    Prop where
  found : ∃ word, Marks word level ∧ text = before ++ word ++ after
  leftmost : ∀ before' word level' after', Marks word level' →
    text = before' ++ word ++ after' → before.length ≤ before'.length

/-- A marker that is followed by blanks and an opening brace. -/
def HoldsBracedMarker (text : List Char) : Prop :=
  ∃ before word level gap after, Marks word level ∧ (∀ c ∈ gap, isGap c = true) ∧
    text = before ++ word ++ gap ++ '{' :: after

/-! ## Reading a marker -/

theorem isAsciiLetter_of_name {name : List Char} {p : String × Level} (hp : p ∈ markerWords)
    (hname : name.map Char.toLower = p.1.toList) : ∀ c ∈ name, isAsciiLetter c = true := by
  have hwords : ∀ p ∈ markerWords, SmallLetters p.1.toList := by decide
  intro c hc
  have hmem : c.toLower ∈ p.1.toList := hname ▸ List.mem_map_of_mem hc
  exact isAsciiLetter_of_toLower (hwords p hp _ hmem).1 (hwords p hp _ hmem).2

theorem markerLevel?_eq_some_iff (name : List Char) (level : Level) :
    markerLevel? name = some level ↔
      ∃ p, p ∈ markerWords ∧ p.2 = level ∧ name.map Char.toLower = p.1.toList := by
  have hlookup : ∀ p ∈ markerWords, markerWords.lookup p.1 = some p.2 := by decide
  unfold markerLevel?
  constructor
  · intro h
    exact ⟨(String.ofList (name.map Char.toLower), level), mem_of_lookup h, rfl,
      String.toList_ofList.symm⟩
  · rintro ⟨p, hp, rfl, hname⟩
    rw [hname, String.ofList_toList]
    exact hlookup p hp

/-- The reader takes exactly the markers. -/
theorem marker?_eq_some_iff (s : List Char) (level : Level) (rest : List Char) :
    marker? s = some (level, rest) ↔ ∃ word, Marks word level ∧ s = word ++ rest := by
  constructor
  · intro h
    unfold marker? at h
    split at h
    · rename_i s
      split at h
      · rename_i rest' hdrop
        obtain ⟨level', hlevel, hpair⟩ := Option.map_eq_some_iff.mp h
        obtain ⟨rfl, rfl⟩ := Prod.mk.inj hpair
        obtain ⟨p, hp, hlev, hname⟩ := (markerLevel?_eq_some_iff _ _).mp hlevel
        refine ⟨_, ⟨s.takeWhile isAsciiLetter, p, hp, hlev, hname, rfl⟩, ?_⟩
        have hsplit := List.takeWhile_append_dropWhile (p := isAsciiLetter) (l := s)
        rw [hdrop] at hsplit
        rw [List.cons_append, List.append_assoc, List.singleton_append, hsplit]
      · simp at h
    · simp at h
  · -- a name holds letters only, so reading letters stops at the closing bracket
    rintro ⟨word, ⟨name, p, hp, hlevel, hname, rfl⟩, rfl⟩
    have hletters := isAsciiLetter_of_name hp hname
    have hstop : ∀ c, (']' :: rest).head? = some c → isAsciiLetter c = false := by
      rintro c ⟨⟩
      decide
    have htake := takeWhile_append_stop hletters hstop
    have hdrop := dropWhile_append_stop hletters hstop
    have hread : markerLevel? name = some level :=
      (markerLevel?_eq_some_iff name level).mpr ⟨p, hp, hlevel, hname⟩
    rw [List.cons_append, List.append_assoc, List.singleton_append, marker?, hdrop]
    simp only [htake, hread, Option.map_some]

/-! ## The first marker of a text -/

/-- Where no marker is read at the head of a text, none stands there. -/
theorem not_marks_of_marker?_eq_none {s : List Char} (h : marker? s = none)
    {word after : List Char} {level : Level} (hword : Marks word level) : s ≠ word ++ after := by
  intro hs
  rw [(marker?_eq_some_iff s level after).mpr ⟨word, hword, hs⟩] at h
  exact Option.some_ne_none _ h

theorem firstMarker?_eq_none {text : List Char} (h : firstMarker? text = none)
    {before word after : List Char} {level : Level} (hword : Marks word level) :
    text ≠ before ++ word ++ after := by
  induction text generalizing before with
  | nil =>
      obtain ⟨name, p, -, -, -, rfl⟩ := hword
      simp
  | cons c s ih =>
      rw [firstMarker?] at h
      split at h
      · simp at h
      · rename_i hnone
        cases before with
        | nil => exact not_marks_of_marker?_eq_none hnone hword
        | cons b before =>
            intro hs
            rw [List.cons_append, List.cons_append] at hs
            exact ih (Option.map_eq_none_iff.mp h) (List.cons.inj hs).2

theorem firstMarker_of_firstMarker? {text before after : List Char} {level : Level}
    (h : firstMarker? text = some (before, level, after)) :
    FirstMarker text before level after := by
  induction text generalizing before with
  | nil => simp [firstMarker?] at h
  | cons c s ih =>
      rw [firstMarker?] at h
      split at h
      · rename_i level' rest hmarker
        simp only [Option.some.injEq, Prod.mk.injEq] at h
        obtain ⟨rfl, rfl, rfl⟩ := h
        obtain ⟨word, hword, hs⟩ := (marker?_eq_some_iff _ _ _).mp hmarker
        exact ⟨⟨word, hword, hs⟩, fun _ _ _ _ _ _ => Nat.zero_le _⟩
      · rename_i hnone
        obtain ⟨⟨before', level', after'⟩, hfound, hpair⟩ := Option.map_eq_some_iff.mp h
        simp only [Prod.mk.injEq] at hpair
        obtain ⟨rfl, rfl, rfl⟩ := hpair
        obtain ⟨⟨word, hword, hs⟩, hleft⟩ := ih hfound
        refine ⟨⟨word, hword, by rw [hs]; rfl⟩, ?_⟩
        intro b w l a hw hsplit
        -- no marker stands at the head, so a marker further left is one of the tail
        cases b with
        | nil => exact absurd hsplit (not_marks_of_marker?_eq_none hnone hw)
        | cons b₀ b =>
            rw [List.cons_append, List.cons_append] at hsplit
            exact Nat.succ_le_succ (hleft b w l a hw (List.cons.inj hsplit).2)

/-- A text has one first marker at most. -/
theorem FirstMarker.unique {text before before' after after' : List Char} {level level' : Level}
    (h : FirstMarker text before level after) (h' : FirstMarker text before' level' after') :
    before = before' ∧ level = level' ∧ after = after' := by
  obtain ⟨word, hword, hs⟩ := h.found
  obtain ⟨word', hword', hs'⟩ := h'.found
  have hlength : before.length = before'.length :=
    Nat.le_antisymm (h.leftmost _ _ _ _ hword' hs') (h'.leftmost _ _ _ _ hword hs)
  rw [hs, List.append_assoc, List.append_assoc] at hs'
  obtain ⟨hbefore, hrest⟩ := List.append_inj hs' hlength
  -- both markers stand at the same place, where the reader takes one of them
  have hread := (marker?_eq_some_iff (word ++ after) level after).mpr ⟨word, hword, rfl⟩
  rw [hrest, (marker?_eq_some_iff _ _ _).mpr ⟨word', hword', rfl⟩] at hread
  simp only [Option.some.injEq, Prod.mk.injEq] at hread
  exact ⟨hbefore, hread.1.symm, hread.2.symm⟩

theorem firstMarker?_eq_some_iff (text before : List Char) (level : Level)
    (after : List Char) :
    firstMarker? text = some (before, level, after) ↔ FirstMarker text before level after := by
  refine ⟨firstMarker_of_firstMarker?, fun h => ?_⟩
  cases hfound : firstMarker? text with
  | none =>
      obtain ⟨word, hword, hs⟩ := h.found
      exact absurd hs (firstMarker?_eq_none hfound hword)
  | some found =>
      obtain ⟨hbefore, hlevel, hafter⟩ := h.unique (firstMarker_of_firstMarker? hfound)
      rw [hbefore, hlevel, hafter]

/-! ## Markers with a brace -/

theorem HoldsBracedMarker.append_left {text : List Char} (h : HoldsBracedMarker text)
    (front : List Char) : HoldsBracedMarker (front ++ text) := by
  obtain ⟨before, word, level, gap, after, hword, hgap, rfl⟩ := h
  exact ⟨front ++ before, word, level, gap, after, hword, hgap, by simp⟩

theorem HoldsBracedMarker.append_right {text : List Char} (h : HoldsBracedMarker text)
    (back : List Char) : HoldsBracedMarker (text ++ back) := by
  obtain ⟨before, word, level, gap, after, hword, hgap, rfl⟩ := h
  exact ⟨before, word, level, gap, after ++ back, hword, hgap, by simp⟩

/-- Text without an opening brace holds no braced marker. -/
theorem not_holdsBracedMarker_of_notMem {text : List Char} (h : '\x7b' ∉ text) :
    ¬ HoldsBracedMarker text := by
  rintro ⟨before, word, level, gap, after, -, -, rfl⟩
  simp at h

/-- The brace that follows a marker is not the end of a line put behind the text. -/
theorem holdsBracedMarker_of_newline {text : List Char}
    (h : HoldsBracedMarker (text ++ ['\n'])) : HoldsBracedMarker text := by
  obtain ⟨before, word, level, gap, after, hword, hgap, heq⟩ := h
  rcases List.eq_nil_or_concat after with rfl | ⟨after, c, rfl⟩
  · have hlast := congrArg List.getLast? heq
    simp at hlast
  · rw [List.concat_eq_append, ← List.cons_append, ← List.append_assoc] at heq
    exact ⟨before, word, level, gap, after, hword, hgap, (List.append_inj' heq rfl).1⟩

theorem exists_brace_of_braces? {s : List Char} {p : List Char × List Char}
    (h : braces? s = some p) :
    ∃ gap rest, (∀ c ∈ gap, isGap c = true) ∧ s = gap ++ '{' :: rest := by
  unfold braces? at h
  split at h
  · rename_i body hbody
    refine ⟨s.takeWhile isGap, body, List.all_eq_true.mp List.all_takeWhile, ?_⟩
    rw [← hbody, List.takeWhile_append_dropWhile]
  · simp at h

/-- Where a text holds no braced message, no end of it does. -/
theorem braced?_of_append {front text : List Char} (h : braced? (front ++ text) = none) :
    braced? text = none := by
  induction front with
  | nil => exact h
  | cons c front ih =>
      rw [List.cons_append, braced?] at h
      split at h
      · exact absurd h (Option.some_ne_none _)
      · exact ih (Option.map_eq_none_iff.mp h)

/-- Without a marker before a brace there is no braced message. -/
theorem braced?_eq_none {text : List Char} (h : ¬ HoldsBracedMarker text) :
    braced? text = none := by
  induction text with
  | nil => rfl
  | cons c s ih =>
      have hhere : bracedHere? (c :: s) = none := by
        unfold bracedHere?
        split
        · rfl
        · rename_i level rest hmarker
          obtain ⟨word, hword, hs⟩ := (marker?_eq_some_iff _ _ _).mp hmarker
          rw [Option.map_eq_none_iff]
          cases hbraces : braces? rest with
          | none => rfl
          | some p =>
              obtain ⟨gap, after, hgap, hrest⟩ := exists_brace_of_braces? hbraces
              refine absurd ⟨[], word, level, gap, after, hword, hgap, ?_⟩ h
              rw [hs, hrest]
              simp
      have hlater : ¬ HoldsBracedMarker s := fun hs => h (hs.append_left [c])
      rw [braced?, hhere, ih hlater]
      rfl

end Hooklog.Catcher
