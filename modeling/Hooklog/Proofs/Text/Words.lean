import Hooklog.Text.Words
import Hooklog.Proofs.Text.Classes

/-!
# Spans and words

Where the characters that satisfy a test end, a span ends; and words that are joined by a
separator are found again.
-/

namespace Hooklog.Text

section Spans

variable {p : Char → Bool} {s t : List Char} (hs : ∀ c ∈ s, p c = true)
  (ht : ∀ c, t.head? = some c → p c = false)

include hs ht

/-- A span ends where a character fails the test. -/
theorem takeWhile_append_stop : (s ++ t).takeWhile p = s := by
  rw [List.takeWhile_append_of_pos hs]
  cases t with
  | nil => exact List.append_nil s
  | cons c t =>
      rw [List.takeWhile_cons_of_neg (by rw [ht c rfl]; decide), List.append_nil]

theorem dropWhile_append_stop : (s ++ t).dropWhile p = t := by
  rw [List.dropWhile_append_of_pos hs]
  cases t with
  | nil => rfl
  | cons c t => rw [List.dropWhile_cons_of_neg (by rw [ht c rfl]; decide)]

end Spans

/-- A trimmed text starts with a character that was not to be trimmed. -/
theorem head?_trimBoth {p : Char → Bool} {s : List Char} {c : Char}
    (h : (trimBoth p s).head? = some c) : p c = false := by
  have htrimmed : trimBoth p s <+: trimStart p s :=
    List.reverse_suffix.mp (by
      rw [trimBoth, trimEnd, List.reverse_reverse]
      exact List.dropWhile_suffix p)
  obtain ⟨rest, hrest⟩ := htrimmed
  have hhead : (s.dropWhile p).head? = some c := by
    rw [← trimStart, ← hrest, List.head?_append, h]
    rfl
  have hnot := List.head?_dropWhile_not p s
  rw [hhead] at hnot
  exact hnot

/-- A text is its trimmed part between characters that were to be trimmed. -/
theorem exists_trimBoth (p : Char → Bool) (s : List Char) :
    ∃ before after, s = before ++ (trimBoth p s ++ after) ∧ (∀ c ∈ before, p c = true) ∧
      ∀ c ∈ after, p c = true := by
  refine ⟨s.takeWhile p, ((trimStart p s).reverse.takeWhile p).reverse, ?_,
    List.all_eq_true.mp List.all_takeWhile, fun c hc => ?_⟩
  · rw [trimBoth, trimEnd, ← List.reverse_append, List.takeWhile_append_dropWhile,
      List.reverse_reverse, trimStart, List.takeWhile_append_dropWhile]
  · exact List.all_eq_true.mp List.all_takeWhile c (List.mem_reverse.mp hc)

/-- A part without characters to be trimmed is found between such characters. -/
theorem trimBoth_append {p : Char → Bool} {before core after : List Char}
    (hbefore : ∀ c ∈ before, p c = true) (hcore : ∀ c ∈ core, p c = false)
    (hafter : ∀ c ∈ after, p c = true) : trimBoth p (before ++ (core ++ after)) = core := by
  cases core with
  | nil =>
      have hall : (before ++ (after ++ [])).dropWhile p = [] := by
        rw [List.dropWhile_append_of_pos hbefore, List.dropWhile_append_of_pos hafter]
        rfl
      rw [List.nil_append, trimBoth, trimStart, ← List.append_nil after, hall]
      rfl
  | cons c core =>
      have hhead : ∀ d, (c :: core ++ after).head? = some d → p d = false := fun d hd =>
        Option.some.inj hd ▸ hcore c List.mem_cons_self
      have hlast : ∀ d, (c :: core).reverse.head? = some d → p d = false := fun d hd =>
        hcore d (List.mem_reverse.mp (List.mem_of_head? hd))
      rw [trimBoth, trimStart, dropWhile_append_stop hbefore hhead, trimEnd, List.reverse_append,
        dropWhile_append_stop (fun d hd => hafter d (List.mem_reverse.mp hd)) hlast,
        List.reverse_reverse]

/-- Without characters to be trimmed, nothing is trimmed. -/
theorem trimBoth_of_none {p : Char → Bool} {s : List Char} (h : ∀ c ∈ s, p c = false) :
    trimBoth p s = s := by
  have hframed := trimBoth_append (List.forall_mem_nil _) h (List.forall_mem_nil _)
  rwa [List.nil_append, List.append_nil] at hframed

/-! ## Joined words -/

theorem splitAtChar_of_none {sep : Char → Bool} {s : List Char} (h : ∀ c ∈ s, sep c = false) :
    splitAtChar sep s = [s] := by
  induction s with
  | nil => rfl
  | cons c s ih =>
      have hc := h c List.mem_cons_self
      rw [splitAtChar, ih fun d hd => h d (List.mem_cons_of_mem c hd), hc]
      rfl

theorem splitAtChar_ne_nil (sep : Char → Bool) (s : List Char) : splitAtChar sep s ≠ [] := by
  cases s with
  | nil => exact List.cons_ne_nil _ _
  | cons c s =>
      rw [splitAtChar]
      split
      · exact List.cons_ne_nil _ _
      · split <;> exact List.cons_ne_nil _ _

/-- A separator cuts a text in two. -/
theorem splitAtChar_append_cons {sep : Char → Bool} {d : Char} (hd : sep d = true)
    (s t : List Char) : splitAtChar sep (s ++ d :: t) = splitAtChar sep s ++ splitAtChar sep t := by
  induction s with
  | nil =>
      rw [List.nil_append, splitAtChar.eq_2, if_pos hd]
      rfl
  | cons c s ih =>
      rw [List.cons_append, splitAtChar, splitAtChar, ih]
      split
      · rfl
      · cases hs : splitAtChar sep s with
        | nil => exact absurd hs (splitAtChar_ne_nil sep s)
        | cons piece pieces => rfl

theorem splitAtChar_append {sep : Char → Bool} {s : List Char} (h : ∀ c ∈ s, sep c = false)
    {d : Char} (hd : sep d = true) (t : List Char) :
    splitAtChar sep (s ++ d :: t) = s :: splitAtChar sep t := by
  rw [splitAtChar_append_cons hd, splitAtChar_of_none h, List.singleton_append]

/-- Characters without a separator at the end of a text belong to its last piece. -/
theorem splitAtChar_append_last {sep : Char → Bool} {t : List Char}
    (ht : ∀ c ∈ t, sep c = false) (s : List Char) :
    ∃ init last, splitAtChar sep s = init ++ [last] ∧
      splitAtChar sep (s ++ t) = init ++ [last ++ t] := by
  induction s with
  | nil => exact ⟨[], [], rfl, splitAtChar_of_none ht⟩
  | cons c s ih =>
      obtain ⟨init, last, hs, hst⟩ := ih
      rw [List.cons_append, splitAtChar, splitAtChar, hs, hst]
      split
      · exact ⟨[] :: init, last, rfl, rfl⟩
      · cases init with
        | nil => exact ⟨[], c :: last, rfl, rfl⟩
        | cons piece pieces => exact ⟨(c :: piece) :: pieces, last, rfl, rfl⟩

/-- A text is cut in the same places when its characters are replaced and its separators are
not. -/
theorem splitAtChar_map {sep : Char → Bool} {g : Char → Char} (hg : ∀ c, sep (g c) = sep c)
    (s : List Char) : splitAtChar sep (s.map g) = (splitAtChar sep s).map (List.map g) := by
  induction s with
  | nil => rfl
  | cons c s ih =>
      rw [List.map_cons, splitAtChar, splitAtChar, ih, hg]
      split
      · rfl
      · cases splitAtChar sep s with
        | nil => rfl
        | cons piece pieces => rfl

theorem mem_of_mem_splitAtChar {sep : Char → Bool} {s piece : List Char}
    (hpiece : piece ∈ splitAtChar sep s) {c : Char} (hc : c ∈ piece) : c ∈ s := by
  induction s generalizing piece with
  | nil =>
      obtain rfl := List.mem_singleton.mp hpiece
      exact absurd hc List.not_mem_nil
  | cons d s ih =>
      rw [splitAtChar] at hpiece
      split at hpiece
      · rcases List.mem_cons.mp hpiece with rfl | hpiece
        · exact absurd hc List.not_mem_nil
        · exact List.mem_cons_of_mem d (ih hpiece hc)
      · cases hs : splitAtChar sep s with
        | nil => exact absurd hs (splitAtChar_ne_nil sep s)
        | cons first rest =>
            rw [hs] at hpiece ih
            rcases List.mem_cons.mp hpiece with rfl | hpiece
            · rcases List.mem_cons.mp hc with rfl | hc
              · exact List.mem_cons_self
              · exact List.mem_cons_of_mem d (ih List.mem_cons_self hc)
            · exact List.mem_cons_of_mem d (ih (List.mem_cons_of_mem first hpiece) hc)

/-- A word: letters and numbers, at least one. -/
structure IsWordText (s : List Char) : Prop where
  alphanumeric : ∀ c ∈ s, isAlphanumeric c = true
  ne_nil : s ≠ []

namespace IsWordText

variable {s : List Char} (h : IsWordText s)

include h

theorem not_separator : ∀ c ∈ s, (!isAlphanumeric c) = false := by
  intro c hc
  rw [h.alphanumeric c hc]
  rfl

theorem filter_cons (l : List (List Char)) :
    (s :: l).filter (fun w => !w.isEmpty) = s :: l.filter fun w => !w.isEmpty := by
  cases hs : s with
  | nil => exact absurd hs h.ne_nil
  | cons c t => rfl

theorem words_self : words s = [s] := by
  rw [words, splitAtChar_of_none h.not_separator, h.filter_cons, List.filter_nil]

theorem words_append {d : Char} (hd : isAlphanumeric d = false) (t : List Char) :
    words (s ++ d :: t) = s :: words t := by
  have hsep : (!isAlphanumeric d) = true := by rw [hd]; rfl
  rw [words, splitAtChar_append h.not_separator hsep, h.filter_cons]
  rfl

end IsWordText

/-! ## Joined texts -/

theorem toList_joinWith_cons_cons (sep s t : String) (rest : List String) :
    (joinWith sep (s :: t :: rest)).toList =
      s.toList ++ (sep.toList ++ (joinWith sep (t :: rest)).toList) := by
  simp only [joinWith, String.toList_append, List.append_assoc]

/-- What holds of no text, and of any two texts in a row, holds of joined texts. -/
theorem joinWith_induction {Q : List Char → Prop} (hnil : Q [])
    (happend : ∀ s t, Q s → Q t → Q (s ++ t)) {sep : String} (hsep : Q sep.toList)
    {texts : List String} (h : ∀ s ∈ texts, Q s.toList) : Q (joinWith sep texts).toList := by
  induction texts with
  | nil => exact hnil
  | cons s rest ih =>
      obtain ⟨hs, hrest⟩ := List.forall_mem_cons.mp h
      cases rest with
      | nil => exact hs
      | cons t rest =>
          rw [toList_joinWith_cons_cons]
          exact happend _ _ hs (happend _ _ hsep (ih hrest))

/-- Words joined by commas are found again. -/
theorem words_joinWith {names : List String} (hnames : ∀ n ∈ names, IsWordText n.toList) :
    (words (joinWith "," names).toList).map String.ofList = names := by
  induction names with
  | nil => rfl
  | cons n rest ih =>
      have hn := hnames n List.mem_cons_self
      have hrest : ∀ k ∈ rest, IsWordText k.toList :=
        fun k hk => hnames k (List.mem_cons_of_mem n hk)
      cases rest with
      | nil => rw [joinWith, hn.words_self, List.map_singleton, String.ofList_toList]
      | cons m rest =>
          have htext : (joinWith "," (n :: m :: rest)).toList =
              n.toList ++ ',' :: (joinWith "," (m :: rest)).toList :=
            toList_joinWith_cons_cons "," n m rest
          rw [htext, hn.words_append (by decide), List.map_cons, String.ofList_toList, ih hrest]

end Hooklog.Text
