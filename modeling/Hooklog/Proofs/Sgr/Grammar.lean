import Hooklog.Sgr.Strip
import Hooklog.Proofs.Text.Words

/-!
# The pattern of control sequences

What a control sequence is, said without the reader that looks for one.

* `IsSequenceText` is the pattern: an escape character, introducers, and then either letters,
  digits and semicolons up to a bell, or parameters and a final character.
* `exists_of_afterSequence?` says that what the reader takes fits the pattern, and
  `afterSequence?_ne_none` that it finds a sequence wherever there is one.  Which one it takes, if
  several start at the same place, is left open here.
* `HoldsNone` is a text without any sequence, and `holdsNone_iff` looks at its escape characters
  only.
-/

namespace Hooklog.Sgr

open Text

/-! ## The pattern -/

/-- A parameter: at most four digits. -/
def IsNumber (g : List Char) : Prop := g.length ≤ 4 ∧ ∀ c ∈ g, isDigit c = true

/-- Parameters with a semicolon between two of them.  All but the first may be empty. -/
inductive ParameterList : List Char → Prop where
  | single {g : List Char} : g ≠ [] → IsNumber g → ParameterList g
  | next {p g : List Char} : ParameterList p → IsNumber g → ParameterList (p ++ ';' :: g)

/-- What stands in a sequence behind the introducers. -/
inductive IsBody : List Char → Prop where
  | belled {w : List Char} : (∀ c ∈ w, isBelled c = true) → IsBody (w ++ [bell])
  | ended {p : List Char} {c : Char} : p = [] ∨ ParameterList p →
      isDigit c = true ∨ isFinal c = true → IsBody (p ++ [c])

/-- A control sequence. -/
inductive IsSequenceText : List Char → Prop where
  | mk {e : Char} {opened body : List Char} : isEscape e = true →
      (∀ c ∈ opened, isIntroducer c = true) → IsBody body → IsSequenceText (e :: (opened ++ body))

/-- A text that begins with a control sequence. -/
def StartsSequence (t : List Char) : Prop := ∃ q, IsSequenceText q ∧ q <+: t

/-- A text in which no control sequence stands. -/
def HoldsNone (t : List Char) : Prop := ∀ q, IsSequenceText q → ¬ q <:+: t

/-! ## Classes of characters -/

theorem isIntroducer_iff {c : Char} : isIntroducer c = true ↔
    c = '[' ∨ c = ']' ∨ c = '(' ∨ c = ')' ∨ c = '#' ∨ c = ';' ∨ c = '?' := by
  simp only [isIntroducer, Bool.or_eq_true, decide_eq_true_eq, or_assoc]

theorem not_introducer_of_ends {c : Char} (h : isDigit c = true ∨ isFinal c = true) :
    isIntroducer c = false := by
  rw [Bool.eq_false_iff]
  intro hc
  rcases isIntroducer_iff.mp hc with rfl | rfl | rfl | rfl | rfl | rfl | rfl <;>
    exact absurd h (by decide)

theorem isEscape_iff {c : Char} : isEscape c = true ↔ c = escape ∨ c = Char.ofNat 0x9B := by
  rw [isEscape, Bool.or_eq_true, decide_eq_true_eq, decide_eq_true_eq]

/-- An escape character has no other part in a sequence. -/
theorem not_part_of_isEscape {e : Char} (he : isEscape e = true) :
    isIntroducer e = false ∧ isBelled e = false ∧ e ≠ bell ∧ isDigit e = false ∧
      isFinal e = false := by
  rcases isEscape_iff.mp he with rfl | rfl <;> decide +kernel

theorem isBelled_of_isDigit {c : Char} (h : isDigit c = true) : isBelled c = true := by
  rw [isBelled, h, Bool.or_true, Bool.true_or]

theorem ParameterList.isBelled_of_mem {p : List Char} (h : ParameterList p) :
    ∀ c ∈ p, isBelled c = true := by
  induction h with
  | single _ hg => exact fun c hc => isBelled_of_isDigit (hg.2 c hc)
  | next _ hg ih =>
      intro c hc
      rcases List.mem_append.mp hc with hc | hc
      · exact ih c hc
      · rcases List.mem_cons.mp hc with rfl | hc
        · decide
        · exact isBelled_of_isDigit (hg.2 c hc)

/-- Parameters start with a digit. -/
theorem ParameterList.exists_head {p : List Char} (h : ParameterList p) :
    ∃ c rest, p = c :: rest ∧ isDigit c = true := by
  induction h with
  | @single g hne hg =>
      obtain ⟨c, rest, rfl⟩ := List.exists_cons_of_ne_nil hne
      exact ⟨c, rest, rfl, hg.2 c List.mem_cons_self⟩
  | next _ _ ih =>
      obtain ⟨c, rest, rfl, hc⟩ := ih
      exact ⟨c, _, rfl, hc⟩

/-- All characters of a sequence behind its introducers, but the last one, are letters, digits
and semicolons. -/
theorem IsBody.exists_concat {body : List Char} (h : IsBody body) :
    ∃ w c, body = w ++ [c] ∧ (∀ d ∈ w, isBelled d = true) ∧
      (c = bell ∨ isDigit c = true ∨ isFinal c = true) := by
  cases h with
  | @belled w hw => exact ⟨w, bell, rfl, hw, Or.inl rfl⟩
  | @ended p c hp hc =>
      refine ⟨p, c, rfl, ?_, Or.inr hc⟩
      rcases hp with rfl | hp
      · exact List.forall_mem_nil _
      · exact hp.isBelled_of_mem

/-- A sequence is an escape character, then introducers, letters, digits and semicolons, and
then one more character. -/
theorem IsSequenceText.exists_middle {q : List Char} (h : IsSequenceText q) :
    ∃ e w c, q = e :: (w ++ [c]) ∧ isEscape e = true ∧
      (∀ d ∈ w, isIntroducer d = true ∨ isBelled d = true) ∧
      (c = bell ∨ isDigit c = true ∨ isFinal c = true) := by
  obtain ⟨he, hopened, hbody⟩ := h
  obtain ⟨w, c, rfl, hw, hc⟩ := hbody.exists_concat
  refine ⟨_, _ ++ w, c, by rw [List.append_assoc], he, fun d hd => ?_, hc⟩
  rcases List.mem_append.mp hd with hd | hd
  · exact Or.inl (hopened d hd)
  · exact Or.inr (hw d hd)

/-- No escape character stands in a sequence but the first. -/
theorem IsSequenceText.notMem_of_isEscape {e d : Char} {q : List Char}
    (h : IsSequenceText (e :: q)) (hd : isEscape d = true) : d ∉ q := by
  obtain ⟨_, w, c, hq, -, hw, hc⟩ := h.exists_middle
  obtain ⟨-, rfl⟩ := List.cons_eq_cons.mp hq
  obtain ⟨hintroducer, hbelled, hbell, hdigit, hfinal⟩ := not_part_of_isEscape hd
  intro hmem
  rcases List.mem_append.mp hmem with hmem | hmem
  · rcases hw d hmem with h | h
    · exact Bool.noConfusion (h.symm.trans hintroducer)
    · exact Bool.noConfusion (h.symm.trans hbelled)
  · obtain rfl := List.mem_singleton.mp hmem
    rcases hc with h | h | h
    · exact hbell h
    · exact Bool.noConfusion (h.symm.trans hdigit)
    · exact Bool.noConfusion (h.symm.trans hfinal)

/-! ## What the reader takes fits the pattern -/

/-- Text read before a place at which the current parameter takes `room` more digits. -/
def ReadParameters (room : Nat) (p : List Char) : Prop :=
  ∃ g, (∀ c ∈ g, isDigit c = true) ∧ g.length + room = 4 ∧
    (p = g ∨ ∃ before, ParameterList before ∧ p = before ++ ';' :: g)

namespace ReadParameters

variable {room : Nat} {p : List Char}

theorem start : ReadParameters 4 [] := ⟨[], List.forall_mem_nil _, rfl, Or.inl rfl⟩

theorem digit {c : Char} (h : ReadParameters (room + 1) p) (hc : isDigit c = true) :
    ReadParameters room (p ++ [c]) := by
  obtain ⟨g, hg, hroom, hp⟩ := h
  refine ⟨g ++ [c], List.forall_mem_append.mpr ⟨hg, List.forall_mem_singleton.mpr hc⟩, ?_, ?_⟩
  · rw [List.length_append, List.length_singleton]
    omega
  · rcases hp with rfl | ⟨before, hbefore, rfl⟩
    · exact Or.inl rfl
    · exact Or.inr ⟨before, hbefore, by rw [List.append_assoc]; rfl⟩

theorem eq_nil_or (h : ReadParameters room p) : p = [] ∨ ParameterList p := by
  obtain ⟨g, hg, hroom, hp⟩ := h
  have hnumber : IsNumber g := ⟨by omega, hg⟩
  rcases hp with rfl | ⟨before, hbefore, rfl⟩
  · by_cases hne : p = []
    · exact Or.inl hne
    · exact Or.inr (.single hne hnumber)
  · exact Or.inr (.next hbefore hnumber)

theorem semicolon (h : ReadParameters room p) (hne : p ≠ []) :
    ReadParameters 4 (p ++ [';']) :=
  ⟨[], List.forall_mem_nil _, rfl, Or.inr ⟨p, h.eq_nil_or.resolve_left hne, rfl⟩⟩

theorem isBody {c : Char} (h : ReadParameters room p) (hc : isDigit c = true ∨ isFinal c = true) :
    IsBody (p ++ [c]) := .ended h.eq_nil_or hc

end ReadParameters

/-- Parameters are taken with a character that ends them.  The invariant is on what has been read
so far: if there is a mark, then what stands before it could be all that is taken. -/
theorem exists_of_afterParameters? {room : Nat} {mark : Option (List Char)}
    {p s r : List Char} (hp : ReadParameters room p) (hstart : mark = none → p = [])
    (hmark : ∀ m, mark = some m → p ≠ [] ∧ ∃ q, IsBody q ∧ p ++ s = q ++ m)
    (h : afterParameters? room mark s = some r) : ∃ q, IsBody q ∧ p ++ s = q ++ r := by
  induction s generalizing room mark p with
  | nil => exact (hmark r h).2
  | cons c rest ih =>
      have hstep : p ++ c :: rest = p ++ [c] ++ rest := by rw [List.append_assoc]; rfl
      unfold afterParameters? at h
      split at h
      · rename_i hdigit
        have hbody := hp.isBody (Or.inl hdigit)
        split at h
        · obtain rfl := Option.some.inj h
          exact ⟨_, hbody, hstep⟩
        · obtain ⟨room, rfl⟩ := Nat.exists_eq_succ_of_ne_zero ‹room ≠ 0›
          rw [hstep]
          refine ih (hp.digit hdigit) (fun hnone => absurd hnone (Option.some_ne_none rest)) ?_ h
          intro m hm
          obtain rfl := Option.some.inj hm
          exact ⟨by simp, _, hbody, rfl⟩
      · split at h
        · rename_i hsemicolon
          obtain ⟨rfl, hsome⟩ := hsemicolon
          obtain ⟨m, rfl⟩ := Option.ne_none_iff_exists'.mp hsome
          obtain ⟨hne, hbefore⟩ := hmark m rfl
          rw [hstep] at hbefore ⊢
          refine ih (hp.semicolon hne) (fun hnone => absurd hnone hsome) ?_ h
          intro m' hm
          obtain rfl := Option.some.inj hm
          exact ⟨by simp, hbefore⟩
        · split at h
          · rename_i hfinal
            obtain rfl := Option.some.inj h
            exact ⟨_, hp.isBody (Or.inr hfinal), hstep⟩
          · exact (hmark r h).2

theorem exists_of_afterIntroducers? {s r : List Char} (h : afterIntroducers? s = some r) :
    ∃ q, IsBody q ∧ s = q ++ r := by
  have hplain : afterParameters? 4 none s = some r → ∃ q, IsBody q ∧ s = q ++ r := fun h =>
    exists_of_afterParameters? .start (fun _ => rfl)
      (fun m hm => absurd hm.symm (Option.some_ne_none m)) h
  unfold afterIntroducers? at h
  split at h
  · rename_i c rest hrest
    split at h
    · rename_i hbell
      obtain rfl := Option.some.inj h
      refine ⟨s.takeWhile isBelled ++ [bell],
        .belled (List.all_eq_true.mp List.all_takeWhile), ?_⟩
      rw [List.append_assoc, List.singleton_append, ← hbell, ← hrest,
        List.takeWhile_append_dropWhile]
    · exact hplain h
  · exact hplain h

/-- What is taken behind an escape character is a sequence with it. -/
theorem exists_of_afterSequence? {e : Char} (he : isEscape e = true) {s r : List Char}
    (h : afterSequence? s = some r) : ∃ q, IsSequenceText (e :: q) ∧ s = q ++ r := by
  obtain ⟨body, hbody, hs⟩ := exists_of_afterIntroducers? h
  refine ⟨s.takeWhile isIntroducer ++ body,
    .mk he (List.all_eq_true.mp List.all_takeWhile) hbody, ?_⟩
  rw [List.append_assoc, ← hs, List.takeWhile_append_dropWhile]

/-! ## The reader finds every sequence -/

theorem afterParameters?_ne_none_of_mark (room : Nat) (m s : List Char) :
    afterParameters? room (some m) s ≠ none := by
  induction s generalizing room m with
  | nil => exact Option.some_ne_none m
  | cons c rest ih =>
      unfold afterParameters?
      split
      · split
        · exact Option.some_ne_none rest
        · exact ih _ _
      · split
        · exact ih _ _
        · split
          · exact Option.some_ne_none rest
          · exact Option.some_ne_none m

/-- A first character that can end parameters is enough. -/
theorem afterParameters?_ne_none {c : Char} (hc : isDigit c = true ∨ isFinal c = true)
    (rest : List Char) : afterParameters? 4 none (c :: rest) ≠ none := by
  by_cases hdigit : isDigit c = true
  · rw [afterParameters?, if_pos hdigit, if_neg (by decide)]
    exact afterParameters?_ne_none_of_mark _ _ _
  · rw [afterParameters?, if_neg hdigit, if_neg (fun h => h.2 rfl),
      if_pos (hc.resolve_left hdigit)]
    exact Option.some_ne_none rest

theorem afterIntroducers?_ne_none_of_ends {c : Char} (hc : isDigit c = true ∨ isFinal c = true)
    (rest : List Char) : afterIntroducers? (c :: rest) ≠ none := by
  have hplain := afterParameters?_ne_none hc rest
  unfold afterIntroducers?
  split
  · split
    · exact Option.some_ne_none _
    · exact hplain
  · exact hplain

theorem afterIntroducers?_ne_none_of_belled {w : List Char} (hw : ∀ c ∈ w, isBelled c = true)
    (r : List Char) : afterIntroducers? (w ++ bell :: r) ≠ none := by
  have hdrop : (w ++ bell :: r).dropWhile isBelled = bell :: r :=
    dropWhile_append_stop hw fun c hc => by obtain rfl := Option.some.inj hc; decide
  rw [afterIntroducers?, hdrop]
  exact Option.some_ne_none r

/-- Introducers that are read beyond those of a sequence belong to the text before its bell. -/
theorem afterSequence?_ne_none {e : Char} {q : List Char} (h : IsSequenceText (e :: q))
    (r : List Char) : afterSequence? (q ++ r) ≠ none := by
  cases h with
  | @mk _ opened body he hopened hbody =>
      rw [afterSequence?, List.append_assoc, List.dropWhile_append_of_pos hopened]
      cases hbody with
      | @belled w hw =>
          have hsplit : (w ++ [bell] ++ r).dropWhile isIntroducer =
              w.dropWhile isIntroducer ++ bell :: r := by
            rw [List.append_assoc, List.singleton_append, List.dropWhile_append]
            split
            · rename_i hempty
              rw [List.isEmpty_iff.mp hempty]
              rfl
            · rfl
          rw [hsplit]
          exact afterIntroducers?_ne_none_of_belled
            (fun c hc => hw c ((List.dropWhile_sublist _).subset hc)) r
      | @ended p c hp hc =>
          have hstop : (p ++ [c] ++ r).dropWhile isIntroducer = p ++ [c] ++ r ∧
              afterIntroducers? (p ++ [c] ++ r) ≠ none := by
            rcases hp with rfl | hp
            · have hnot := not_introducer_of_ends hc
              exact ⟨List.dropWhile_cons_of_neg (by rw [hnot]; decide),
                afterIntroducers?_ne_none_of_ends hc r⟩
            · obtain ⟨d, rest, rfl, hd⟩ := hp.exists_head
              have hnot := not_introducer_of_ends (Or.inl hd)
              exact ⟨List.dropWhile_cons_of_neg (by rw [hnot]; decide),
                afterIntroducers?_ne_none_of_ends (Or.inl hd) _⟩
          rw [hstop.1]
          exact hstop.2

/-- The reader and the pattern agree on where sequences start. -/
theorem startsSequence_iff {e : Char} (he : isEscape e = true) {s : List Char} :
    StartsSequence (e :: s) ↔ afterSequence? s ≠ none := by
  constructor
  · rintro ⟨q, hq, hstarts⟩
    obtain ⟨e', w, c, rfl, -, -, -⟩ := hq.exists_middle
    obtain ⟨rfl, r, rfl⟩ := List.cons_prefix_cons.mp hstarts
    exact afterSequence?_ne_none hq r
  · intro hsome
    obtain ⟨r, hr⟩ := Option.ne_none_iff_exists'.mp hsome
    obtain ⟨q, hq, rfl⟩ := exists_of_afterSequence? he hr
    exact ⟨e :: q, hq, List.prefix_append (e :: q) r⟩

theorem not_startsSequence_iff {e : Char} (he : isEscape e = true) {s : List Char} :
    ¬ StartsSequence (e :: s) ↔ afterSequence? s = none := by
  rw [startsSequence_iff he, Decidable.not_not]

/-! ## Texts without a sequence -/

/-- A text holds no sequence if none starts at any of its escape characters. -/
theorem holdsNone_iff {t : List Char} :
    HoldsNone t ↔ ∀ e s, isEscape e = true → e :: s <:+ t → afterSequence? s = none := by
  constructor
  · rintro h e s he ⟨before, rfl⟩
    rw [← not_startsSequence_iff he]
    rintro ⟨q, hq, after, hstarts⟩
    exact h q hq ⟨before, after, by rw [List.append_assoc, hstarts]⟩
  · rintro h q hq ⟨before, after, rfl⟩
    obtain ⟨e, w, c, rfl, he, -, -⟩ := hq.exists_middle
    have hsuffix : e :: (w ++ [c] ++ after) <:+ before ++ e :: (w ++ [c]) ++ after :=
      ⟨before, (List.append_assoc before (e :: (w ++ [c])) after).symm⟩
    exact afterSequence?_ne_none hq after (h e _ he hsuffix)

theorem holdsNone_nil : HoldsNone [] :=
  holdsNone_iff.mpr fun e s _ hs => by simp at hs

theorem cons_suffix_cons_iff {c d : Char} {s u : List Char} :
    c :: u <:+ d :: s ↔ (c = d ∧ u = s) ∨ c :: u <:+ s := by
  rw [List.suffix_cons_iff, List.cons_eq_cons]

/-- A character in front adds no sequence unless one starts there. -/
theorem holdsNone_cons_iff {c : Char} {s : List Char} :
    HoldsNone (c :: s) ↔ (isEscape c = true → afterSequence? s = none) ∧ HoldsNone s := by
  rw [holdsNone_iff, holdsNone_iff]
  constructor
  · intro h
    exact ⟨fun hc => h c s hc (List.suffix_refl _),
      fun e u he hu => h e u he (hu.trans (List.suffix_cons c s))⟩
  · rintro ⟨hc, h⟩ e u he hu
    rcases cons_suffix_cons_iff.mp hu with ⟨rfl, rfl⟩ | hu
    · exact hc he
    · exact h e u he hu

end Hooklog.Sgr
