import Hooklog.Proofs.Sgr.Plain
import Hooklog.Proofs.Text.Words

/-!
# Painted text

Plain text with control sequences of attributes put between its characters.  Removing control
sequences takes exactly these away, whatever plain text they touch: the parameters of a
sequence never fill up, so its final letter is read as such, and no bell can draw the
characters after it into the sequence.
-/

namespace Hooklog.Sgr

open Text

/-- A text with control sequences of attributes between the characters of a plain one. -/
inductive Painted : List Char → List Char → Prop where
  | nil : Painted [] []
  | char {c : Char} {s t : List Char} : IsPlain c → Painted s t → Painted (c :: s) (c :: t)
  | sequence {attributes : List Attribute} {s t : List Char} : attributes ≠ [] →
      Painted s t → Painted s ((opening attributes).toList ++ t)

/-! ## Parameters -/

theorem codesOf_ne_nil {attributes : List Attribute} (hne : attributes ≠ []) :
    codesOf attributes ≠ [] := by
  cases attributes with
  | nil => exact absurd rfl hne
  | cons a rest => exact List.cons_ne_nil _ _

theorem code_lt (a : Attribute) : a.code < 256 := by
  cases a with
  | style s => cases s <;> decide
  | foreground bright c => cases bright <;> cases c <;> decide
  | background bright c => cases bright <;> cases c <;> decide
  | mixedForeground => exact (by decide : 38 < 256)
  | mixedBackground => exact (by decide : 48 < 256)

theorem mixture_lt (a : Attribute) : ∀ n ∈ a.mixture, n < 256 := by
  have hparts : ∀ red green blue : UInt8, ∀ n ∈ [2, red.toNat, green.toNat, blue.toNat],
      n < 256 := by
    intro red green blue
    exact List.forall_mem_cons.mpr ⟨by decide, List.forall_mem_cons.mpr ⟨red.toNat_lt,
      List.forall_mem_cons.mpr ⟨green.toNat_lt, List.forall_mem_singleton.mpr blue.toNat_lt⟩⟩⟩
  cases a with
  | mixedForeground red green blue => exact hparts red green blue
  | mixedBackground red green blue => exact hparts red green blue
  | _ => exact List.forall_mem_nil _

/-- No parameter has more digits than a parameter can take. -/
theorem length_digitsOf_le {attributes : List Attribute} :
    ∀ n ∈ codesOf attributes, (Decimal.digitsOf n).length ≤ 4 := by
  intro n hn
  obtain ⟨a, -, hn⟩ := List.mem_flatMap.mp hn
  have hsmall : n < 10 ^ 4 := by
    rcases List.mem_cons.mp hn with rfl | hn
    · exact Nat.lt_trans (code_lt a) (by decide)
    · exact Nat.lt_trans (mixture_lt a n hn) (by decide)
  exact (Nat.length_toDigits_le_iff (by decide) (by decide)).mpr hsmall

/-- Digits that fit into a parameter are read, and the place behind them is kept. -/
theorem afterParameters?_digits {digits : List Char}
    (hdigits : ∀ c ∈ digits, isDigit c = true) {room : Nat} (hroom : digits.length ≤ room)
    (hne : digits ≠ []) (mark : Option (List Char)) (rest : List Char) :
    afterParameters? room mark (digits ++ rest) =
      afterParameters? (room - digits.length) (some rest) rest := by
  induction digits generalizing room mark with
  | nil => exact absurd rfl hne
  | cons c digits ih =>
      rw [List.length_cons] at hroom
      have hrest : ∀ d ∈ digits, isDigit d = true :=
        fun d hd => hdigits d (List.mem_cons_of_mem c hd)
      -- a digit takes room, of which there is enough for all of them
      rw [List.cons_append, afterParameters?, if_pos (hdigits c List.mem_cons_self),
        if_neg (by omega), List.length_cons]
      cases digits with
      | nil => rfl
      | cons d more =>
          have hlength : room - ((d :: more).length + 1) = room - 1 - (d :: more).length := by
            omega
          rw [ih hrest (by omega) (List.cons_ne_nil d more), hlength]

theorem isDigit_of_mem_digitsOf {n : Nat} {c : Char} (h : c ∈ Decimal.digitsOf n) :
    isDigit c = true :=
  isDigit_of_isAsciiDigit (Decimal.isAsciiDigit_of_mem_digitsOf h)

/-- Parameters as they are written. -/
def parameters (codes : List Nat) : List Char :=
  (joinWith ";" (codes.map Decimal.naturalText)).toList

theorem parameters_singleton (n : Nat) : parameters [n] = Decimal.digitsOf n :=
  String.toList_ofList

theorem parameters_cons_cons (n m : Nat) (rest : List Nat) :
    parameters (n :: m :: rest) = Decimal.digitsOf n ++ ';' :: parameters (m :: rest) := by
  simp [parameters, joinWith, Decimal.naturalText]

theorem toList_opening (attributes : List Attribute) :
    (opening attributes).toList =
      escape :: '[' :: (parameters (codesOf attributes) ++ ['m']) := by
  simp [opening, sequence, parameters]

/-- Parameters are read up to the letter that ends their sequence. -/
theorem afterParameters?_parameters {codes : List Nat} (hne : codes ≠ [])
    (hlength : ∀ n ∈ codes, (Decimal.digitsOf n).length ≤ 4)
    (mark : Option (List Char)) (t : List Char) :
    afterParameters? 4 mark (parameters codes ++ 'm' :: t) = some t := by
  induction codes generalizing mark with
  | nil => exact absurd rfl hne
  | cons n rest ih =>
      obtain ⟨hn, hrest⟩ := List.forall_mem_cons.mp hlength
      have hread := afterParameters?_digits (fun _ => isDigit_of_mem_digitsOf) hn
        (Decimal.digitsOf_ne_nil n) mark
      cases rest with
      | nil =>
          rw [parameters_singleton, hread, afterParameters?]
          rfl
      | cons m rest =>
          rw [parameters_cons_cons, List.append_assoc, List.cons_append, hread,
            afterParameters?, if_neg (by decide), if_pos ⟨rfl, by simp⟩]
          exact ih (List.cons_ne_nil m rest) hrest _

/-- Parameters start with a digit. -/
theorem parameters_head {codes : List Nat} (hne : codes ≠ []) (t : List Char) :
    ∀ c, (parameters codes ++ t).head? = some c → isIntroducer c = false := by
  intro c hc
  have hdigit : isAsciiDigit c = true := by
    cases codes with
    | nil => exact absurd rfl hne
    | cons n rest =>
        obtain ⟨d, digits, hdigits⟩ := List.exists_cons_of_ne_nil (Decimal.digitsOf_ne_nil n)
        have hd := Decimal.isAsciiDigit_of_mem_digitsOf (n := n)
          (hdigits ▸ List.mem_cons_self)
        cases rest with
        | nil =>
            rw [parameters_singleton, hdigits] at hc
            obtain rfl := Option.some.inj hc
            exact hd
        | cons m rest =>
            rw [parameters_cons_cons, hdigits] at hc
            obtain rfl := Option.some.inj hc
            exact hd
  have hbounds := isAsciiDigit_iff.mp hdigit
  have hne : ∀ d : Char, ¬(48 ≤ d.toNat ∧ d.toNat ≤ 57) → c ≠ d := by
    rintro d hd rfl
    exact hd hbounds
  simp [isIntroducer, hne '[' (by decide), hne ']' (by decide), hne '(' (by decide),
    hne ')' (by decide), hne '#' (by decide), hne ';' (by decide), hne '?' (by decide)]

theorem plainText_parameters (codes : List Nat) : PlainText (parameters codes) := by
  refine plain_joinWith (by decide) fun t ht => ?_
  obtain ⟨n, -, rfl⟩ := List.mem_map.mp ht
  exact plain_naturalText n

/-! ## Removing the sequences -/

theorem bell_notMem_of_plainText {s : List Char} (h : PlainText s) : bell ∉ s :=
  fun hmem => ne_bell_of_isPlain (h bell hmem) rfl

/-- Without a bell in the text a sequence of attributes ends at its letter. -/
theorem afterSequence?_opening {attributes : List Attribute} (hne : attributes ≠ [])
    {t : List Char} (hbell : bell ∉ t) :
    afterSequence? ('[' :: (parameters (codesOf attributes) ++ 'm' :: t)) = some t := by
  have hcodes := codesOf_ne_nil hne
  have hread := afterParameters?_parameters hcodes length_digitsOf_le none t
  have hdrop : ('[' :: (parameters (codesOf attributes) ++ 'm' :: t)).dropWhile isIntroducer =
      parameters (codesOf attributes) ++ 'm' :: t :=
    dropWhile_append_stop (List.forall_mem_singleton.mpr rfl) (parameters_head hcodes _)
  have hnone : bell ∉ parameters (codesOf attributes) ++ 'm' :: t := by
    rw [List.mem_append, List.mem_cons, not_or, not_or]
    exact ⟨bell_notMem_of_plainText (plainText_parameters _), by decide, hbell⟩
  -- the reading up to a bell comes first, but there is no bell
  rw [afterSequence?, hdrop, afterIntroducers?]
  split
  · rename_i c rest hrest
    have hmem : c ∈ parameters (codesOf attributes) ++ 'm' :: t :=
      (List.dropWhile_sublist isBelled).subset (hrest ▸ List.mem_cons_self)
    have hc : c ≠ bell := by
      rintro rfl
      exact hnone hmem
    rw [if_neg hc, hread]
  · rw [hread]

theorem strip_opening {attributes : List Attribute} (hne : attributes ≠ []) {t : List Char}
    (hbell : bell ∉ t) : strip ((opening attributes).toList ++ t) = strip t := by
  have htext : (opening attributes).toList ++ t =
      escape :: '[' :: (parameters (codesOf attributes) ++ 'm' :: t) := by
    rw [toList_opening, List.cons_append, List.cons_append, List.append_assoc,
      List.singleton_append]
  have hread := afterSequence?_opening hne hbell
  rw [htext, strip, if_pos (by decide)]
  split
  · rename_i r htaken
    rw [hread] at htaken
    rw [Option.some.inj htaken]
  · rename_i htaken
    rw [hread] at htaken
    exact absurd htaken (Option.some_ne_none t)

namespace Painted

theorem bell_notMem {s t : List Char} (h : Painted s t) : bell ∉ t := by
  induction h with
  | nil => exact List.not_mem_nil
  | char hc _ ih =>
      rw [List.mem_cons, not_or]
      exact ⟨(ne_bell_of_isPlain hc).symm, ih⟩
  | sequence hne _ ih =>
      rw [List.mem_append, not_or, toList_opening, List.mem_cons, List.mem_cons,
        List.mem_append, not_or, not_or, not_or]
      exact ⟨⟨by decide, by decide, bell_notMem_of_plainText (plainText_parameters _),
        by decide⟩, ih⟩

/-- Removing control sequences gives the plain text back. -/
theorem strip_eq {s t : List Char} (h : Painted s t) : strip t = s := by
  induction h with
  | nil => rw [strip]
  | char hc _ ih => rw [strip, if_neg (by rw [isEscape_of_isPlain hc]; decide), ih]
  | sequence hne hpainted ih => rw [strip_opening hne hpainted.bell_notMem, ih]

theorem plainText {s t : List Char} (h : Painted s t) : PlainText s := by
  induction h with
  | nil => exact plainText_nil
  | char hc _ ih => exact plainText_cons.mpr ⟨hc, ih⟩
  | sequence _ _ ih => exact ih

/-- Plain text is painted without any sequence. -/
theorem of_plainText {s : List Char} (h : PlainText s) : Painted s s := by
  induction s with
  | nil => exact .nil
  | cons c s ih =>
      obtain ⟨hc, hs⟩ := plainText_cons.mp h
      exact .char hc (ih hs)

theorem append {s t s' t' : List Char} (h : Painted s t) (h' : Painted s' t') :
    Painted (s ++ s') (t ++ t') := by
  induction h with
  | nil => exact h'
  | char hc _ ih => exact .char hc ih
  | sequence hne _ ih =>
      rw [List.append_assoc]
      exact .sequence hne ih

/-- The characters of the plain text stand in the painted one. -/
theorem mem {s t : List Char} (h : Painted s t) {c : Char} (hc : c ∈ s) : c ∈ t := by
  induction h with
  | nil => exact hc
  | char _ _ ih =>
      rcases List.mem_cons.mp hc with rfl | hc
      · exact List.mem_cons_self
      · exact List.mem_cons_of_mem _ (ih hc)
  | sequence _ _ ih => exact List.mem_append_right _ (ih hc)

end Painted

/-- The sequence that ends all attributes is that of one attribute. -/
theorem closing_eq : closing = opening [.style .reset] := by decide

/-- Attributes around a painted text. -/
theorem Painted.paint {s t : List Char} (h : Painted s t) {attributes : List Attribute}
    (hne : attributes ≠ []) :
    Painted s ((opening attributes).toList ++ t ++ closing.toList) := by
  have hclosing : Painted [] closing.toList := by
    rw [closing_eq, ← List.append_nil (opening [Attribute.style Style.reset]).toList]
    exact .sequence (List.cons_ne_nil _ _) .nil
  have hall := (Painted.sequence hne h).append hclosing
  rwa [List.append_nil] at hall

end Hooklog.Sgr
