import Hooklog.Proofs.Decimal.Integer
import Hooklog.Proofs.Template.Written
import Hooklog.Proofs.Text.Case
import Hooklog.Proofs.Text.Words

/-!
# Scanning written placeholders

The text of a description is scanned into the parts that were written.  A number never runs
into the name after it, since names do not start with digits, and a name ends at the colon of
the attributes or at the closing percent sign.
-/

namespace Hooklog.Template

open Text

/-! ## Folded names -/

theorem Token.foldChar_of_ascii {c : Char} (h : c.toNat < 0x80) : foldChar c = c.toLower := by
  rw [foldChar, if_neg (by omega), if_neg (by omega)]

/-! ## Known attributes -/

theorem letter_of_knownNames : ∀ w ∈ knownNames, w ≠ "" ∧ SmallLetters w.toList := by
  decide +kernel

theorem letter_of_mem_known {a : String} (h : lowerString a ∈ knownNames) {c : Char}
    (hc : c ∈ a.toList) : isAsciiLetter c = true ∨ c = kelvinSign := by
  have hletters := (letter_of_knownNames _ h).2
  rw [lowerString, String.toList_ofList] at hletters
  exact isAsciiLetter_of_mem_lower hletters hc

/-- Known attributes are words. -/
theorem isWordText_of_known {a : String} (h : lowerString a ∈ knownNames) :
    IsWordText a.toList where
  alphanumeric c hc := by
    rcases letter_of_mem_known h hc with hletter | rfl
    · exact isAlphanumeric_of_isAsciiLetter hletter
    · decide +kernel
  ne_nil hnil := by
    have hempty : lowerString a = "" := by rw [lowerString, hnil]; rfl
    exact (letter_of_knownNames _ h).1 hempty

theorem isAttributeChar_of_known {a : String} (h : lowerString a ∈ knownNames) {c : Char}
    (hc : c ∈ a.toList) : isAttributeChar c = true := by
  have hword : isWord c = true := by
    rcases letter_of_mem_known h hc with hletter | rfl
    · exact isWord_of_isAsciiLetter hletter
    · decide +kernel
  simp only [isAttributeChar, hword, Bool.true_or]

theorem isAttributeChar_of_mem_joinWith {names : List String}
    (hnames : ∀ a ∈ names, lowerString a ∈ knownNames) {c : Char}
    (hc : c ∈ (joinWith "," names).toList) : isAttributeChar c = true := by
  have hall : ∀ d ∈ (joinWith "," names).toList, isAttributeChar d = true :=
    joinWith_induction (Q := fun s => ∀ d ∈ s, isAttributeChar d = true)
      (List.forall_mem_nil _) (fun _ _ hs ht => List.forall_mem_append.mpr ⟨hs, ht⟩)
      (List.forall_mem_singleton.mpr (by decide))
      fun a ha _ hd => isAttributeChar_of_known (hnames a ha) hd
  exact hall c hc

/-! ## Attributes -/

section Attributes

variable {a : Option (List Char)} {rest : List Char}

/-- Attributes end at the percent sign. -/
theorem takeTail?_attributes (ha : ∀ c ∈ a.getD [], isAttributeChar c = true) :
    takeTail? (attributesSource a ++ '%' :: rest) = some (a, rest) := by
  cases a with
  | none => rfl
  | some a =>
      have hchars : ∀ c ∈ a, isAttributeChar c = true := ha
      have hstop : ∀ c, ('%' :: rest).head? = some c → isAttributeChar c = false := by
        intro c hc
        obtain rfl : '%' = c := Option.some.inj hc
        decide
      rw [attributesSource, List.cons_append, takeTail?, dropWhile_append_stop hchars hstop,
        takeWhile_append_stop hchars hstop]
      rfl

theorem finish?_attributes {w l n : Option (List Char)}
    (ha : ∀ c ∈ a.getD [], isAttributeChar c = true) :
    finish? w l n (attributesSource a ++ '%' :: rest) = some (⟨w, l, n, a⟩, rest) := by
  rw [finish?, takeTail?_attributes ha]
  rfl

/-- A name ends at the colon of its attributes or at a percent sign. -/
theorem isWord_of_head_attributes {c : Char}
    (h : (attributesSource a ++ '%' :: rest).head? = some c) : isWord c = false := by
  cases a with
  | none =>
      obtain rfl : '%' = c := Option.some.inj h
      decide
  | some a =>
      obtain rfl : ':' = c := Option.some.inj h
      decide

end Attributes

/-! ## Characters of names -/

theorem ascii_of_isNameChar {c : Char} (h : isNameChar c = true) : c.toNat < 0x80 := by
  simp only [isNameChar, Bool.or_eq_true, beq_iff_eq] at h
  rcases h with (h | h) | rfl
  · have := isAsciiLetter_iff.mp h
    omega
  · have := isAsciiDigit_iff.mp h
    omega
  · decide

theorem isWord_of_isNameChar {c : Char} (h : isNameChar c = true) : isWord c = true := by
  rw [isWord_of_ascii (ascii_of_isNameChar h)]
  exact h

namespace Description

variable (d : Description)

theorem name_ne_nil : d.name.toList ≠ [] := by
  obtain ⟨c, rest, hname, -⟩ := d.name_start
  rw [hname]
  exact List.cons_ne_nil c rest

theorem isDigit_of_head {c : Char} (s : List Char) (h : (d.name.toList ++ s).head? = some c) :
    isDigit c = false := by
  obtain ⟨b, rest, hname, hb⟩ := d.name_start
  rw [hname] at h
  obtain rfl : b = c := Option.some.inj h
  have hchar := d.name_chars b (by rw [hname]; exact List.mem_cons_self)
  rw [isDigit_of_ascii (ascii_of_isNameChar hchar), hb]

/-! ## Scanning a description -/

/-- The parts of a description as they are written. -/
def placeholder : Placeholder :=
  ⟨d.widthText, d.limitText, some d.name.toList, d.attributesText⟩

/-- What follows the name of a description in a template. -/
def tail (rest : List Char) : List Char := attributesSource d.attributesText ++ '%' :: rest

theorem attributesText_chars {c : Char} (h : c ∈ d.attributesText.getD []) :
    isAttributeChar c = true := by
  unfold attributesText at h
  by_cases hempty : d.attributes = []
  · rw [if_pos hempty] at h
    exact absurd h List.not_mem_nil
  · rw [if_neg hempty] at h
    exact isAttributeChar_of_mem_joinWith d.attributes_known h

theorem finish?_tail (w l : Option (List Char)) (rest : List Char) :
    finish? w l (some d.name.toList) (d.tail rest) =
      some (⟨w, l, some d.name.toList, d.attributesText⟩, rest) :=
  finish?_attributes fun _ => d.attributesText_chars

/-- A name ends at a colon or a percent sign. -/
theorem isWord_of_head_tail {c : Char} (rest : List Char) (h : (d.tail rest).head? = some c) :
    isWord c = false :=
  isWord_of_head_attributes h

theorem takeWhile_name (rest : List Char) :
    (d.name.toList ++ d.tail rest).takeWhile isWord = d.name.toList :=
  takeWhile_append_stop (fun c hc => isWord_of_isNameChar (d.name_chars c hc))
    fun _ hc => d.isWord_of_head_tail rest hc

theorem dropWhile_name (rest : List Char) :
    (d.name.toList ++ d.tail rest).dropWhile isWord = d.tail rest :=
  dropWhile_append_stop (fun c hc => isWord_of_isNameChar (d.name_chars c hc))
    fun _ hc => d.isWord_of_head_tail rest hc

theorem takeWhile_digits (n : Nat) (s : List Char) :
    (Decimal.digitsOf n ++ (d.name.toList ++ s)).takeWhile isDigit = Decimal.digitsOf n :=
  takeWhile_append_stop
    (fun _ hc => isDigit_of_isAsciiDigit (Decimal.isAsciiDigit_of_mem_digitsOf hc))
    fun _ hc => d.isDigit_of_head s hc

theorem dropWhile_digits (n : Nat) (s : List Char) :
    (Decimal.digitsOf n ++ (d.name.toList ++ s)).dropWhile isDigit = d.name.toList ++ s :=
  dropWhile_append_stop
    (fun _ hc => isDigit_of_isAsciiDigit (Decimal.isAsciiDigit_of_mem_digitsOf hc))
    fun _ hc => d.isDigit_of_head s hc

theorem splitName?_name (digits : List Char) :
    splitName? digits d.name.toList = some (digits, d.name.toList) :=
  if_pos d.name_ne_nil

/-- A limit is read up to the name. -/
theorem afterPoint?_digits (w : Option (List Char)) (n : Nat) (rest : List Char) :
    afterPoint? w (Decimal.digitsOf n ++ (d.name.toList ++ d.tail rest)) =
      some (⟨w, some (Decimal.digitsOf n), some d.name.toList, d.attributesText⟩, rest) := by
  unfold afterPoint?
  simp only [d.takeWhile_digits, d.dropWhile_digits, d.takeWhile_name, d.dropWhile_name,
    if_neg (Decimal.digitsOf_ne_nil n), d.splitName?_name, d.finish?_tail]

theorem name_ne_point (s r : List Char) : d.name.toList ++ s ≠ '.' :: r := by
  obtain ⟨c, rest, hname, -⟩ := d.name_start
  have hchar := d.name_chars c (by rw [hname]; exact List.mem_cons_self)
  rw [hname, List.cons_append]
  intro h
  obtain rfl := (List.cons.inj h).1
  exact absurd hchar (by decide)

theorem takeWhile_digits_point (n : Nat) (s : List Char) :
    (Decimal.digitsOf n ++ '.' :: s).takeWhile isDigit = Decimal.digitsOf n := by
  apply takeWhile_append_stop
  · exact fun _ hc => isDigit_of_isAsciiDigit (Decimal.isAsciiDigit_of_mem_digitsOf hc)
  · intro c hc
    obtain rfl : '.' = c := Option.some.inj hc
    decide

theorem dropWhile_digits_point (n : Nat) (s : List Char) :
    (Decimal.digitsOf n ++ '.' :: s).dropWhile isDigit = '.' :: s := by
  apply dropWhile_append_stop
  · exact fun _ hc => isDigit_of_isAsciiDigit (Decimal.isAsciiDigit_of_mem_digitsOf hc)
  · intro c hc
    obtain rfl : '.' = c := Option.some.inj hc
    decide

/-- What follows the width of a description. -/
def afterWidth (rest : List Char) : List Char :=
  limitSource d.limitText ++ (d.name.toList ++ d.tail rest)

/-- A width is read up to the point of the limit or the name. -/
theorem afterDigits?_width (n : Nat) (rest : List Char) :
    afterDigits? (Decimal.digitsOf n ++ d.afterWidth rest) =
      some (⟨some (Decimal.digitsOf n), d.limitText, some d.name.toList, d.attributesText⟩,
        rest) := by
  unfold afterDigits? afterWidth limitText
  cases d.limit with
  | some m =>
      simp only [Option.map_some, limitSource, List.cons_append, takeWhile_digits_point,
        dropWhile_digits_point, d.afterPoint?_digits]
  | none =>
      simp only [Option.map_none, limitSource, List.nil_append, d.takeWhile_digits,
        d.dropWhile_digits]
      split
      · rename_i hpoint
        exact absurd hpoint (d.name_ne_point _ _)
      · simp only [d.takeWhile_name, d.dropWhile_name, d.splitName?_name, d.finish?_tail]

theorem afterSign?_width (n : Nat) (rest : List Char) :
    afterSign? (Decimal.digitsOf n ++ d.afterWidth rest) =
      some (⟨some ('-' :: Decimal.digitsOf n), d.limitText, some d.name.toList,
        d.attributesText⟩, rest) := by
  unfold afterSign? afterWidth limitText
  cases d.limit with
  | some m =>
      simp only [Option.map_some, limitSource, List.cons_append, takeWhile_digits_point,
        dropWhile_digits_point, if_neg (Decimal.digitsOf_ne_nil n), d.afterPoint?_digits]
  | none =>
      simp only [Option.map_none, limitSource, List.nil_append, d.takeWhile_digits,
        d.dropWhile_digits, if_neg (Decimal.digitsOf_ne_nil n)]
      split
      · rename_i hpoint
        exact absurd hpoint (d.name_ne_point _ _)
      · simp only [d.takeWhile_name, d.dropWhile_name, d.splitName?_name, d.finish?_tail]

theorem scan?_sign (s : List Char) : scan? ('-' :: s) = afterSign? s := rfl

theorem scan?_point (s : List Char) : scan? ('.' :: s) = afterPoint? none s := rfl

theorem scan?_digit {c : Char} (hc : isAsciiDigit c = true) (s : List Char) :
    scan? (c :: s) = afterDigits? (c :: s) := by
  have hsign : c ≠ '-' := by rintro rfl; exact absurd hc (by decide)
  have hpoint : c ≠ '.' := by rintro rfl; exact absurd hc (by decide)
  rw [scan?, if_neg hsign, if_neg hpoint, if_pos (isDigit_of_isAsciiDigit hc)]

theorem scan?_digits (n : Nat) (s : List Char) :
    scan? (Decimal.digitsOf n ++ s) = afterDigits? (Decimal.digitsOf n ++ s) := by
  cases hdigits : Decimal.digitsOf n with
  | nil => exact absurd hdigits (Decimal.digitsOf_ne_nil n)
  | cons c digits =>
      have hc := Decimal.isAsciiDigit_of_mem_digitsOf (n := n) (hdigits ▸ List.mem_cons_self)
      exact scan?_digit hc (digits ++ s)

theorem scan?_name (rest : List Char) :
    scan? (d.name.toList ++ d.tail rest) =
      some (⟨none, none, some d.name.toList, d.attributesText⟩, rest) := by
  have htake := d.takeWhile_name rest
  have hdrop := d.dropWhile_name rest
  have hfinish := d.finish?_tail none none rest
  have hdigit := fun c => d.isDigit_of_head (c := c) (d.tail rest)
  have hpoint := d.name_ne_point (d.tail rest)
  have hchars := d.name_chars
  obtain ⟨c, name, hname, -⟩ := d.name_start
  rw [hname] at htake hdrop hfinish hdigit hpoint hchars ⊢
  have hchar := hchars c List.mem_cons_self
  have hsign : c ≠ '-' := by rintro rfl; exact absurd hchar (by decide)
  have hdot : c ≠ '.' := by rintro rfl; exact hpoint _ rfl
  have hnumber : ¬ isDigit c = true := by rw [hdigit c rfl]; decide
  rw [List.cons_append] at htake hdrop ⊢
  rw [scan?, if_neg hsign, if_neg hdot, if_neg hnumber, if_pos (isWord_of_isNameChar hchar),
    htake, hdrop, hfinish]

/-- A description is scanned as it was written. -/
theorem scan?_written (rest : List Char) :
    scan? (d.placeholder.body ++ '%' :: rest) = some (d.placeholder, rest) := by
  have hbody : d.placeholder.body ++ '%' :: rest = d.widthText.getD [] ++ d.afterWidth rest := by
    simp only [Placeholder.body, placeholder, afterWidth, tail, Option.getD_some,
      List.append_assoc]
  rw [hbody, placeholder]
  unfold widthText
  cases d.width with
  | some w =>
      simp only [Option.map_some, Option.getD_some, Decimal.toList_integerText]
      by_cases hw : w < 0
      · rw [if_pos hw, List.cons_append, scan?_sign, d.afterSign?_width]
      · rw [if_neg hw, scan?_digits, d.afterDigits?_width]
  | none =>
      simp only [Option.map_none, Option.getD_none, List.nil_append]
      unfold afterWidth limitText
      cases d.limit with
      | some m =>
          simp only [Option.map_some, limitSource, List.cons_append, scan?_point,
            d.afterPoint?_digits]
      | none =>
          simp only [Option.map_none, limitSource, List.nil_append, d.scan?_name]

end Description

end Hooklog.Template
