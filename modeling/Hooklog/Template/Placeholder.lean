import Hooklog.Text.Class
import Hooklog.Text.Words

/-!
# Placeholders

A template is literal text with placeholders between percent signs: a width, a limit after
a point, a name, and attributes after a colon, each of them optional.  A width or a limit
needs a name; where digits are followed by no name, the last of them is taken for one.  A
percent sign that starts no placeholder is literal text.
-/

namespace Hooklog.Template

open Text

/-- Parts of a placeholder as they are written. -/
structure Placeholder where
  width : Option (List Char)
  limit : Option (List Char)
  name : Option (List Char)
  attributes : Option (List Char)
  deriving DecidableEq, Repr

/-- Character of the attributes. -/
def isAttributeChar (c : Char) : Bool :=
  isWord c || c = ',' || c = '+' || c = '-' || isBlank c

/-- Attributes and closing percent sign, and the text after them. -/
def takeTail? : List Char → Option (Option (List Char) × List Char)
  | '%' :: rest => some (none, rest)
  | ':' :: s =>
      match s.dropWhile isAttributeChar with
      | '%' :: rest => some (some (s.takeWhile isAttributeChar), rest)
      | _ => none
  | _ => none

/-- Digits and the word that follows them as a number and a name.  Without a word the last
digit is the name, if others are left. -/
def splitName? (digits word : List Char) : Option (List Char × List Char) :=
  if word ≠ [] then some (digits, word)
  else if 2 ≤ digits.length then some (digits.dropLast, digits.drop (digits.length - 1))
  else none

/-- Placeholder whose name ends where a text starts. -/
def finish? (width limit name : Option (List Char)) (s : List Char) :
    Option (Placeholder × List Char) :=
  (takeTail? s).map fun p => (⟨width, limit, name, p.1⟩, p.2)

/-- Limit and name after the point. -/
def afterPoint? (width : Option (List Char)) (s : List Char) :
    Option (Placeholder × List Char) :=
  let digits := s.takeWhile isDigit
  let s := s.dropWhile isDigit
  if digits = [] then none
  else
    match splitName? digits (s.takeWhile isWord) with
    | some (limit, name) => finish? width (some limit) (some name) (s.dropWhile isWord)
    | none => none

/-- Width, limit and name after a sign. -/
def afterSign? (s : List Char) : Option (Placeholder × List Char) :=
  let digits := s.takeWhile isDigit
  if digits = [] then none
  else
    match s.dropWhile isDigit with
    | '.' :: rest => afterPoint? (some ('-' :: digits)) rest
    | rest =>
        match splitName? digits (rest.takeWhile isWord) with
        | some (width, name) =>
            finish? (some ('-' :: width)) none (some name) (rest.dropWhile isWord)
        | none => none

/-- Width, limit and name from a digit on.  A single digit without a word is a name. -/
def afterDigits? (s : List Char) : Option (Placeholder × List Char) :=
  let digits := s.takeWhile isDigit
  match s.dropWhile isDigit with
  | '.' :: rest => afterPoint? (some digits) rest
  | rest =>
      match splitName? digits (rest.takeWhile isWord) with
      | some (width, name) => finish? (some width) none (some name) (rest.dropWhile isWord)
      | none => finish? none none (some digits) (rest.dropWhile isWord)

/-- Placeholder after its opening percent sign, and the text after it. -/
def scan? : List Char → Option (Placeholder × List Char)
  | [] => none
  | c :: s =>
      if c = '-' then afterSign? s
      else if c = '.' then afterPoint? none s
      else if isDigit c then afterDigits? (c :: s)
      else if isWord c then
        finish? none none (some ((c :: s).takeWhile isWord)) ((c :: s).dropWhile isWord)
      else finish? none none none (c :: s)

theorem length_takeTail? {s r : List Char} {a : Option (List Char)}
    (h : takeTail? s = some (a, r)) : r.length < s.length := by
  unfold takeTail? at h
  split at h
  · simp_all
  · rename_i s
    split at h
    · rename_i rest hdrop
      have := length_dropWhile_le isAttributeChar s
      rw [hdrop] at this
      simp_all
      omega
    · simp at h
  · simp at h

theorem length_finish? {w l n : Option (List Char)} {s r : List Char} {p : Placeholder}
    (h : finish? w l n s = some (p, r)) : r.length < s.length := by
  unfold finish? at h
  cases htail : takeTail? s with
  | none => simp [htail] at h
  | some t =>
      simp only [htail, Option.map_some, Option.some.injEq, Prod.mk.injEq] at h
      have := length_takeTail? (a := t.1) (r := t.2) (s := s) htail
      rw [← h.2]
      exact this

theorem length_afterPoint? {w : Option (List Char)} {s r : List Char} {p : Placeholder}
    (h : afterPoint? w s = some (p, r)) : r.length < s.length := by
  unfold afterPoint? at h
  simp only at h
  split at h
  · simp at h
  · split at h
    · have h₁ := length_finish? h
      have h₂ := length_dropWhile_le isWord (s.dropWhile isDigit)
      have h₃ := length_dropWhile_le isDigit s
      omega
    · simp at h

theorem length_afterSign? {s r : List Char} {p : Placeholder}
    (h : afterSign? s = some (p, r)) : r.length < s.length := by
  have hd := length_dropWhile_le isDigit s
  unfold afterSign? at h
  simp only at h
  split at h
  · simp at h
  · split at h
    · rename_i rest hdrop
      have := length_afterPoint? h
      rw [hdrop] at hd
      simp only [List.length_cons] at hd
      omega
    · split at h
      · have h₁ := length_finish? h
        have h₂ := length_dropWhile_le isWord (s.dropWhile isDigit)
        omega
      · simp at h

theorem length_afterDigits? {s r : List Char} {p : Placeholder}
    (h : afterDigits? s = some (p, r)) : r.length < s.length := by
  have hd := length_dropWhile_le isDigit s
  unfold afterDigits? at h
  simp only at h
  split at h
  · rename_i rest hdrop
    have := length_afterPoint? h
    rw [hdrop] at hd
    simp only [List.length_cons] at hd
    omega
  · have h₂ := length_dropWhile_le isWord (s.dropWhile isDigit)
    split at h
    · have h₁ := length_finish? h
      omega
    · have h₁ := length_finish? h
      omega

/-- A placeholder is never empty. -/
theorem length_scan? {s r : List Char} {p : Placeholder}
    (h : scan? s = some (p, r)) : r.length < s.length := by
  cases s with
  | nil => simp [scan?] at h
  | cons c s =>
      have hw := length_dropWhile_le isWord (c :: s)
      simp only [scan?] at h
      split at h
      · have := length_afterSign? h
        simp only [List.length_cons]
        omega
      · split at h
        · have := length_afterPoint? h
          simp only [List.length_cons]
          omega
        · split at h
          · exact length_afterDigits? h
          · split at h
            · have := length_finish? h
              omega
            · exact length_finish? h

/-- Part of a template. -/
inductive Segment where
  | literal (c : Char)
  | placeholder (p : Placeholder)
  deriving DecidableEq, Repr

/-- Parts of a template, from left to right. -/
def segments : List Char → List Segment
  | [] => []
  | c :: s =>
      if c = '%' then
        match _found : scan? s with
        | some (p, rest) => .placeholder p :: segments rest
        | none => .literal c :: segments s
      else .literal c :: segments s
termination_by s => s.length
decreasing_by
  all_goals simp only [List.length_cons]
  · have := length_scan? _found
    omega
  · omega
  · omega

end Hooklog.Template
