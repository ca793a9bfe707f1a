import Hooklog.Level
import Hooklog.Text.Words

/-!
# Marked messages

Text written to a logger may hold messages marked by a level between brackets.  A braced
message follows its marker between braces and may run over several lines; a tagged line holds
its marker anywhere, and is a message as a whole.  A braced message is looked for first, in
all of the text.
-/

namespace Hooklog.Catcher

open Text

/-- Space or tab. -/
def isGap (c : Char) : Bool := c = ' ' || c = '\t'

/-- Words that mark a level. -/
def markerWords : List (String × Level) :=
  [("warn", .warning), ("panic", .panic), ("fatal", .fatal), ("error", .error),
    ("warning", .warning), ("info", .info), ("debug", .debug), ("trace", .trace)]

/-- Level of a word in any letter case. -/
def markerLevel? (word : List Char) : Option Level :=
  markerWords.lookup (String.ofList (word.map Char.toLower))

/-- Level of the marker at the head of a text, and the text after it. -/
def marker? : List Char → Option (Level × List Char)
  | '[' :: s =>
      match s.dropWhile isAsciiLetter with
      | ']' :: rest => (markerLevel? (s.takeWhile isAsciiLetter)).map fun l => (l, rest)
      | _ => none
  | _ => none

/-- A marked message with the text around it. -/
structure Found where
  before : List Char
  level : Level
  message : List Char
  rest : List Char
  deriving DecidableEq, Repr

/-- The same message further on in a text. -/
def Found.after (s : List Char) (f : Found) : Found := { f with before := s ++ f.before }

/-- Text between braces at the head of a text, and the text after them. -/
def braces? (s : List Char) : Option (List Char × List Char) :=
  match s.dropWhile isGap with
  | '{' :: body =>
      match body.dropWhile (fun c => c ≠ '}') with
      | '}' :: rest => some (trim (body.takeWhile fun c => c ≠ '}'), rest)
      | _ => none
  | _ => none

/-- Braced message at the head of a text. -/
def bracedHere? (s : List Char) : Option Found :=
  match marker? s with
  | none => none
  | some (level, s) => (braces? s).map fun p => ⟨[], level, p.1, p.2⟩

/-- First braced message of a text. -/
def braced? : List Char → Option Found
  | [] => none
  | c :: s =>
      match bracedHere? (c :: s) with
      | some found => some found
      | none => (braced? s).map (Found.after [c])

/-- Text before the first marker of a line, its level, and the text after it. -/
def firstMarker? : List Char → Option (List Char × Level × List Char)
  | [] => none
  | c :: s =>
      match marker? (c :: s) with
      | some (level, rest) => some ([], level, rest)
      | none => (firstMarker? s).map fun p => (c :: p.1, p.2)

/-- Message of a line with a marker: the text after it, with level and text before it unless
that is empty. -/
def taggedMessage (before : List Char) (level : Level) (after : List Char) : List Char :=
  let head := trimBoth isGap before
  let message := trimBoth isGap after
  if head = [] then message
  else head ++ ' ' :: level.text.toList ++ ' ' :: message

/-- First tagged line of a text. -/
def tagged? (s : List Char) : Option Found :=
  let line := s.takeWhile fun c => c ≠ '\n'
  match _ : s.dropWhile fun c => c ≠ '\n' with
  | [] => none
  | newline :: rest =>
      match firstMarker? line with
      | some (before, level, after) => some ⟨[], level, taggedMessage before level after, rest⟩
      | none => (tagged? rest).map (Found.after (line ++ [newline]))
termination_by s.length
decreasing_by
  rename_i hdrop
  have := length_dropWhile_le (fun c => decide (c ≠ '\n')) s
  rw [hdrop] at this
  simp only [List.length_cons] at this
  omega

/-- The marked message that is taken next from a text. -/
def next? (s : List Char) : Option Found :=
  match braced? s with
  | some found => some found
  | none => tagged? s

/-! ## What is left gets shorter -/

theorem length_marker? {s r : List Char} {l : Level} (h : marker? s = some (l, r)) :
    r.length < s.length := by
  unfold marker? at h
  split at h
  · rename_i s
    split at h
    · rename_i rest hdrop
      have := length_dropWhile_le isAsciiLetter s
      rw [hdrop] at this
      simp only [Option.map_eq_some_iff, Prod.mk.injEq] at h
      obtain ⟨_, _, _, rfl⟩ := h
      simp only [List.length_cons] at this ⊢
      omega
    · simp at h
  · simp at h

theorem length_braces? {s m r : List Char} (h : braces? s = some (m, r)) :
    r.length < s.length := by
  unfold braces? at h
  split at h
  · rename_i body hbody
    split at h
    · rename_i rest hrest
      have h1 := length_dropWhile_le isGap s
      have h2 := length_dropWhile_le (fun c => decide (c ≠ '}')) body
      rw [hbody] at h1
      rw [hrest] at h2
      simp only [Option.some.injEq, Prod.mk.injEq] at h
      rw [← h.2]
      simp only [List.length_cons] at h1 h2
      omega
    · simp at h
  · simp at h

theorem length_bracedHere? {s : List Char} {f : Found} (h : bracedHere? s = some f) :
    f.rest.length < s.length := by
  unfold bracedHere? at h
  split at h
  · simp at h
  · rename_i level rest hmarker
    obtain ⟨p, hp, rfl⟩ := Option.map_eq_some_iff.mp h
    have h1 := length_marker? hmarker
    have h2 := length_braces? (m := p.1) (r := p.2) hp
    exact Nat.lt_trans h2 h1

theorem length_braced? {s : List Char} {f : Found} (h : braced? s = some f) :
    f.rest.length < s.length := by
  induction s generalizing f with
  | nil => simp [braced?] at h
  | cons c s ih =>
      unfold braced? at h
      split at h
      · rename_i found hfound
        rw [← Option.some.inj h]
        exact length_bracedHere? hfound
      · obtain ⟨g, hg, rfl⟩ := Option.map_eq_some_iff.mp h
        have := ih hg
        simp only [Found.after, List.length_cons]
        omega

theorem length_tagged? {s : List Char} {f : Found} (h : tagged? s = some f) :
    f.rest.length < s.length := by
  fun_induction tagged? s generalizing f with
  | case1 s hdrop => simp at h
  | case2 s line newline rest hdrop =>
      have := length_dropWhile_le (fun c => decide (c ≠ '\n')) s
      rw [hdrop] at this
      rw [← Option.some.inj h]
      exact this
  | case3 s line newline rest hdrop =>
      rename_i ih
      have := length_dropWhile_le (fun c => decide (c ≠ '\n')) s
      rw [hdrop] at this
      obtain ⟨g, hg, rfl⟩ := Option.map_eq_some_iff.mp h
      have := ih hg
      simp only [Found.after, List.length_cons] at *
      omega

theorem length_next? {s : List Char} {f : Found} (h : next? s = some f) :
    f.rest.length < s.length := by
  unfold next? at h
  split at h
  · rename_i found hfound
    rw [← Option.some.inj h]
    exact length_braced? hfound
  · exact length_tagged? h

end Hooklog.Catcher
