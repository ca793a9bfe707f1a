import Hooklog.Proofs.Catcher.LineMessages
import Hooklog.Proofs.Level.Grammar
import Hooklog.Proofs.Template.Reserved

/-!
# Captures

What the two patterns for marked messages capture of a text: the part that is to be removed, and
the name of the level as it is written.  The patterns take a name in any letter case, under the
simple folding that also takes a long s and a Kelvin sign for letters; the level is read from the
name afterwards, by its lower case.

* `Capture` is a match, and `capture?` finds the one that is taken next from a text.
* `isMarkerName_iff` says which names the patterns take, and `read_of_mem_markerWords` reads a level
  from each of them.
* `rel_capture?` says that captures and messages are found together: `Capture.Reads` compares them,
  and accounts for every character of the text.
-/

namespace Hooklog.Catcher

open Text Template

/-- A match of a pattern: the text before it, the text that it removes, the name of its level, and
the message in two parts, of which the first may be empty. -/
structure Capture where
  before : List Char
  removed : List Char
  name : List Char
  lead : List Char
  body : List Char
  deriving DecidableEq

namespace Capture

/-- The same match further on in a text. -/
def after (s : List Char) (m : Capture) : Capture := { m with before := s ++ m.before }

/-- Byte offset behind the text that is removed. -/
def stop (m : Capture) : Nat := byteLength (m.before ++ m.removed)

/-- The message at a level. -/
def message (m : Capture) (level : Level) : List Char :=
  if m.lead = [] then m.body else m.lead ++ ' ' :: level.text.toList ++ ' ' :: m.body

end Capture

/-- Whether a word is the name of a marker under simple folding. -/
def isMarkerName (name : List Char) : Bool :=
  (markerWords.lookup (String.ofList (name.map Token.foldChar))).isSome

/-- Name between brackets at the head of a text, and the text after it. -/
def name? : List Char → Option (List Char × List Char)
  | '[' :: s =>
      match s.dropWhile (fun c => c ≠ ']') with
      | ']' :: rest =>
          let name := s.takeWhile fun c => c ≠ ']'
          if isMarkerName name then some (name, rest) else none
      | _ => none
  | _ => none

/-- Capture of a braced message at the head of a text. -/
def bracedCaptureHere? (s : List Char) : Option Capture :=
  match name? s with
  | none => none
  | some (name, s) =>
      (braces? s).map fun p =>
        ⟨[], '[' :: (name ++ ']' :: s.take (s.length - p.2.length)), name, [], p.1⟩

/-- Capture of the first braced message of a text. -/
def bracedCapture? : List Char → Option Capture
  | [] => none
  | c :: s =>
      match bracedCaptureHere? (c :: s) with
      | some m => some m
      | none => (bracedCapture? s).map (Capture.after [c])

/-- Text before the first name of a line, the name, and the text after it. -/
def firstName? : List Char → Option (List Char × List Char × List Char)
  | [] => none
  | c :: s =>
      match name? (c :: s) with
      | some (name, rest) => some ([], name, rest)
      | none => (firstName? s).map fun p => (c :: p.1, p.2)

/-- Capture of the first tagged line among lines that have ended. -/
def taggedCapture? : List (List Char) → Option Capture
  | [] => none
  | line :: lines =>
      match firstName? line with
      | some (before, name, rest) =>
          some ⟨[], line ++ ['\n'], name, trimBoth isGap before, trimBoth isGap rest⟩
      | none => (taggedCapture? lines).map (Capture.after (line ++ ['\n']))

/-- Capture of the marked message that is taken next from a text. -/
def capture? (s : List Char) : Option Capture :=
  match bracedCapture? s with
  | some m => some m
  | none => taggedCapture? (splitLines s).1

/-! ## Names -/

/-- Folding is lower case on the names of markers, which hold neither an `s` nor a `k`. -/
theorem isMarkerName_iff (name : List Char) :
    isMarkerName name = true ↔ ∃ p ∈ markerWords, name.map Char.toLower = p.1.toList := by
  have hwords : ∀ p ∈ markerWords,
      SmallLetters p.1.toList ∧ 's' ∉ p.1.toList ∧ 'k' ∉ p.1.toList := by
    decide +kernel
  have hlookup : ∀ p ∈ markerWords, markerWords.lookup p.1 = some p.2 := by decide
  have hascii : ∀ c, isAsciiLetter c = true → Token.foldChar c = c.toLower := fun c hc =>
    Token.foldChar_of_ascii (Level.lt_of_isAsciiLetter hc)
  unfold isMarkerName
  rw [Option.isSome_iff_exists]
  constructor
  · rintro ⟨level, hlevel⟩
    have hmem := mem_of_lookup hlevel
    obtain ⟨hletters, hs, hk⟩ := hwords _ hmem
    rw [String.toList_ofList] at hletters hs hk
    refine ⟨_, hmem, ?_⟩
    rw [String.toList_ofList]
    refine List.map_congr_left fun c hc => (hascii c ?_).symm
    have hfold : Token.foldChar c ∈ name.map Token.foldChar := List.mem_map_of_mem hc
    rcases Token.letter_of_foldChar (hletters _ hfold).1 (hletters _ hfold).2 with
      (hletter | rfl) | rfl
    · exact hletter
    · exact absurd hfold hk
    · exact absurd hfold hs
  · rintro ⟨p, hp, hname⟩
    have hletters := isAsciiLetter_of_name hp hname
    have hfold : name.map Token.foldChar = name.map Char.toLower :=
      List.map_congr_left fun c hc => hascii c (hletters c hc)
    rw [hfold, hname, String.ofList_toList]
    exact ⟨p.2, hlookup p hp⟩

/-- The level of a name is read, by the reader of levels. -/
theorem read_of_mem_markerWords {name : List Char} {p : String × Level} (hp : p ∈ markerWords)
    (hname : name.map Char.toLower = p.1.toList) :
    Level.read (String.ofList name) = .ok p.2 := by
  have hnames : ∀ p ∈ markerWords, p ∈ Level.names ++ Level.aliases := by decide
  rw [Level.read_eq_ok_iff, String.toList_ofList]
  exact ⟨[], name, [], by simp, by simp, by simp,
    .name (Level.mem_names_iff.mp (hnames p hp)) hname⟩

theorem name?_eq_some_iff {s name rest : List Char} :
    name? s = some (name, rest) ↔ isMarkerName name = true ∧ s = '[' :: (name ++ ']' :: rest) := by
  constructor
  · intro h
    unfold name? at h
    split at h
    · rename_i s
      split at h
      · rename_i rest' hdrop
        have hsplit := List.takeWhile_append_dropWhile (p := fun c => c ≠ ']') (l := s)
        rw [hdrop] at hsplit
        dsimp only at h
        split at h
        · rename_i hname
          simp only [Option.some.injEq, Prod.mk.injEq] at h
          obtain ⟨rfl, rfl⟩ := h
          exact ⟨hname, by rw [hsplit]⟩
        · simp at h
      · simp at h
    · simp at h
  · -- a name holds letters only, so the bracket behind it is the first one
    rintro ⟨hname, rfl⟩
    obtain ⟨p, hp, hletters⟩ := (isMarkerName_iff name).mp hname
    have hinside : ∀ c ∈ name, decide (c ≠ ']') = true := by
      rintro c hc
      have hletter := isAsciiLetter_of_name hp hletters c hc
      refine decide_eq_true ?_
      rintro rfl
      exact absurd hletter (by decide)
    have hstop : ∀ c, (']' :: rest).head? = some c → decide (c ≠ ']') = false := by
      rintro c ⟨⟩
      decide
    rw [name?, dropWhile_append_stop hinside hstop]
    simp only [takeWhile_append_stop hinside hstop, hname, if_true]

/-- Names and markers are found together, and the reader of levels gives the level of the
marker. -/
theorem rel_name? (s : List Char) :
    Option.Rel (fun p q => s = '[' :: (p.1 ++ ']' :: p.2) ∧ q.2 = p.2 ∧
      Level.read (String.ofList p.1) = .ok q.1) (name? s) (marker? s) := by
  rcases hname : name? s with _ | ⟨name, rest⟩
  · have hmarker : marker? s = none := by
      rw [Option.eq_none_iff_forall_ne_some]
      rintro ⟨level, rest⟩ h
      obtain ⟨word, ⟨name, p, hp, -, hletters, rfl⟩, hs⟩ := (marker?_eq_some_iff s level rest).mp h
      have hfound : name? s = some (name, rest) :=
        name?_eq_some_iff.mpr ⟨(isMarkerName_iff name).mpr ⟨p, hp, hletters⟩, by simp [hs]⟩
      simp [hname] at hfound
    rw [hmarker]
    exact .none
  · obtain ⟨hmarks, hs⟩ := name?_eq_some_iff.mp hname
    obtain ⟨p, hp, hletters⟩ := (isMarkerName_iff name).mp hmarks
    have hmarker : marker? s = some (p.2, rest) :=
      (marker?_eq_some_iff s p.2 rest).mpr
        ⟨_, ⟨name, p, hp, rfl, hletters, rfl⟩, by simp [hs]⟩
    rw [hmarker]
    exact .some ⟨hs, rfl, read_of_mem_markerWords hp hletters⟩

/-! ## Captures and messages -/

theorem rel_map {α β α' β' : Type} {R : α → β → Prop} {R' : α' → β' → Prop} {f : α → α'}
    {g : β → β'} {a : Option α} {b : Option β} (h : Option.Rel R a b)
    (hfg : ∀ x y, R x y → R' (f x) (g y)) : Option.Rel R' (a.map f) (b.map g) := by
  cases h with
  | none => exact .none
  | some h => exact .some (hfg _ _ h)

/-- What is captured of a text is what is found in it: the capture removes text up to the rest,
more than the end of a line, and its name is read as the level of the message. -/
structure Capture.Reads (m : Capture) (s : List Char) (f : Found) : Prop where
  text : s = m.before ++ (m.removed ++ f.rest)
  bracket : '[' ∈ m.removed
  before : f.before = m.before
  level : Level.read (String.ofList m.name) = .ok f.level
  message : f.message = m.message f.level

theorem Capture.Reads.after {m : Capture} {s : List Char} {f : Found} (h : m.Reads s f)
    (t : List Char) : (m.after t).Reads (t ++ s) (f.after t) where
  text := by
    rw [h.text]
    simp [Capture.after, Found.after]
  bracket := h.bracket
  before := congrArg (t ++ ·) h.before
  level := h.level
  message := h.message

theorem suffix_of_braces? {s : List Char} {p : List Char × List Char} (h : braces? s = some p) :
    p.2 <:+ s := by
  unfold braces? at h
  split at h
  · rename_i body hbody
    split at h
    · rename_i rest hrest
      obtain rfl := Option.some.inj h
      have hbodySuffix : '{' :: body <:+ s := hbody ▸ List.dropWhile_suffix _
      have hrestSuffix : '}' :: rest <:+ body := hrest ▸ List.dropWhile_suffix _
      exact ((List.suffix_cons _ rest).trans hrestSuffix).trans
        ((List.suffix_cons _ body).trans hbodySuffix)
    · simp at h
  · simp at h

theorem rel_bracedCaptureHere? (s : List Char) :
    Option.Rel (Capture.Reads · s) (bracedCaptureHere? s) (bracedHere? s) := by
  have hrel := rel_name? s
  unfold bracedCaptureHere? bracedHere?
  generalize name? s = a at hrel ⊢
  generalize marker? s = b at hrel ⊢
  cases hrel with
  | none => exact .none
  | @some p q hpq =>
      obtain ⟨name, rest⟩ := p
      obtain ⟨level, rest'⟩ := q
      obtain ⟨hs, rfl, hread⟩ := hpq
      dsimp only at hs hread ⊢
      rcases hbraces : braces? rest' with _ | ⟨body, after⟩
      · exact .none
      · have hsuffix : after <:+ rest' := suffix_of_braces? hbraces
        obtain ⟨taken, htaken⟩ := hsuffix
        have htake : rest'.take (rest'.length - after.length) = taken := by
          rw [← htaken]
          simp
        refine .some ⟨?_, by simp, rfl, hread, rfl⟩
        dsimp only
        rw [hs, htake, ← htaken]
        simp

/-- Braced messages and their captures are found at the same places. -/
theorem rel_bracedCapture? (s : List Char) :
    Option.Rel (Capture.Reads · s) (bracedCapture? s) (braced? s) := by
  induction s with
  | nil => exact .none
  | cons c s ih =>
      have hhere := rel_bracedCaptureHere? (c :: s)
      rw [bracedCapture?, braced?]
      generalize bracedCaptureHere? (c :: s) = a at hhere ⊢
      generalize bracedHere? (c :: s) = b at hhere ⊢
      cases hhere with
      | some h => exact .some h
      | none => exact rel_map ih fun m f h => h.after [c]

/-- The first name of a line is the first marker of it. -/
theorem rel_firstName? (line : List Char) :
    Option.Rel (fun p q => q.1 = p.1 ∧ q.2.2 = p.2.2 ∧ '[' ∈ line ∧
      Level.read (String.ofList p.2.1) = .ok q.2.1) (firstName? line) (firstMarker? line) := by
  induction line with
  | nil => exact .none
  | cons c s ih =>
      have hhere := rel_name? (c :: s)
      rw [firstName?, firstMarker?]
      generalize name? (c :: s) = a at hhere ⊢
      generalize marker? (c :: s) = b at hhere ⊢
      cases hhere with
      | some h =>
          obtain ⟨hs, hrest, hread⟩ := h
          exact .some ⟨rfl, hrest, by rw [hs]; exact List.mem_cons_self, hread⟩
      | none =>
          refine rel_map ih ?_
          rintro p q ⟨hbefore, hrest, hmem, hread⟩
          exact ⟨congrArg (c :: ·) hbefore, hrest, List.mem_cons_of_mem c hmem, hread⟩

theorem tagged?_of_notMem {s : List Char} (h : '\n' ∉ s) : tagged? s = none := by
  have hdrop : s.dropWhile (fun c => decide (c ≠ '\n')) = [] := by
    have hinside : ∀ c ∈ s, decide (c ≠ '\n') = true := fun c hc =>
      decide_eq_true fun heq => h (heq ▸ hc)
    have happend : (s ++ []).dropWhile (fun c => decide (c ≠ '\n')) = [] :=
      List.dropWhile_append_of_pos hinside
    rw [List.append_nil] at happend
    exact happend
  rw [tagged?]
  split
  · rfl
  · rename_i newline rest hsome
    rw [hdrop] at hsome
    simp at hsome

/-- Tagged lines and their captures are found along the lines of a text. -/
theorem rel_taggedCapture? (s : List Char) :
    Option.Rel (Capture.Reads · s) (taggedCapture? (splitLines s).1) (tagged? s) := by
  induction s using lineInduction with
  | rest s h =>
      rw [splitLines_of_notMem h, tagged?_of_notMem h]
      exact .none
  | line line s h ih =>
      have hhere := rel_firstName? line
      rw [splitLines_line h, tagged?_line h, taggedCapture?]
      generalize firstName? line = a at hhere ⊢
      generalize firstMarker? line = b at hhere ⊢
      cases hhere with
      | @some p q hpq =>
          obtain ⟨before, name, rest⟩ := p
          obtain ⟨before', level, rest'⟩ := q
          obtain ⟨rfl, rfl, hmem, hread⟩ := hpq
          exact .some ⟨by simp, List.mem_append_left _ hmem, rfl, hread, rfl⟩
      | none =>
          refine rel_map ih fun m f hlater => ?_
          have hshift := hlater.after (line ++ ['\n'])
          rw [List.append_assoc, List.singleton_append] at hshift
          exact hshift

/-- A text has a capture where it has a marked message, and both say the same of it. -/
theorem rel_capture? (s : List Char) :
    Option.Rel (Capture.Reads · s) (capture? s) (next? s) := by
  have hbraced := rel_bracedCapture? s
  rw [capture?, next?]
  generalize bracedCapture? s = a at hbraced ⊢
  generalize braced? s = b at hbraced ⊢
  cases hbraced with
  | some h => exact .some h
  | none => exact rel_taggedCapture? s

end Hooklog.Catcher
