import Hooklog.Catcher
import Hooklog.Proofs.Catcher.Markers
import Hooklog.Proofs.Text.Lines

/-!
# Messages of lines

Without braced messages a text is read line by line: each line has one message, decided by
the line alone.  `LineMessage` says which message that is, and the statements below follow
the reader along the lines of a text.
-/

namespace Hooklog.Catcher

open Text

/-- A line of a text, and whether its end has been written. -/
structure WrittenLine where
  text : List Char
  ended : Bool
  deriving DecidableEq, Repr

/-- Lines of a text from left to right; what follows the last end is a line unless it is
empty. -/
def linesOf (s : List Char) : List WrittenLine :=
  (splitLines s).1.map (fun line => ⟨line, true⟩)
    ++ (if (splitLines s).2 = [] then [] else [⟨(splitLines s).2, false⟩])

/-- Message that a line stands for under a print level. -/
inductive LineMessage (printLevel : Level) (line : WrittenLine) : Message → Prop where
  /-- A marker with nothing but blanks before it: what follows it is the message. -/
  | marked (before : List Char) (level : Level) (after : List Char) :
      FirstMarker line.text before level after → trimBoth isGap before = [] →
      LineMessage printLevel line ⟨level, String.ofList (trimBoth isGap after)⟩
  /-- A marker within a line: the message names the level between the two parts. -/
  | tagged (before : List Char) (level : Level) (after : List Char) :
      FirstMarker line.text before level after → trimBoth isGap before ≠ [] →
      LineMessage printLevel line
        ⟨level, String.ofList (trimBoth isGap before) ++ " " ++ level.text ++ " "
          ++ String.ofList (trimBoth isGap after)⟩
  /-- A line without a marker is printed as it stands. -/
  | plain :
      (∀ before word level after, Marks word level → line.text ≠ before ++ word ++ after) →
      ¬(printLevel = .print ∧ line.ended = true) →
      LineMessage printLevel line ⟨printLevel, String.ofList line.text⟩
  /-- A raw line without a marker keeps its end. -/
  | raw :
      (∀ before word level after, Marks word level → line.text ≠ before ++ word ++ after) →
      printLevel = .print → line.ended = true →
      LineMessage printLevel line ⟨printLevel, String.ofList (line.text ++ ['\n'])⟩

/-- The message of a line, computed. -/
def messageOf (printLevel : Level) (line : WrittenLine) : Message :=
  match firstMarker? line.text with
  | some (before, level, after) => ⟨level, String.ofList (taggedMessage before level after)⟩
  | none =>
      if line.ended then lineMessage printLevel line.text
      else ⟨printLevel, String.ofList line.text⟩

theorem messageOf_of_firstMarker {printLevel : Level} {line : WrittenLine}
    {before after : List Char} {level : Level}
    (h : FirstMarker line.text before level after) :
    messageOf printLevel line = ⟨level, String.ofList (taggedMessage before level after)⟩ := by
  rw [messageOf, (firstMarker?_eq_some_iff _ _ _ _).mpr h]

theorem messageOf_of_no_marker {printLevel : Level} {line : WrittenLine}
    (h : ∀ before word level after, Marks word level → line.text ≠ before ++ word ++ after) :
    messageOf printLevel line =
      if line.ended then lineMessage printLevel line.text
      else ⟨printLevel, String.ofList line.text⟩ := by
  have hnone : firstMarker? line.text = none := by
    cases hfirst : firstMarker? line.text with
    | none => rfl
    | some found =>
        obtain ⟨word, hword, hs⟩ := (firstMarker_of_firstMarker? hfirst).found
        exact absurd hs (h _ _ _ _ hword)
  rw [messageOf, hnone]

theorem taggedMessage_of_blank {before : List Char} (h : trimBoth isGap before = [])
    (level : Level) (after : List Char) :
    taggedMessage before level after = trimBoth isGap after := by
  simp only [taggedMessage, if_pos h]

theorem ofList_taggedMessage {before : List Char} (h : trimBoth isGap before ≠ [])
    (level : Level) (after : List Char) :
    String.ofList (taggedMessage before level after) =
      String.ofList (trimBoth isGap before) ++ " " ++ level.text ++ " "
        ++ String.ofList (trimBoth isGap after) := by
  apply String.toList_inj.mp
  simp [taggedMessage, h]

/-- A line stands for exactly one message, the one that is computed. -/
theorem lineMessage_iff (printLevel : Level) (line : WrittenLine) (m : Message) :
    LineMessage printLevel line m ↔ m = messageOf printLevel line := by
  constructor
  · intro h
    cases h with
    | marked before level after hfirst hbefore =>
        rw [messageOf_of_firstMarker hfirst, taggedMessage_of_blank hbefore]
    | tagged before level after hfirst hbefore =>
        rw [messageOf_of_firstMarker hfirst, ofList_taggedMessage hbefore]
    | plain hnone hraw =>
        rw [messageOf_of_no_marker hnone]
        by_cases hended : line.ended = true
        · have hprint : printLevel ≠ .print := fun h => hraw ⟨h, hended⟩
          simp [hended, lineMessage, Level.isPrint, hprint]
        · rw [if_neg hended]
    | raw hnone hprint hended =>
        rw [messageOf_of_no_marker hnone, if_pos hended]
        simp [lineMessage, Level.isPrint, hprint]
  · rintro rfl
    cases hfirst : firstMarker? line.text with
    | some found =>
        obtain ⟨before, level, after⟩ := found
        have hmarker := firstMarker_of_firstMarker? hfirst
        rw [messageOf_of_firstMarker hmarker]
        by_cases hbefore : trimBoth isGap before = []
        · rw [taggedMessage_of_blank hbefore]
          exact .marked before level after hmarker hbefore
        · rw [ofList_taggedMessage hbefore]
          exact .tagged before level after hmarker hbefore
    | none =>
        have hnone : ∀ before word level after, Marks word level →
            line.text ≠ before ++ word ++ after :=
          fun _ _ _ _ hword => firstMarker?_eq_none hfirst hword
        rw [messageOf_of_no_marker hnone]
        by_cases hended : line.ended = true
        · rw [if_pos hended, lineMessage]
          by_cases hprint : printLevel = .print
          · simp only [Level.isPrint, hprint, decide_true, if_true]
            exact .raw hnone rfl hended
          · simp only [Level.isPrint, hprint, decide_false, Bool.false_eq_true, if_false]
            exact .plain hnone fun h => hprint h.1
        · rw [if_neg hended]
          exact .plain hnone fun h => hended h.2

/-! ## Reading along the lines -/

theorem plainMessages_nil (printLevel : Level) : plainMessages printLevel [] = [] := rfl

theorem plainMessages_line (printLevel : Level) {line : List Char} (h : '\n' ∉ line)
    (s : List Char) :
    plainMessages printLevel (line ++ '\n' :: s) =
      lineMessage printLevel line :: plainMessages printLevel s := by
  simp only [plainMessages, splitLines_line h, List.map_cons, List.cons_append]

/-- A line is the text before the first end of a line. -/
theorem span_line {line : List Char} (h : '\n' ∉ line) (s : List Char) :
    (line ++ '\n' :: s).takeWhile (fun c => decide (c ≠ '\n')) = line ∧
      (line ++ '\n' :: s).dropWhile (fun c => decide (c ≠ '\n')) = '\n' :: s := by
  have hline : ∀ c ∈ line, decide (c ≠ '\n') = true := by
    intro c hc
    exact decide_eq_true fun heq => h (heq ▸ hc)
  have hstop : ∀ c, ('\n' :: s).head? = some c → decide (c ≠ '\n') = false := by
    rintro c ⟨⟩
    decide
  exact ⟨takeWhile_append_stop hline hstop, dropWhile_append_stop hline hstop⟩

/-- The first tagged line is the first line if that holds a marker, and is looked for behind
it otherwise. -/
theorem tagged?_line {line : List Char} (h : '\n' ∉ line) (s : List Char) :
    tagged? (line ++ '\n' :: s) =
      match firstMarker? line with
      | some (before, level, after) => some ⟨[], level, taggedMessage before level after, s⟩
      | none => (tagged? s).map (Found.after (line ++ ['\n'])) := by
  rw [tagged?]
  split
  · rename_i hdrop
    rw [(span_line h s).2] at hdrop
    simp at hdrop
  · rename_i newline rest hdrop
    rw [(span_line h s).2] at hdrop
    obtain ⟨rfl, rfl⟩ := List.cons.inj hdrop
    have htake := (span_line h s).1
    generalize (line ++ '\n' :: s).takeWhile (fun c => decide (c ≠ '\n')) = first at htake ⊢
    subst htake
    rfl

theorem next?_eq_tagged? {s : List Char} (h : braced? s = none) : next? s = tagged? s := by
  rw [next?, h]

theorem markedMessages_of_none {printLevel : Level} {s : List Char} (h : next? s = none) :
    markedMessages printLevel s = ([], s) := by
  rw [markedMessages]
  split
  · rfl
  · rename_i hsome
    rw [h] at hsome
    simp at hsome

theorem markedMessages_of_some {printLevel : Level} {s : List Char} {f : Found}
    (h : next? s = some f) :
    markedMessages printLevel s =
      (plainMessages printLevel f.before ++ ⟨f.level, String.ofList f.message⟩
        :: (markedMessages printLevel f.rest).1, (markedMessages printLevel f.rest).2) := by
  rw [markedMessages]
  split
  · rename_i hnone
    rw [h] at hnone
    simp at hnone
  · rename_i f' hsome
    rw [h] at hsome
    cases hsome
    rfl

theorem braced?_of_line {line s : List Char} (h : braced? (line ++ '\n' :: s) = none) :
    braced? s = none := by
  rw [← List.singleton_append, ← List.append_assoc] at h
  exact braced?_of_append h

/-- A line that has ended gives its message, and the text behind it is read as if it stood
alone. -/
theorem messages_line (printLevel : Level) {line : List Char} (hline : '\n' ∉ line)
    {s : List Char} (hbraced : braced? (line ++ '\n' :: s) = none) :
    messages printLevel (line ++ '\n' :: s) =
      messageOf printLevel ⟨line, true⟩ :: messages printLevel s := by
  have hrest := braced?_of_line hbraced
  have hnext : next? (line ++ '\n' :: s) = tagged? (line ++ '\n' :: s) :=
    next?_eq_tagged? hbraced
  rw [tagged?_line hline] at hnext
  unfold messages messageOf
  cases hfirst : firstMarker? line with
  | some found =>
      obtain ⟨before, level, after⟩ := found
      rw [hfirst] at hnext
      rw [markedMessages_of_some hnext]
      simp only [plainMessages_nil, List.nil_append, List.cons_append]
  | none =>
      rw [hfirst] at hnext
      rw [← next?_eq_tagged? hrest] at hnext
      -- The line goes to the print path together with what stands before the next marker.
      cases hlater : next? s with
      | none =>
          rw [hlater] at hnext
          rw [markedMessages_of_none hnext, markedMessages_of_none hlater]
          exact plainMessages_line printLevel hline s
      | some f =>
          rw [hlater] at hnext
          rw [markedMessages_of_some hnext, markedMessages_of_some hlater]
          simp only [Found.after, List.append_assoc, List.nil_append,
            plainMessages_line printLevel hline, List.cons_append, if_true]

/-- Text whose lines have all ended gives one message for each line. -/
theorem messages_eq_map (printLevel : Level) {s : List Char} (hends : (splitLines s).2 = [])
    (hbraced : braced? s = none) :
    messages printLevel s = (linesOf s).map (messageOf printLevel) := by
  induction s using lineInduction with
  | rest s h =>
      rw [splitLines_of_notMem h] at hends
      subst hends
      rw [messages, markedMessages_of_none (by rw [next?_eq_tagged? hbraced, tagged?]; rfl)]
      rfl
  | line line s h ih =>
      have hrest := braced?_of_line hbraced
      rw [splitLines_line h] at hends
      rw [messages_line printLevel h hbraced, ih hends hrest]
      simp only [linesOf, splitLines_line h, List.map_cons, List.cons_append]

theorem linesOf_of_notMem {s : List Char} (h : '\n' ∉ s) :
    linesOf s = if s = [] then [] else [⟨s, false⟩] := by
  simp only [linesOf, splitLines_of_notMem h, List.map_nil, List.nil_append]

theorem tagged?_nil : tagged? [] = none := by
  rw [tagged?]
  rfl

/-- A rest without an end is one line; the end that is put behind it for the reader is not
printed. -/
theorem closingMessages_eq_map (printLevel : Level) {s : List Char} (hs : '\n' ∉ s)
    (hbraced : ¬ HoldsBracedMarker s) :
    closingMessages printLevel s = (linesOf s).map (messageOf printLevel) := by
  have hended : ¬ HoldsBracedMarker (s ++ ['\n']) := fun h =>
    hbraced (holdsBracedMarker_of_newline h)
  have hnext : next? (s ++ ['\n']) = tagged? (s ++ ['\n']) :=
    next?_eq_tagged? (braced?_eq_none hended)
  have hempty : next? ([] : List Char) = none := tagged?_nil
  rw [tagged?_line hs, tagged?_nil] at hnext
  rw [closingMessages, linesOf_of_notMem hs]
  cases hfirst : firstMarker? s with
  | some found =>
      obtain ⟨before, level, after⟩ := found
      -- the marker shows that the rest is a line, and its message has no end to lose
      have hne : s ≠ [] := by
        rintro rfl
        simp [firstMarker?] at hfirst
      rw [hfirst] at hnext
      rw [markedMessages_of_some hnext, markedMessages_of_none hempty, if_neg hne]
      simp [messageOf, hfirst, plainMessages_nil]
  | none =>
      -- without a marker the whole rest comes back, and the added end is taken off again
      rw [hfirst] at hnext
      rw [markedMessages_of_none hnext, List.dropLast_concat, plainMessages,
        splitLines_of_notMem hs]
      by_cases hne : s = []
      · simp [hne]
      · simp [hne, messageOf, hfirst]

end Hooklog.Catcher
