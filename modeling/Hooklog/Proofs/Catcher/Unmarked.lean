import Hooklog.Proofs.Catcher.Grouping

/-!
# Text without markers

A text without a marker is plain, whether it is read as ended lines or as what is left when the
logger is closed.  If plain text is printed raw, its messages put together are the text again.
-/

namespace Hooklog.Catcher

open Text

/-- A marker of a part of a text is a marker of the text. -/
theorem HoldsMarker.append {text : List Char} (h : HoldsMarker text) (front back : List Char) :
    HoldsMarker (front ++ text ++ back) := by
  obtain ⟨before, word, level, after, hword, rfl⟩ := h
  exact ⟨front ++ before, word, level, after ++ back, hword, by simp⟩

theorem not_holdsMarker_nil : ¬ HoldsMarker [] := by
  rintro ⟨before, word, level, after, ⟨name, p, -, -, -, rfl⟩, htext⟩
  simp at htext

/-- A text that holds no marker holds none if the end of a line is put behind it. -/
theorem not_holdsMarker_newline {text : List Char} (h : ¬ HoldsMarker text) :
    ¬ HoldsMarker (text ++ ['\n']) := by
  intro hmarker
  rcases (holdsMarker_line_iff []).mp hmarker with hmarker | hmarker
  · exact h hmarker
  · exact not_holdsMarker_nil hmarker

theorem braced?_of_unmarked {text : List Char} (h : ¬ HoldsMarker text) : braced? text = none := by
  cases hbraced : braced? text with
  | none => rfl
  | some found =>
      have hsome : (braced? text).isSome = true := by rw [hbraced, Option.isSome_some]
      obtain ⟨before, word, level, gap, body, after, hword, -, -, htext⟩ :=
        (braced?_isSome_iff text).mp hsome
      refine absurd ⟨before, word, level, gap ++ '{' :: body ++ '}' :: after, hword, ?_⟩ h
      rw [htext]
      simp only [List.append_assoc]

theorem tagged?_of_unmarked {text : List Char} (h : ¬ HoldsMarker text) : tagged? text = none := by
  induction text using lineInduction with
  | rest text hline =>
      have hdrop : text.dropWhile (fun c => decide (c ≠ '\n')) = [] := by
        rw [← List.append_nil text]
        exact dropWhile_append_stop (fun c hc => decide_eq_true fun heq => hline (heq ▸ hc))
          (by rintro c ⟨⟩)
      rw [tagged?]
      split
      · rfl
      · rename_i heq
        rw [hdrop] at heq
        exact absurd heq (by simp)
  | line line text hline ih =>
      have htext : ¬ HoldsMarker text → tagged? text = none := ih
      rw [holdsMarker_line_iff, not_or] at h
      have hfirst : firstMarker? line = none := by
        cases hfirst : firstMarker? line with
        | none => rfl
        | some found =>
            obtain ⟨before, level, after⟩ := found
            obtain ⟨word, hword, hline⟩ := (firstMarker_of_firstMarker? hfirst).found
            exact absurd ⟨before, word, level, after, hword, hline⟩ h.1
      rw [tagged?_line hline, hfirst, htext h.2]
      rfl

theorem markedMessages_of_unmarked (printLevel : Level) {text : List Char}
    (h : ¬ HoldsMarker text) : markedMessages printLevel text = ([], text) := by
  refine markedMessages_of_none ?_
  rw [next?_eq_tagged? (braced?_of_unmarked h), tagged?_of_unmarked h]

/-- Ended lines without a marker are plain. -/
theorem messages_of_unmarked (printLevel : Level) {text : List Char} (h : ¬ HoldsMarker text) :
    messages printLevel text = plainMessages printLevel text := by
  rw [messages, markedMessages_of_unmarked printLevel h]
  rfl

/-- What is left at the end is plain if it holds no marker. -/
theorem closingMessages_of_unmarked (printLevel : Level) {text : List Char}
    (h : ¬ HoldsMarker text) : closingMessages printLevel text = plainMessages printLevel text := by
  rw [closingMessages, markedMessages_of_unmarked printLevel (not_holdsMarker_newline h)]
  dsimp only
  rw [List.dropLast_concat]
  rfl

/-- Text of messages put together. -/
def textOf (ms : List Message) : List Char := ms.flatMap fun m => m.text.toList

theorem toList_lineMessage (line : List Char) :
    (lineMessage .print line).text.toList = line ++ ['\n'] := by
  have hprint : Level.print.isPrint = true := by decide
  rw [lineMessage, if_pos hprint, String.toList_ofList]

/-- Nothing of a plain text is lost when it is printed raw. -/
theorem textOf_plainMessages (text : List Char) : textOf (plainMessages .print text) = text := by
  have htail : textOf (if (splitLines text).2 = [] then []
      else [⟨.print, String.ofList (splitLines text).2⟩]) = (splitLines text).2 := by
    split
    · rename_i hnil
      rw [hnil]
      rfl
    · rw [textOf, List.flatMap_singleton, String.toList_ofList]
  calc textOf (plainMessages .print text)
      = (splitLines text).1.flatMap (fun line => (lineMessage .print line).text.toList)
          ++ (splitLines text).2 := by
        rw [plainMessages, textOf, List.flatMap_append, List.flatMap_map]
        exact congrArg _ htail
    _ = (splitLines text).1.flatMap (· ++ ['\n']) ++ (splitLines text).2 := by
        simp only [toList_lineMessage]
    _ = text := flatMap_splitLines text

theorem level_of_mem_plainMessages {printLevel : Level} {text : List Char} {m : Message}
    (hm : m ∈ plainMessages printLevel text) : m.level = printLevel := by
  rcases List.mem_append.mp hm with hm | hm
  · obtain ⟨line, -, rfl⟩ := List.mem_map.mp hm
    rfl
  · split at hm
    · exact absurd hm List.not_mem_nil
    · rw [List.mem_singleton.mp hm]

end Hooklog.Catcher
