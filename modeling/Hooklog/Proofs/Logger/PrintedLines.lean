import Hooklog.Proofs.Catcher.Unmarked
import Hooklog.Proofs.Logger.Deliveries
import Hooklog.Proofs.Text.Encoding

/-!
# Lines that are printed and lines that are written

A line can be printed or written.  A written line is one message, and its end belongs to the
message only where text is printed raw.  A printed line always keeps its end.  So the two are the
same entry where the level of printed text is that of raw text, and at all other levels the
printed one is longer by the end of its line.

* `Catcher.messages_of_unmarked_line` and `Logger.write_line` follow a written line.
* `Logger.println_agrees_iff` compares the entries that the hooks are handed.
-/

namespace Hooklog

namespace Catcher

/-- A line that has ended and holds no marker is one message. -/
theorem messages_of_unmarked_line (printLevel : Level) {line : List Char} (hline : '\n' ∉ line)
    (hmarker : ¬ HoldsMarker line) :
    messages printLevel (line ++ ['\n']) = [lineMessage printLevel line] := by
  rw [messages_of_unmarked printLevel (not_holdsMarker_newline hmarker),
    plainMessages_line printLevel hline, plainMessages_nil]

/-- Only raw text keeps the end of its line. -/
theorem text_lineMessage (printLevel : Level) (x : String) :
    (lineMessage printLevel x.toList).text =
      if printLevel = .print then x ++ "\n" else x := by
  rw [lineMessage, Level.isPrint]
  by_cases hraw : printLevel = .print
  · rw [if_pos hraw, if_pos (decide_eq_true hraw)]
    exact String.toList_inj.mp (by rw [String.toList_ofList, String.toList_append]; rfl)
  · rw [if_neg hraw, decide_eq_false hraw, if_neg Bool.false_ne_true, String.ofList_toList]

end Catcher

namespace Logger

open Catcher Delivery

/-- One message is sent by one dispatch. -/
theorem sendAll_singleton (m : Catcher.Message) (l : Logger) (s : Store) :
    sendAll [m] l s = l.dispatch s m.level m.text .empty none := by
  rw [sendAll]
  split
  · rename_i heq
    rw [heq]
    rfl
  · rename_i heq
    exact heq.symm

/-- A written line is dispatched at the level of printed text, and its bytes are counted. -/
theorem write_line {l : Logger} (hcatches : l.catches = true) (hpending : l.pending = [])
    (s : Store) {x : String} (hline : '\n' ∉ x.toList) (hmarker : ¬ HoldsMarker x.toList) :
    l.write s (Text.bytesOf (x ++ "\n")) =
      ((l.dispatch s l.printLevel (if l.printLevel = .print then x ++ "\n" else x) .empty
          none).1.map fun _ => (Text.bytesOf (x ++ "\n")).length,
        (l.dispatch s l.printLevel (if l.printLevel = .print then x ++ "\n" else x) .empty
          none).2) := by
  have hcomplete : Text.Complete (Text.bytesOf (x ++ "\n")) := by
    refine Or.inr ⟨Text.bytesOf x, ?_⟩
    rw [Text.bytesOf_append]
    rfl
  have hdecode : Text.decode (Text.bytesOf (x ++ "\n")) = x.toList ++ ['\n'] := by
    rw [Text.bytesOf_eq_encode, Text.decode_encode, String.toList_append]
    rfl
  rw [write, received_of_complete hcatches hpending hcomplete, hdecode,
    messages_of_unmarked_line l.printLevel hline hmarker]
  dsimp only
  rw [sendAll_singleton, text_lineMessage]
  rfl

/-- Two dispatches at one level hand over the same entries only if no hook is served, unless their
messages are the same. -/
theorem handed_eq_iff {l : Logger} (hl : l.Registered) {s s₁ s₂ : Store} {level : Level}
    {message message' : String} {fields : Fields} {caller : Option Caller}
    {ds es : List Delivery} (hds : l.Dispatched s level message fields caller ds s₁)
    (hes : l.Dispatched s level message' fields caller es s₂) (hne : message ≠ message') :
    (ds.map fun d => (d.hook, d.entry)) = (es.map fun d => (d.hook, d.entry)) ↔
      l.accepting s level = [] := by
  constructor
  · intro hsame
    refine List.eq_nil_iff_forall_not_mem.mpr fun h hmem => ?_
    obtain ⟨d, hd, -⟩ := List.mem_map.mp ((hds.mem_iff hl h).mpr hmem)
    have hhanded : (d.hook, d.entry) ∈ es.map fun d => (d.hook, d.entry) :=
      hsame ▸ List.mem_map_of_mem hd
    obtain ⟨d', hd', heq⟩ := List.mem_map.mp hhanded
    have hentry : d'.entry = d.entry := congrArg Prod.snd heq
    rw [hds.entry d hd, hes.entry d' hd'] at hentry
    exact hne (congrArg Entry.message hentry).symm
  · intro hnone
    have hempty : ∀ {served : List Delivery},
        (∀ h : Hook, h ∈ served.map Delivery.hook ↔ h ∈ l.accepting s level) → served = [] := by
      intro served hserved
      refine List.eq_nil_iff_forall_not_mem.mpr fun d hd => ?_
      have hmem := (hserved d.hook).mp (List.mem_map_of_mem hd)
      rw [hnone] at hmem
      exact List.not_mem_nil hmem
    rw [hempty (hds.mem_iff hl), hempty (hes.mem_iff hl)]

/-- A line that is printed and the same line written agree where text is printed raw, and
nowhere else.  For a logger that catches, holds no part of a line and does not report callers,
both are one dispatch at the level of printed text.  If this is the level of raw text the two
leave the same logger and the same store behind.  The hooks are handed the same entry by both
exactly if it is, or if no hook accepts the level; otherwise the printed message is longer by the
end of its line. -/
theorem println_agrees_iff {l : Logger} (hl : l.Registered) (hcatches : l.catches = true)
    (hpending : l.pending = []) (hcaller : l.reportsCaller = false) (s : Store) (caller : Caller)
    {x : String} (hline : '\n' ∉ x.toList) (hmarker : ¬ HoldsMarker x.toList) :
    ∃ ds s₁ es s₂,
      l.Dispatched s l.printLevel (x ++ "\n") .empty none ds s₁ ∧
      l.println s caller x = ({ l with errors := l.errors ++ failures ds }, s₁) ∧
      l.Dispatched s l.printLevel (if l.printLevel = .print then x ++ "\n" else x) .empty none
        es s₂ ∧
      l.write s (Text.bytesOf (x ++ "\n")) =
        ((dispatchResult (failures es)).map fun _ => (Text.bytesOf (x ++ "\n")).length,
          { l with errors := l.errors ++ failures es }, s₂) ∧
      (l.printLevel = .print →
        (l.write s (Text.bytesOf (x ++ "\n"))).2 = l.println s caller x) ∧
      ((ds.map fun d => (d.hook, d.entry)) = (es.map fun d => (d.hook, d.entry)) ↔
        l.printLevel = .print ∨ l.accepting s l.printLevel = []) := by
  have hprintln : l.println s caller x =
      (l.dispatch s l.printLevel (x ++ "\n") .empty none).2 := by
    have hreported : l.reported caller = none := by
      rw [reported, hcaller]
      rfl
    rw [println, print, log, logFields, hreported]
  have hwrite := write_line hcatches hpending s hline hmarker
  obtain ⟨ds, s₁, hds, hprinted⟩ := exists_dispatched hl s l.printLevel (x ++ "\n") .empty none
  have hprinted : l.dispatch s l.printLevel (x ++ "\n") .empty none =
      (dispatchResult (failures ds), { l with errors := l.errors ++ failures ds }, s₁) :=
    hprinted l.errors
  by_cases hraw : l.printLevel = .print
  · rw [if_pos hraw] at hwrite ⊢
    refine ⟨ds, s₁, ds, s₁, hds, ?_, hds, ?_, fun _ => ?_, fun _ => Or.inl hraw, fun _ => rfl⟩
    · rw [hprintln, hprinted]
    · rw [hwrite, hprinted]
    · rw [hwrite, hprintln]
  · rw [if_neg hraw] at hwrite ⊢
    obtain ⟨es, s₂, hes, hwritten⟩ := exists_dispatched hl s l.printLevel x .empty none
    have hwritten : l.dispatch s l.printLevel x .empty none =
        (dispatchResult (failures es), { l with errors := l.errors ++ failures es }, s₂) :=
      hwritten l.errors
    refine ⟨ds, s₁, es, s₂, hds, ?_, hes, ?_, fun h => absurd h hraw, ?_⟩
    · rw [hprintln, hprinted]
    · rw [hwrite, hwritten]
    · rw [or_iff_right hraw]
      refine handed_eq_iff hl hds hes fun heq => ?_
      have hlength := congrArg String.length heq
      rw [String.length_append] at hlength
      exact absurd hlength (Nat.succ_ne_self _)

/-- Where text is printed raw, a line leaves the same behind in both ways. -/
theorem println_agrees_iff_raw :
    recording.Registered ∧ recording.catches = true ∧ recording.pending = [] ∧
      recording.reportsCaller = false ∧ '\n' ∉ "one {two}".toList ∧
      ¬ HoldsMarker "one {two}".toList ∧ recording.printLevel = .print ∧
      (recording.write recordingStore (Text.bytesOf ("one {two}" ++ "\n"))).2 =
        recording.println recordingStore ⟨"", "", 0⟩ "one {two}" := by
  have hregistered : recording.Registered := registered_withHooks _ _ _
  have hline : '\n' ∉ "one {two}".toList := by decide
  have hmarker : ¬ HoldsMarker "one {two}".toList :=
    not_holdsMarker_of_firstMarker?_eq_none (by decide +kernel)
  obtain ⟨-, -, -, -, -, -, -, -, hsame, -⟩ :=
    println_agrees_iff hregistered rfl rfl rfl recordingStore ⟨"", "", 0⟩ hline hmarker
  exact ⟨hregistered, rfl, rfl, rfl, hline, hmarker, rfl, hsame rfl⟩

/-- Where text is printed as informations, a printed line keeps its end and a written one does
not. -/
theorem printed_line_keeps_end :
    let l : Logger := { recording with printLevel := .info }
    l.Registered ∧ l.catches = true ∧ l.pending = [] ∧ l.reportsCaller = false ∧
      '\n' ∉ "x".toList ∧ ¬ HoldsMarker "x".toList ∧
      (l.println recordingStore ⟨"", "", 0⟩ "x").2.buffers.content "record" =
        Text.bytesOf "info: x\n\n" ∧
      (l.write recordingStore (Text.bytesOf ("x" ++ "\n"))).2.2.buffers.content "record" =
        Text.bytesOf "info: x\n" := by
  intro l
  have hregistered : recording.Registered := registered_withHooks _ _ _
  exact ⟨hregistered, rfl, rfl, rfl, by decide,
    not_holdsMarker_of_firstMarker?_eq_none (by decide +kernel), by decide +kernel,
    by decide +kernel⟩

end Logger

end Hooklog
