import Hooklog.Proofs.Catcher.Chunks
import Mathlib.Data.List.Count

/-!
# Lines written together

Lines may reach a logger in one write or in several.  A braced message is looked for in all of
the text at hand, so one that stands further on turns the tagged lines before it into plain
ones.  The main statement says that this is the only way in which the grouping of complete
lines can be told from what is sent.
-/

namespace Hooklog

open Text Catcher

namespace Catcher

/-- A marker stands somewhere in a text. -/
def HoldsMarker (text : List Char) : Prop :=
  ∃ before word level after, Marks word level ∧ text = before ++ word ++ after

/-- A marker that is followed by blanks and a text between braces. -/
def HoldsBracedMessage (text : List Char) : Prop :=
  ∃ before word level gap body after, Marks word level ∧ (∀ c ∈ gap, isGap c = true) ∧
    '}' ∉ body ∧ text = before ++ word ++ gap ++ '{' :: body ++ '}' :: after

/-! ## Braced messages -/

theorem braces?_isSome_iff (s : List Char) :
    (braces? s).isSome = true ↔
      ∃ gap body after, (∀ c ∈ gap, isGap c = true) ∧ '}' ∉ body ∧
        s = gap ++ '{' :: body ++ '}' :: after := by
  constructor
  · intro h
    unfold braces? at h
    split at h
    · rename_i body hbody
      split at h
      · rename_i after hafter
        refine ⟨s.takeWhile isGap, body.takeWhile fun c => c ≠ '}', after,
          List.all_eq_true.mp List.all_takeWhile, ?_, ?_⟩
        · intro hmem
          have := List.all_eq_true.mp List.all_takeWhile '}' hmem
          simp at this
        · rw [List.append_assoc, List.cons_append, ← hafter, List.takeWhile_append_dropWhile,
            ← hbody, List.takeWhile_append_dropWhile]
      · simp at h
    · simp at h
  · rintro ⟨gap, body, after, hgap, hbody, rfl⟩
    have hstart : (gap ++ '{' :: body ++ '}' :: after).dropWhile isGap =
        '{' :: (body ++ '}' :: after) := by
      rw [List.append_assoc, List.cons_append]
      exact dropWhile_append_stop hgap (by rintro c ⟨⟩; decide)
    have hend : (body ++ '}' :: after).dropWhile (fun c => decide (c ≠ '}')) = '}' :: after :=
      dropWhile_append_stop (fun c hc => decide_eq_true fun heq => hbody (heq ▸ hc))
        (by rintro c ⟨⟩; decide)
    simp only [braces?, hstart, hend, Option.isSome_some]

theorem braced?_isSome_iff (text : List Char) :
    (braced? text).isSome = true ↔ HoldsBracedMessage text := by
  constructor
  · intro h
    induction text with
    | nil => simp [braced?] at h
    | cons c s ih =>
        rw [braced?] at h
        split at h
        · rename_i found hfound
          rw [bracedHere?] at hfound
          split at hfound
          · simp at hfound
          · rename_i level rest hmarker
            obtain ⟨word, hword, hs⟩ := (marker?_eq_some_iff _ _ _).mp hmarker
            have hsome : (braces? rest).isSome = true := by
              rw [← Option.isSome_map, hfound, Option.isSome_some]
            obtain ⟨gap, body, after, hgap, hbody, hrest⟩ := (braces?_isSome_iff rest).mp hsome
            exact ⟨[], word, level, gap, body, after, hword, hgap, hbody, by
              rw [hs, hrest]; simp⟩
        · rw [Option.isSome_map] at h
          obtain ⟨before, word, level, gap, body, after, hword, hgap, hbody, rfl⟩ := ih h
          exact ⟨c :: before, word, level, gap, body, after, hword, hgap, hbody, by simp⟩
  · rintro ⟨before, word, level, gap, body, after, hword, hgap, hbody, rfl⟩
    induction before with
    | nil =>
        have hmarker := (marker?_eq_some_iff _ level (gap ++ '{' :: body ++ '}' :: after)).mpr
          ⟨word, hword, rfl⟩
        have hbraces := (braces?_isSome_iff _).mpr ⟨gap, body, after, hgap, hbody, rfl⟩
        obtain ⟨found, hfound⟩ := Option.isSome_iff_exists.mp hbraces
        obtain ⟨name, p, -, -, -, rfl⟩ := id hword
        simp only [List.nil_append, List.append_assoc, List.cons_append] at hmarker hfound ⊢
        simp only [braced?, bracedHere?, hmarker, hfound, Option.map_some, Option.isSome_some]
    | cons c before ih =>
        simp only [List.cons_append, braced?]
        split
        · rfl
        · rwa [Option.isSome_map]

theorem newline_notMem_of_marks {word : List Char} {level : Level} (h : Marks word level) :
    '\n' ∉ word := by
  obtain ⟨name, p, hp, -, hname, rfl⟩ := h
  have hletters := isAsciiLetter_of_name hp hname
  intro hmem
  simp only [List.mem_cons, List.mem_append, List.not_mem_nil, or_false] at hmem
  rcases hmem with hopen | hmem | hclose
  · exact absurd hopen (by decide)
  · exact absurd (hletters _ hmem) (by decide)
  · exact absurd hclose (by decide)

/-- No braced message starts in a line without an opening brace. -/
theorem bracedHere?_line {line : List Char} (hline : '\n' ∉ line) (hbrace : '{' ∉ line)
    (s : List Char) : bracedHere? (line ++ '\n' :: s) = none := by
  rw [bracedHere?]
  split
  · rfl
  · rename_i level rest hmarker
    rw [Option.map_eq_none_iff]
    cases hbraces : braces? rest with
    | none => rfl
    | some p =>
        obtain ⟨word, hword, hs⟩ := (marker?_eq_some_iff _ _ _).mp hmarker
        obtain ⟨gap, after, hgap, rfl⟩ := exists_brace_of_braces? hbraces
        -- the marker, the blanks and the brace would all stand before the end of the line
        have hopening : ∀ c ∈ word ++ gap ++ ['{'], decide (c ≠ '\n') = true := by
          intro c hc
          refine decide_eq_true fun hnewline => ?_
          subst hnewline
          simp only [List.mem_append, List.mem_singleton] at hc
          rcases hc with (hc | hc) | hc
          · exact newline_notMem_of_marks hword hc
          · exact absurd (hgap _ hc) (by decide)
          · exact absurd hc (by decide)
        have hfirst := (span_line hline s).1
        rw [hs, show word ++ (gap ++ '{' :: after) = word ++ gap ++ ['{'] ++ after by simp,
          List.takeWhile_append_of_pos hopening] at hfirst
        exact absurd (by rw [← hfirst]; simp) hbrace

theorem braced?_line {line : List Char} (hline : '\n' ∉ line) (hbrace : '{' ∉ line)
    (s : List Char) :
    braced? (line ++ '\n' :: s) = (braced? s).map (Found.after (line ++ ['\n'])) := by
  induction line with
  | nil =>
      have hhere : bracedHere? ('\n' :: s) = none := bracedHere?_line hline hbrace s
      rw [List.nil_append, braced?, hhere]
      rfl
  | cons c line ih =>
      have hhere := bracedHere?_line hline hbrace s
      rw [List.mem_cons, not_or] at hline hbrace
      rw [List.cons_append] at hhere ⊢
      rw [braced?, hhere, ih hline.2 hbrace.2, Option.map_map]
      rfl

/-- Ended lines without an opening brace put off the first braced message. -/
theorem braced?_append {a : List Char} (hends : (splitLines a).2 = []) (hbrace : '{' ∉ a)
    (b : List Char) : braced? (a ++ b) = (braced? b).map (Found.after a) := by
  induction a using lineInduction with
  | rest a h =>
      rw [splitLines_of_notMem h] at hends
      subst hends
      cases hb : braced? b <;> simp [hb, Found.after]
  | line line a h ih =>
      rw [splitLines_line h] at hends
      rw [List.mem_append, List.mem_cons, not_or, not_or] at hbrace
      rw [List.append_assoc, List.cons_append, braced?_line h hbrace.1,
        ih hends hbrace.2.2, Option.map_map]
      congr 1
      funext f
      simp [Found.after]

/-! ## Messages of texts written together -/

theorem plainMessages_append (printLevel : Level) {a : List Char}
    (hends : (splitLines a).2 = []) (b : List Char) :
    plainMessages printLevel (a ++ b) = plainMessages printLevel a ++ plainMessages printLevel b := by
  simp only [plainMessages, splitLines_append hends, hends, List.map_append, if_true,
    List.append_nil, List.append_assoc]

/-- Before a braced message all lines are printed, tagged or not. -/
theorem messages_append_of_some (printLevel : Level) {a b : List Char} {f : Found}
    (hends : (splitLines a).2 = []) (hbrace : '{' ∉ a) (hbraced : braced? b = some f) :
    messages printLevel (a ++ b) = plainMessages printLevel a ++ messages printLevel b := by
  have hb : next? b = some f := by rw [next?, hbraced]
  have hab : next? (a ++ b) = some (f.after a) := by
    rw [next?, braced?_append hends hbrace, hbraced]
    rfl
  rw [messages, messages, markedMessages_of_some hb, markedMessages_of_some hab]
  simp only [Found.after, plainMessages_append printLevel hends, List.append_assoc]

/-- Without a braced message each line is read on its own. -/
theorem messages_append_of_none (printLevel : Level) {a b : List Char}
    (hends : (splitLines a).2 = []) (hbrace : '{' ∉ a) (hbraced : braced? b = none) :
    messages printLevel (a ++ b) = messages printLevel a ++ messages printLevel b := by
  induction a using lineInduction with
  | rest a h =>
      rw [splitLines_of_notMem h] at hends
      subst hends
      rw [messages, messages, messages,
        markedMessages_of_none (s := []) (by rw [next?_eq_tagged? rfl, tagged?_nil])]
      rfl
  | line line a h ih =>
      have hnone : braced? (line ++ '\n' :: a) = none :=
        braced?_eq_none (not_holdsBracedMarker_of_notMem hbrace)
      have hboth : braced? (line ++ '\n' :: (a ++ b)) = none := by
        have := braced?_append hends hbrace b
        rwa [hbraced, List.append_assoc, List.cons_append] at this
      rw [splitLines_line h] at hends
      rw [List.mem_append, List.mem_cons, not_or, not_or] at hbrace
      rw [List.append_assoc, List.cons_append, messages_line printLevel h hboth,
        messages_line printLevel h hnone, ih hends hbrace.2.2, List.cons_append]

/-! ## Tagged lines are told from printed ones -/

theorem sublist_trimBoth (p : Char → Bool) (s : List Char) : (trimBoth p s).Sublist s := by
  have hend : (trimEnd p (trimStart p s)).Sublist (trimStart p s) := by
    rw [trimEnd, ← List.reverse_sublist, List.reverse_reverse]
    exact List.dropWhile_sublist p
  exact hend.trans (List.dropWhile_sublist p)

theorem bracket_notMem_text : ∀ p ∈ markerWords, '[' ∉ p.2.text.toList := by decide +kernel

/-- The message of a tagged line has lost a bracket. -/
theorem count_taggedMessage_le {word : List Char} {level : Level} (hword : Marks word level)
    (before after : List Char) :
    (taggedMessage before level after).count '[' ≤ before.count '[' + after.count '[' := by
  obtain ⟨name, p, hp, hlevel, -, -⟩ := hword
  have htext : level.text.toList.count '[' = 0 :=
    List.count_eq_zero.mpr (hlevel ▸ bracket_notMem_text p hp)
  have hbefore := (sublist_trimBoth isGap before).count_le '['
  have hafter := (sublist_trimBoth isGap after).count_le '['
  simp only [taggedMessage]
  split
  · omega
  · simp only [List.count_append, List.count_cons, htext]
    simp
    omega

theorem messageOf_ne_lineMessage (printLevel : Level) {line before after : List Char}
    {level : Level} (h : FirstMarker line before level after) :
    messageOf printLevel ⟨line, true⟩ ≠ lineMessage printLevel line := by
  obtain ⟨word, hword, hline⟩ := h.found
  have hless : (taggedMessage before level after).count '[' < line.count '[' := by
    have hle := count_taggedMessage_le hword before after
    have hone : 0 < word.count '[' := by
      obtain ⟨name, p, -, -, -, rfl⟩ := hword
      exact List.count_pos_iff.mpr List.mem_cons_self
    rw [hline, List.count_append, List.count_append]
    omega
  rw [messageOf_of_firstMarker h, lineMessage]
  intro heq
  have htext := String.ofList_injective (Message.mk.inj heq).2
  rw [htext] at hless
  split at hless
  · rw [List.count_append] at hless
    omega
  · omega

theorem not_holdsMarker_of_firstMarker?_eq_none {text : List Char}
    (h : firstMarker? text = none) : ¬ HoldsMarker text := by
  rintro ⟨before, word, level, after, hword, htext⟩
  exact firstMarker?_eq_none h hword htext

/-- An ended line is printed as it stands exactly if it holds no marker. -/
theorem messageOf_eq_lineMessage_iff (printLevel : Level) (line : List Char) :
    messageOf printLevel ⟨line, true⟩ = lineMessage printLevel line ↔ ¬ HoldsMarker line := by
  cases hfirst : firstMarker? line with
  | some found =>
      obtain ⟨before, level, after⟩ := found
      have hmarker := firstMarker_of_firstMarker? hfirst
      obtain ⟨word, hword, hline⟩ := hmarker.found
      exact iff_of_false (messageOf_ne_lineMessage printLevel hmarker)
        (not_not_intro ⟨before, word, level, after, hword, hline⟩)
  | none =>
      refine iff_of_true ?_ (not_holdsMarker_of_firstMarker?_eq_none hfirst)
      simp only [messageOf, hfirst, if_true]

/-- A marker stands within a line. -/
theorem holdsMarker_line_iff {line : List Char} (s : List Char) :
    HoldsMarker (line ++ '\n' :: s) ↔ HoldsMarker line ∨ HoldsMarker s := by
  constructor
  · rintro ⟨before, word, level, after, hword, htext⟩
    have hnewline := newline_notMem_of_marks hword
    rw [List.append_assoc] at htext
    rcases List.append_eq_append_iff.mp htext with ⟨mid, rfl, hmid⟩ | ⟨mid, rfl, hmid⟩
    · cases mid with
      | nil =>
          obtain ⟨name, p, -, -, -, rfl⟩ := hword
          simp at hmid
      | cons c mid =>
          obtain ⟨-, rfl⟩ := List.cons.inj hmid
          exact Or.inr ⟨mid, word, level, after, hword, (List.append_assoc _ _ _).symm⟩
    · rcases List.append_eq_append_iff.mp hmid with ⟨rest, rfl, hrest⟩ | ⟨rest, rfl, hrest⟩
      · exact Or.inl ⟨before, word, level, rest, hword, by rw [List.append_assoc]⟩
      · cases rest with
        | nil => exact Or.inl ⟨before, mid, level, [], by simpa using hword, by simp⟩
        | cons c rest =>
            obtain ⟨rfl, -⟩ := List.cons.inj hrest
            simp at hnewline
  · rintro (⟨before, word, level, after, hword, rfl⟩ | ⟨before, word, level, after, hword, rfl⟩)
    · exact ⟨before, word, level, after ++ '\n' :: s, hword, by simp⟩
    · exact ⟨line ++ '\n' :: before, word, level, after, hword, by simp⟩

/-- Ended lines are all printed as they stand exactly if no marker stands among them. -/
theorem messages_eq_plainMessages_iff (printLevel : Level) {a : List Char}
    (hends : (splitLines a).2 = []) (hbrace : '{' ∉ a) :
    messages printLevel a = plainMessages printLevel a ↔ ¬ HoldsMarker a := by
  have hnone : braced? a = none := braced?_eq_none (not_holdsBracedMarker_of_notMem hbrace)
  rw [messages_eq_map printLevel hends hnone]
  clear hnone hbrace
  induction a using lineInduction with
  | rest a h =>
      rw [splitLines_of_notMem h] at hends
      subst hends
      refine iff_of_true rfl ?_
      rintro ⟨before, word, level, after, ⟨name, p, -, -, -, rfl⟩, htext⟩
      simp at htext
  | line line a h ih =>
      rw [splitLines_line h] at hends
      have hlater : (linesOf a).map (messageOf printLevel) = plainMessages printLevel a ↔
          ¬ HoldsMarker a := ih hends
      rw [holdsMarker_line_iff, not_or, ← messageOf_eq_lineMessage_iff printLevel, ← hlater,
        plainMessages_line printLevel h, linesOf, splitLines_line h, List.map_cons, List.cons_append,
        List.map_cons, List.cons.injEq]
      rfl

/-- Ended lines without an opening brace, and a text behind them: reading them together is
reading one after the other unless a braced message in the second has the tagged lines of the
first printed. -/
theorem messages_append_iff (printLevel : Level) {a : List Char} (hends : (splitLines a).2 = [])
    (hbrace : '{' ∉ a) (b : List Char) :
    messages printLevel (a ++ b) = messages printLevel a ++ messages printLevel b ↔
      ¬ HoldsBracedMessage b ∨ ¬ HoldsMarker a := by
  rw [← braced?_isSome_iff]
  cases hbraced : braced? b with
  | none =>
      exact iff_of_true (messages_append_of_none printLevel hends hbrace hbraced)
        (Or.inl Bool.false_ne_true)
  | some f =>
      rw [messages_append_of_some printLevel hends hbrace hbraced, List.append_left_inj, eq_comm,
        messages_eq_plainMessages_iff printLevel hends hbrace]
      simp

end Catcher

namespace Logger

/-! ## Writes of complete lines -/

theorem splitComplete_of_complete {bytes : Bytes} (h : Complete bytes) :
    splitComplete bytes = (bytes, []) := by
  obtain ⟨hsplit, hnewline, -⟩ := splitComplete_spec bytes
  have hrest : (splitComplete bytes).2 = [] := by
    rcases h with rfl | ⟨before, rfl⟩
    · rfl
    · rcases List.eq_nil_or_concat (splitComplete (before ++ [10])).2 with hnil | ⟨init, c, hlast⟩
      · exact hnil
      · rw [List.concat_eq_append] at hlast
        rw [hlast, ← List.append_assoc] at hsplit
        have hc : c = 10 := List.singleton_inj.mp (List.append_inj' hsplit rfl).2
        rw [hlast, hc] at hnewline
        simp at hnewline
  rw [hrest, List.append_nil] at hsplit
  exact Prod.ext hsplit hrest

/-- Complete lines are read as they are written if no part of a line is pending. -/
theorem received_of_complete {l : Logger} {bytes : Bytes} (hcatches : l.catches = true)
    (hpending : l.pending = []) (hcomplete : Complete bytes) :
    l.received bytes = (messages l.printLevel (decode bytes), l) := by
  rw [received, if_pos hcatches, hpending, List.nil_append, splitComplete_of_complete hcomplete]
  dsimp only
  rw [← hpending]

/-- Where nothing fails, writes of complete lines dispatch the messages of each write. -/
theorem streamed_of_complete {l : Logger} (s : Store) {chunks : List Bytes}
    (hcatches : l.catches = true) (hpending : l.pending = [])
    (hcomplete : ∀ bytes ∈ chunks, Complete bytes) (hok : (l.stream s chunks).1 = .ok ()) :
    l.streamed s chunks = chunks.flatMap fun bytes => messages l.printLevel (decode bytes) := by
  induction chunks generalizing l s with
  | nil =>
      have hreleased : l.released = ([], l) := by rw [released, hpending]; rfl
      rw [streamed, hreleased]
      rfl
  | cons bytes chunks ih =>
      have hreceived := received_of_complete hcatches hpending
        (hcomplete bytes List.mem_cons_self)
      rw [stream, write, hreceived] at hok
      rw [streamed, write, hreceived, List.flatMap_cons]
      dsimp only at hok ⊢
      obtain ⟨errors, herrors⟩ :=
        sendAll_logger (messages l.printLevel (decode bytes)) l s
      rcases hsend : sendAll (messages l.printLevel (decode bytes)) l s with ⟨error | _, l', s'⟩
      · rw [hsend] at hok
        simp [Except.map] at hok
      · rw [hsend] at hok herrors
        change l' = _ at herrors
        -- sending changes the failures of a logger only, so the next write finds it as before
        have hlater := ih (l := l') s' (by rw [herrors]; exact hcatches)
          (by rw [herrors]; exact hpending)
          (fun c hc => hcomplete c (List.mem_cons_of_mem _ hc)) hok
        have hlevel : l'.printLevel = l.printLevel := by rw [herrors]
        rw [hlevel] at hlater
        rw [dispatched_of_ok (by rw [hsend])]
        exact congrArg _ hlater

/-- Two texts of complete lines, the first without an opening brace, are dispatched alike in
one write and in two, unless the second holds a braced message and the first a marker: then a
single write prints the tagged lines of the first. -/
theorem streamed_grouping_iff {l : Logger} (s : Store) {a b : Bytes}
    (hcatches : l.catches = true) (hpending : l.pending = []) (ha : Complete a)
    (hb : Complete b) (hbrace : '{' ∉ decode a) (htogether : (l.stream s [a ++ b]).1 = .ok ())
    (hapart : (l.stream s [a, b]).1 = .ok ()) :
    l.streamed s [a ++ b] = l.streamed s [a, b] ↔
      ¬ HoldsBracedMessage (decode b) ∨ ¬ HoldsMarker (decode a) := by
  have hab : Complete (a ++ b) := by
    rcases hb with rfl | ⟨before, rfl⟩
    · rwa [List.append_nil]
    · exact Or.inr ⟨a ++ before, (List.append_assoc _ _ _).symm⟩
  have hone := streamed_of_complete s hcatches hpending (List.forall_mem_singleton.mpr hab)
    htogether
  have htwo := streamed_of_complete s hcatches hpending
    (List.forall_mem_cons.mpr ⟨ha, List.forall_mem_singleton.mpr hb⟩) hapart
  rw [hone, htwo, List.flatMap_cons, List.flatMap_cons, List.flatMap_nil, List.append_nil,
    List.flatMap_cons, List.flatMap_nil, List.append_nil, decode_append ha]
  exact messages_append_iff l.printLevel (splitLines_decode_of_complete ha) hbrace (decode b)

theorem ok_of_isOk {result : Except LogError Unit} (h : result.isOk = true) :
    result = .ok () := by
  cases result with
  | ok => rfl
  | error error => exact absurd h Bool.false_ne_true

/-- A line without a marker. -/
def plainLine : Bytes := bytesOf "plain\n"

/-- A tagged line. -/
def taggedLine : Bytes := bytesOf "a [warn] b\n"

/-- A braced message at the head of a line. -/
def bracedLine : Bytes := bytesOf "[error] \x7boops\x7d\n"

theorem streamed_grouping_iff_plain :
    recording.catches = true ∧ recording.pending = [] ∧ Complete plainLine ∧
      Complete bracedLine ∧ '{' ∉ decode plainLine ∧
      (recording.stream recordingStore [plainLine ++ bracedLine]).1 = .ok () ∧
      (recording.stream recordingStore [plainLine, bracedLine]).1 = .ok () ∧
      (recording.streamed recordingStore [plainLine ++ bracedLine] =
          recording.streamed recordingStore [plainLine, bracedLine] ↔
        ¬ HoldsBracedMessage (decode bracedLine) ∨ ¬ HoldsMarker (decode plainLine)) := by
  have hplain : Complete plainLine := Or.inr ⟨bytesOf "plain", by decide +kernel⟩
  have hbraced : Complete bracedLine :=
    Or.inr ⟨bytesOf "[error] \x7boops\x7d", by decide +kernel⟩
  have hbrace : '{' ∉ decode plainLine := by decide +kernel
  have htogether : (recording.stream recordingStore [plainLine ++ bracedLine]).1 = .ok () :=
    ok_of_isOk (by decide +kernel)
  have hapart : (recording.stream recordingStore [plainLine, bracedLine]).1 = .ok () :=
    ok_of_isOk (by decide +kernel)
  exact ⟨rfl, rfl, hplain, hbraced, hbrace, htogether, hapart,
    streamed_grouping_iff recordingStore rfl rfl hplain hbraced hbrace htogether hapart⟩

/-- A tagged line is printed as it stands if a braced message follows in the same write. -/
theorem streamed_tagged_line_printed :
    recording.catches = true ∧ recording.pending = [] ∧ '{' ∉ decode taggedLine ∧
      (recording.stream recordingStore [taggedLine ++ bracedLine]).1 = .ok () ∧
      (recording.stream recordingStore [taggedLine, bracedLine]).1 = .ok () ∧
      recording.streamed recordingStore [taggedLine, bracedLine] =
        [⟨.warning, "a warning b"⟩, ⟨.error, "oops"⟩, ⟨.print, "\n"⟩] ∧
      recording.streamed recordingStore [taggedLine ++ bracedLine] =
        [⟨.print, "a [warn] b\n"⟩, ⟨.error, "oops"⟩, ⟨.print, "\n"⟩] ∧
      recording.streamed recordingStore [taggedLine ++ bracedLine] ≠
        recording.streamed recordingStore [taggedLine, bracedLine] := by
  refine ⟨rfl, rfl, by decide +kernel, ok_of_isOk ?_, ok_of_isOk ?_, ?_, ?_, ?_⟩ <;>
    decide +kernel

end Logger

end Hooklog
