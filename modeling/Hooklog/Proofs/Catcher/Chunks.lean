import Hooklog.Logger.Write
import Hooklog.Proofs.Catcher.LineMessages
import Hooklog.Proofs.Text.Decoding
import Mathlib.Data.List.Forall2

/-!
# Streams in chunks

A text may be written to a logger in any pieces: inside a line, a marker or the bytes of one
character.  What is kept between two writes never holds the end of a line, so each write
sends the lines that it completes, and the close sends the last one.  The main statement says
that the messages are those of the lines of the whole text.
-/

namespace Hooklog

open Text Catcher

/-! ## Bytes of complete lines -/

theorem take_length_sub {α : Type} {whole front back : List α} (h : whole = front ++ back) :
    whole.take (whole.length - back.length) = front := by
  subst h
  simp

/-- Bytes are cut behind the last end of a line. -/
theorem Catcher.splitComplete_spec (bytes : Bytes) :
    (splitComplete bytes).1 ++ (splitComplete bytes).2 = bytes ∧
      10 ∉ (splitComplete bytes).2 ∧ Complete (splitComplete bytes).1 := by
  have hbytes : bytes = (bytes.reverse.dropWhile fun b => decide (b ≠ 10)).reverse
      ++ (bytes.reverse.takeWhile fun b => decide (b ≠ 10)).reverse := by
    rw [← List.reverse_append, List.takeWhile_append_dropWhile, List.reverse_reverse]
  have hfirst : (splitComplete bytes).1
      = (bytes.reverse.dropWhile fun b => decide (b ≠ 10)).reverse := take_length_sub hbytes
  refine ⟨?_, ?_, ?_⟩
  · rw [hfirst]
    exact hbytes.symm
  · intro hmem
    rw [splitComplete, List.mem_reverse] at hmem
    have := List.all_eq_true.mp List.all_takeWhile 10 hmem
    simp at this
  · rw [hfirst]
    cases hdrop : bytes.reverse.dropWhile fun b => decide (b ≠ 10) with
    | nil => exact Or.inl rfl
    | cons b rest =>
        -- the last byte kept in front is the one where the search from behind stopped
        have hb : b = 10 := by
          have := List.head?_dropWhile_not (fun b : UInt8 => decide (b ≠ 10)) bytes.reverse
          rw [hdrop] at this
          simpa using this
        right
        exact ⟨rest.reverse, by rw [List.reverse_cons, hb]⟩

/-! ## Lines of bytes -/

/-- Bytes that stop at the end of a line make up ended lines only. -/
theorem splitLines_decode_of_complete {bytes : Bytes} (h : Complete bytes) :
    (splitLines (decode bytes)).2 = [] := by
  rcases h with rfl | ⟨before, rfl⟩
  · rfl
  · rw [decode, decodeFrom_append_newline Decoding.sound_idle]
    induction decodeFrom .idle before using lineInduction with
    | rest s hs => rw [splitLines_line hs]; rfl
    | line line s hline ih => rwa [List.append_assoc, List.cons_append, splitLines_line hline]

/-- The lines of two texts are found apart if the first stops at the end of a line. -/
theorem linesOf_append {s : List Char} (hs : (splitLines s).2 = []) (t : List Char) :
    linesOf (s ++ t) = linesOf s ++ linesOf t := by
  simp only [linesOf, splitLines_append hs, hs, List.map_append, if_true, List.append_nil,
    List.append_assoc]

namespace Logger

/-! ## Runs -/

/-- The same logger with another part of a line. -/
def keeping (l : Logger) (pending : Bytes) : Logger := { l with pending := pending }

/-- Messages that are dispatched when some are to be sent: those up to the first whose
dispatch fails. -/
def dispatched : List Message → Logger → Store → List Message
  | [], _, _ => []
  | m :: rest, l, s =>
      match l.dispatch s m.level m.text .empty none with
      | (.ok _, l, s) => m :: dispatched rest l s
      | (.error _, _, _) => [m]

/-- Chunks written one after the other, and a close, until one of the calls fails. -/
def stream (l : Logger) (s : Store) : List Bytes → Except LogError Unit × Logger × Store
  | [] => l.close s
  | bytes :: rest =>
      match l.write s bytes with
      | (.ok _, l, s) => stream l s rest
      | (.error error, l, s) => (.error error, l, s)

/-- Messages dispatched by such a run. -/
def streamed (l : Logger) (s : Store) : List Bytes → List Message
  | [] => dispatched l.released.1 l.released.2 s
  | bytes :: rest =>
      dispatched (l.received bytes).1 (l.received bytes).2 s
        ++ match l.write s bytes with
          | (.ok _, l, s) => streamed l s rest
          | (.error _, _, _) => []

/-! ## Sending messages -/

theorem dispatch_keeping (l : Logger) (pending : Bytes) (s : Store) (level : Level)
    (text : String) (fields : Fields) (caller : Option Caller) :
    (l.keeping pending).dispatch s level text fields caller =
      ((l.dispatch s level text fields caller).1,
        (l.dispatch s level text fields caller).2.1.keeping pending,
        (l.dispatch s level text fields caller).2.2) := rfl

/-- A dispatch changes nothing of a logger but its failures. -/
theorem dispatch_logger (l : Logger) (s : Store) (level : Level) (text : String)
    (fields : Fields) (caller : Option Caller) :
    ∃ errors, (l.dispatch s level text fields caller).2.1 = { l with errors := errors } :=
  ⟨_, rfl⟩

theorem sendAll_logger (messages : List Message) (l : Logger) (s : Store) :
    ∃ errors, (sendAll messages l s).2.1 = { l with errors := errors } := by
  induction messages generalizing l s with
  | nil => exact ⟨l.errors, rfl⟩
  | cons m rest ih =>
      obtain ⟨errors, herrors⟩ := dispatch_logger l s m.level m.text .empty none
      rw [sendAll]
      rcases hdispatch : l.dispatch s m.level m.text .empty none with ⟨_ | _, l', s'⟩
      · rw [hdispatch] at herrors
        exact ⟨errors, herrors⟩
      · rw [hdispatch] at herrors
        change l' = _ at herrors
        obtain ⟨later, hlater⟩ := ih l' s'
        exact ⟨later, by rw [hlater, herrors]⟩

/-- The part of a line that is kept has no influence on what is sent. -/
theorem sendAll_keeping (messages : List Message) (l : Logger) (pending : Bytes) (s : Store) :
    sendAll messages (l.keeping pending) s =
      ((sendAll messages l s).1, (sendAll messages l s).2.1.keeping pending,
        (sendAll messages l s).2.2) := by
  induction messages generalizing l s with
  | nil => rfl
  | cons m rest ih =>
      rw [sendAll, sendAll, dispatch_keeping]
      rcases l.dispatch s m.level m.text .empty none with ⟨_ | _, l', s'⟩
      · rfl
      · exact ih l' s'

theorem dispatched_keeping (messages : List Message) (l : Logger) (pending : Bytes)
    (s : Store) : dispatched messages (l.keeping pending) s = dispatched messages l s := by
  induction messages generalizing l s with
  | nil => rfl
  | cons m rest ih =>
      rw [dispatched, dispatched, dispatch_keeping]
      rcases l.dispatch s m.level m.text .empty none with ⟨_ | _, l', s'⟩
      · rfl
      · exact congrArg (m :: ·) (ih l' s')

/-- Messages are sent part by part; a failure of the first part ends the run. -/
theorem sendAll_append (first later : List Message) (l : Logger) (s : Store) :
    sendAll (first ++ later) l s =
      match sendAll first l s with
      | (.ok _, l, s) => sendAll later l s
      | (.error error, l, s) => (.error error, l, s) := by
  induction first generalizing l s with
  | nil => rfl
  | cons m rest ih =>
      rw [List.cons_append, sendAll, sendAll]
      rcases l.dispatch s m.level m.text .empty none with ⟨_ | _, l', s'⟩
      · rfl
      · exact ih l' s'

theorem dispatched_append (first later : List Message) (l : Logger) (s : Store) :
    dispatched (first ++ later) l s =
      dispatched first l s
        ++ match sendAll first l s with
          | (.ok _, l, s) => dispatched later l s
          | (.error _, _, _) => [] := by
  induction first generalizing l s with
  | nil => rfl
  | cons m rest ih =>
      rw [List.cons_append, sendAll, dispatched, dispatched]
      rcases l.dispatch s m.level m.text .empty none with ⟨_ | _, l', s'⟩
      · rfl
      · exact congrArg (m :: ·) (ih l' s')

/-- Where nothing fails, all messages are dispatched. -/
theorem dispatched_of_ok {messages : List Message} {l : Logger} {s : Store}
    (h : (sendAll messages l s).1 = .ok ()) : dispatched messages l s = messages := by
  induction messages generalizing l s with
  | nil => rfl
  | cons m rest ih =>
      rw [sendAll] at h
      rw [dispatched]
      rcases hdispatch : l.dispatch s m.level m.text .empty none with ⟨_ | _, l', s'⟩
      · rw [hdispatch] at h
        exact absurd h (by simp)
      · rw [hdispatch] at h
        exact congrArg (m :: ·) (ih h)

/-! ## Lines of a run -/

section Catching

variable {l : Logger} (hcatches : l.catches = true) {pending : Bytes} (hpending : 10 ∉ pending)

include hcatches

theorem received_keeping (bytes : Bytes)
    (hbraced : ¬ HoldsBracedMarker (decode (splitComplete (pending ++ bytes)).1)) :
    (l.keeping pending).received bytes =
      ((linesOf (decode (splitComplete (pending ++ bytes)).1)).map (messageOf l.printLevel),
        l.keeping (splitComplete (pending ++ bytes)).2) := by
  have hends := splitLines_decode_of_complete (splitComplete_spec (pending ++ bytes)).2.2
  rw [received, if_pos (show (l.keeping pending).catches = true from hcatches),
    ← messages_eq_map l.printLevel hends (braced?_eq_none hbraced)]
  rfl

include hpending in
theorem released_keeping (hbraced : ¬ HoldsBracedMarker (decode pending)) :
    (l.keeping pending).released =
      ((linesOf (decode pending)).map (messageOf l.printLevel), l.keeping []) := by
  cases pending with
  | nil => rfl
  | cons b rest =>
      have hnewline := newline_notMem_decode hpending
      have hreads : ((l.keeping (b :: rest)).pending.isEmpty
          || !(l.keeping (b :: rest)).catches) = false := by
        show (false || !l.catches) = false
        rw [hcatches]
        rfl
      rw [released, hreads, ← closingMessages_eq_map l.printLevel hnewline hbraced]
      rfl

/-- A run from a logger that keeps a part of a line sends the lines of that part and the
chunks together. -/
theorem stream_keeping (s : Store) (chunks : List Bytes) (hpending : 10 ∉ pending)
    (hbraced : ¬ HoldsBracedMarker (decode (pending ++ chunks.flatten))) :
    let ms := (linesOf (decode (pending ++ chunks.flatten))).map (messageOf l.printLevel)
    (l.keeping pending).streamed s chunks = dispatched ms l s ∧
      ∃ rest, (l.keeping pending).stream s chunks =
          ((sendAll ms l s).1, (sendAll ms l s).2.1.keeping rest, (sendAll ms l s).2.2) ∧
        ((sendAll ms l s).1 = .ok () → rest = []) := by
  -- along the chunks; what carries over is that the kept part holds no end of a line
  induction chunks generalizing l pending s with
  | nil =>
      rw [List.flatten_nil, List.append_nil] at hbraced ⊢
      dsimp only
      rw [stream, streamed, close, released_keeping hcatches hpending hbraced]
      exact ⟨dispatched_keeping _ l [] s, [], sendAll_keeping _ l [] s, fun _ => rfl⟩
  | cons bytes chunks ih =>
      obtain ⟨hsplit, hrest, hcomplete⟩ := splitComplete_spec (pending ++ bytes)
      have hdecode : decode (pending ++ (bytes :: chunks).flatten) =
          decode (splitComplete (pending ++ bytes)).1
            ++ decode ((splitComplete (pending ++ bytes)).2 ++ chunks.flatten) := by
        rw [← decode_append hcomplete, ← List.append_assoc, hsplit, List.flatten_cons,
          List.append_assoc]
      rw [hdecode] at hbraced ⊢
      have hfirst := fun h => hbraced (HoldsBracedMarker.append_right h _)
      have hlater := fun h => hbraced (HoldsBracedMarker.append_left h _)
      rw [linesOf_append (splitLines_decode_of_complete hcomplete), List.map_append]
      dsimp only
      rw [streamed, stream, write, received_keeping hcatches bytes hfirst, dispatched_append,
        sendAll_append]
      dsimp only
      rw [sendAll_keeping, dispatched_keeping]
      obtain ⟨errors, herrors⟩ := sendAll_logger
        ((linesOf (decode (splitComplete (pending ++ bytes)).1)).map (messageOf l.printLevel)) l s
      rcases hsend : sendAll ((linesOf (decode (splitComplete (pending ++ bytes)).1)).map
        (messageOf l.printLevel)) l s with ⟨_ | _, l', s'⟩
      · -- a failed dispatch ends both runs
        exact ⟨rfl, _, rfl, fun h => absurd h (by simp)⟩
      · rw [hsend] at herrors
        change l' = _ at herrors
        -- sending changes the failures of a logger only, so the rest runs as before
        have hcatches' : l'.catches = true := by rw [herrors]; exact hcatches
        have hlevel : l'.printLevel = l.printLevel := by rw [herrors]
        obtain ⟨htrace, rest, hrun, hempty⟩ := ih hcatches' s' hrest hlater
        rw [hlevel] at htrace hrun hempty
        exact ⟨congrArg _ htrace, rest, hrun, hempty⟩

end Catching

/-- Store with an application that writes every entry to a buffer. -/
def recordingStore : Store :=
  { Store.new (.ofConfig .empty ⟨0, 0⟩ false) ⟨0, 0⟩ "work" with
    destinations := [.application
      { identity := "recorder"
        levels := none
        acceptsPrint := true
        respond := fun _ e => .writes "record" (e.level.text ++ ": " ++ e.message ++ "\n")
        received := 0 }] }

/-- Logger of that application. -/
def recording : Logger := withHooks recordingStore.settings "" [⟨"recorder", .trace, 0⟩]

/-- A marked line and a rest without an end, cut inside the marker and inside a character. -/
def cutLines : List Bytes := [[91, 119, 97], [114, 110, 93, 32, 104, 195], [169, 10, 111, 107]]

end Logger

end Hooklog
