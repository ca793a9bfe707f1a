import Hooklog.Proofs.Catcher.Captures
import Hooklog.Proofs.Catcher.Chunks
import Hooklog.Proofs.Catcher.Unmarked
import Hooklog.Proofs.Formatter.Slicing
import Hooklog.Proofs.Logger.Accounting

/-!
# The catching loop

Text is taken apart round by round: a marked message is captured, the text before it is printed,
its level is read, the message is dispatched, and the text is cut behind it.  Text that ends here
is searched with the end of a line put behind it, and cut without.  Three steps of a round could
fail to give a result, and none of them does.

* `Catcher.exists_cut_of_searched` cuts a text where a part of the searched text ends.
* `Catcher.exists_cut` is the round: it removes text, at the end of a character, and its level is
  read.
* `Logger.rounds?` is the loop with these steps made explicit, and a bound on its rounds.
* `Logger.rounds?_eq` runs the loop, by induction on the bound: each round makes the text shorter.
* `Logger.catch_total` puts both ways of catching together: they end, give what `write` and `close`
  give, and fail only where a dispatch does.
-/

namespace Hooklog

open Text Template

namespace Catcher

/-- What could keep the loop from an answer. -/
inductive Mishap where
  /-- Rounds are left when their bound is reached. -/
  | endless
  /-- The text cannot be cut at the offset where a capture ends. -/
  | uncut
  /-- No level is read from the name that was captured. -/
  | unread (error : LogError)

/-- Text in which a marked message is looked for. -/
def searched (closing : Bool) (buffer : List Char) : List Char :=
  if closing then buffer ++ ['\n'] else buffer

/-- Messages of text that ends here, or of text whose lines have all ended. -/
def textMessages (closing : Bool) (printLevel : Level) (buffer : List Char) : List Message :=
  if closing then closingMessages printLevel buffer else messages printLevel buffer

/-! ## Messages of a text -/

section Messages

variable (closing : Bool) (printLevel : Level)

theorem textMessages_eq (buffer : List Char) :
    textMessages closing printLevel buffer =
      (markedMessages printLevel (searched closing buffer)).1 ++ plainMessages printLevel
        (if closing then (markedMessages printLevel (searched closing buffer)).2.dropLast
          else (markedMessages printLevel (searched closing buffer)).2) := by
  cases closing <;> rfl

theorem textMessages_nil : textMessages closing printLevel [] = [] := by
  cases closing with
  | false => exact messages_of_unmarked printLevel not_holdsMarker_nil
  | true => exact closingMessages_of_unmarked printLevel not_holdsMarker_nil

/-- Text without a marked message is plain. -/
theorem textMessages_of_none {buffer : List Char} (h : next? (searched closing buffer) = none) :
    textMessages closing printLevel buffer = plainMessages printLevel buffer := by
  rw [textMessages_eq, markedMessages_of_none h]
  cases closing with
  | false => rfl
  | true =>
      show plainMessages printLevel (buffer ++ ['\n']).dropLast = plainMessages printLevel buffer
      rw [List.dropLast_concat]

/-- The first marked message of a text stands between the lines before it and the messages of the
text that is left. -/
theorem textMessages_of_some {buffer rest : List Char} {f : Found}
    (h : next? (searched closing buffer) = some f)
    (hrest : f.rest = searched closing rest ∨ f.rest = [] ∧ rest = []) :
    textMessages closing printLevel buffer =
      plainMessages printLevel f.before ++
        ⟨f.level, String.ofList f.message⟩ :: textMessages closing printLevel rest := by
  rw [textMessages_eq, markedMessages_of_some h]
  rcases hrest with hrest | ⟨hnil, rfl⟩
  · rw [textMessages_eq, hrest]
    simp only [List.append_assoc, List.cons_append]
  · rw [textMessages_nil, hnil, markedMessages_of_unmarked printLevel not_holdsMarker_nil]
    cases closing <;> simp [plainMessages_nil]

end Messages

/-! ## One round -/

/-- A part that is searched is cut off at its end; where it takes the end of the line that was put
behind the text, all of the text is. -/
theorem exists_cut_of_searched {closing : Bool} {buffer first last : List Char}
    (h : searched closing buffer = first ++ last) (hbracket : '[' ∈ first) :
    ∃ removed rest, removed ≠ [] ∧ buffer = removed ++ rest ∧
      Line.cut? (min (byteLength first) (byteLength buffer)) buffer = some (removed, rest) ∧
      (last = searched closing rest ∨ last = [] ∧ rest = []) := by
  have hfirst : first ≠ [] := List.ne_nil_of_mem hbracket
  have hwithin : ∀ rest, buffer = first ++ rest →
      Line.cut? (min (byteLength first) (byteLength buffer)) buffer = some (first, rest) := by
    rintro rest rfl
    have hle : byteLength first ≤ byteLength (first ++ rest) := by
      rw [byteLength_append]
      omega
    rw [Nat.min_eq_left hle]
    exact Line.cut?_append first rest
  cases closing with
  | false => exact ⟨first, last, hfirst, h, hwithin last h, Or.inl rfl⟩
  | true =>
      change buffer ++ ['\n'] = first ++ last at h
      rcases List.eq_nil_or_concat last with rfl | ⟨rest, c, rfl⟩
      · -- the offset lies behind the text, which is cut at its own end
        rw [List.append_nil] at h
        have hle : byteLength buffer ≤ byteLength first := by
          rw [← h, byteLength_append]
          omega
        have hbuffer : buffer ≠ [] := by
          rintro rfl
          rw [← h] at hbracket
          simp at hbracket
        have hcut := Line.cut?_append buffer []
        rw [List.append_nil] at hcut
        refine ⟨buffer, [], hbuffer, (List.append_nil _).symm, ?_, Or.inr ⟨rfl, rfl⟩⟩
        rw [Nat.min_eq_right hle]
        exact hcut
      · -- the end of the line stands behind the rest, as it stood behind the text
        rw [List.concat_eq_append, ← List.append_assoc] at h
        obtain ⟨hbuffer, hc⟩ := List.append_inj' h rfl
        refine ⟨first, rest, hfirst, hbuffer, hwithin rest hbuffer, Or.inl ?_⟩
        rw [List.concat_eq_append, ← hc]
        rfl

theorem next?_of_capture?_eq_none {s : List Char} (h : capture? s = none) : next? s = none := by
  have hrel := rel_capture? s
  rw [h] at hrel
  generalize next? s = found at hrel ⊢
  cases hrel
  rfl

theorem exists_found {s : List Char} {m : Capture} (h : capture? s = some m) :
    ∃ f, next? s = some f ∧ m.Reads s f := by
  have hrel := rel_capture? s
  rw [h] at hrel
  generalize next? s = found at hrel ⊢
  cases hrel with
  | some hreads => exact ⟨_, rfl, hreads⟩

/-- A round removes text up to the end of a character and reads a level, and its message stands
between the lines before it and the messages of the text that is left. -/
theorem exists_cut {closing : Bool} {buffer : List Char} {m : Capture}
    (h : capture? (searched closing buffer) = some m) :
    ∃ removed rest level, removed ≠ [] ∧ buffer = removed ++ rest ∧
      Line.cut? (min m.stop (byteLength buffer)) buffer = some (removed, rest) ∧
      Level.read (String.ofList m.name) = .ok level ∧
      ∀ printLevel, textMessages closing printLevel buffer =
        plainMessages printLevel m.before ++
          ⟨level, String.ofList (m.message level)⟩ :: textMessages closing printLevel rest := by
  obtain ⟨f, hnext, hreads⟩ := exists_found h
  have htext : searched closing buffer = (m.before ++ m.removed) ++ f.rest := by
    rw [List.append_assoc]
    exact hreads.text
  obtain ⟨removed, rest, hremoved, hbuffer, hcut, hrest⟩ :=
    exists_cut_of_searched htext (List.mem_append_right m.before hreads.bracket)
  refine ⟨removed, rest, f.level, hremoved, hbuffer, hcut, hreads.level, fun printLevel => ?_⟩
  rw [textMessages_of_some closing printLevel hnext hrest, hreads.before, hreads.message]

end Catcher

namespace Logger

open Catcher

/-! ## The loop -/

/-- The loop over a text, of at most so many rounds. -/
def rounds? (closing : Bool) :
    Nat → List Char → Logger → Store → Except Mishap (Except LogError Unit × Logger × Store)
  | 0, _, _, _ => .error .endless
  | rounds + 1, buffer, l, s =>
      match capture? (searched closing buffer) with
      | none => .ok (sendAll (plainMessages l.printLevel buffer) l s)
      | some m =>
          match sendAll (plainMessages l.printLevel m.before) l s with
          | (.error error, l, s) => .ok (.error error, l, s)
          | (.ok _, l, s) =>
              match Level.read (String.ofList m.name) with
              | .error error => .error (.unread error)
              | .ok level =>
                  match l.dispatch s level (String.ofList (m.message level)) .empty none with
                  | (.error error, l, s) => .ok (.error error, l, s)
                  | (.ok _, l, s) =>
                      match Line.cut? (min m.stop (byteLength buffer)) buffer with
                      | none => .error .uncut
                      | some (_, rest) => rounds? closing rounds rest l s

/-- The loop ends within as many rounds as the text has characters, and one more, and sends the
messages of the text. -/
theorem rounds?_eq (closing : Bool) {rounds : Nat} {buffer : List Char}
    (h : buffer.length < rounds) (l : Logger) (s : Store) :
    rounds? closing rounds buffer l s =
      .ok (sendAll (textMessages closing l.printLevel buffer) l s) := by
  induction rounds generalizing buffer l s with
  | zero => exact absurd h (Nat.not_lt_zero _)
  | succ rounds ih =>
      rw [rounds?]
      rcases hcapture : capture? (searched closing buffer) with _ | m
      · rw [textMessages_of_none _ _ (next?_of_capture?_eq_none hcapture)]
      · obtain ⟨removed, rest, level, hremoved, hbuffer, hcut, hread, hmessages⟩ :=
          exists_cut hcapture
        have hshorter : rest.length < rounds := by
          have hpos := List.length_pos_iff.mpr hremoved
          rw [hbuffer, List.length_append] at h
          omega
        rw [hmessages, sendAll_append]
        obtain ⟨errors, herrors⟩ := sendAll_logger (plainMessages l.printLevel m.before) l s
        dsimp only
        rcases hsend : sendAll (plainMessages l.printLevel m.before) l s with ⟨_ | _, l', s'⟩
        · rfl
        · rw [hsend] at herrors
          change l' = _ at herrors
          obtain ⟨later, hlater⟩ := dispatch_logger l' s' level
            (String.ofList (m.message level)) .empty none
          dsimp only
          rw [sendAll, hread]
          dsimp only
          rcases hdispatch : l'.dispatch s' level (String.ofList (m.message level)) .empty none
            with ⟨_ | _, l'', s''⟩
          · rfl
          · -- a dispatch leaves the print level, so the rest is taken apart in the same way
            rw [hdispatch] at hlater
            change l'' = _ at hlater
            have hlevel : l''.printLevel = l.printLevel := by rw [hlater, herrors]
            rw [hcut]
            dsimp only
            rw [ih hshorter, hlevel]

/-! ## Catching -/

/-- Bytes that are taken apart now, and bytes that are kept.  Without new bytes the kept ones are
taken. -/
def portion (l : Logger) : Option Bytes → Bytes × Bytes
  | some bytes => splitComplete (l.pending ++ bytes)
  | none => (l.pending, [])

/-- Answer of a run: the number of new bytes. -/
def answered (data : Option Bytes) (run : Except LogError Unit × Logger × Store) :
    Except LogError Nat × Logger × Store :=
  (run.1.map fun _ => (data.getD []).length, run.2)

/-- What the loop makes of new bytes, or of the end of the text, within so many rounds. -/
def caught? (rounds : Nat) (l : Logger) (s : Store) (data : Option Bytes) :
    Except Mishap (Except LogError Nat × Logger × Store) :=
  if l.catches then
    (rounds? data.isNone rounds (decode (l.portion data).1)
      { l with pending := (l.portion data).2 } s).map (answered data)
  else .ok (answered data (sendAll (plainMessages l.printLevel (decode (data.getD []))) l s))

/-- What a logger makes of new bytes, or of the end of the text. -/
def caught (l : Logger) (s : Store) : Option Bytes → Except LogError Nat × Logger × Store
  | some bytes => l.write s bytes
  | none => answered none (l.close s)

/-- Messages of new bytes, or of the end of the text, and the logger that sends them. -/
def taken (l : Logger) : Option Bytes → List Message × Logger
  | some bytes => l.received bytes
  | none => l.released

theorem caught_eq (l : Logger) (s : Store) (data : Option Bytes) :
    l.caught s data = answered data (sendAll (l.taken data).1 (l.taken data).2 s) := by
  cases data <;> rfl

/-- The loop and the logger do the same. -/
theorem caught?_eq (l : Logger) (s : Store) (data : Option Bytes) {rounds : Nat}
    (h : (decode (l.portion data).1).length < rounds) :
    caught? rounds l s data = .ok (l.caught s data) := by
  rw [caught?, caught_eq]
  by_cases hcatches : l.catches = true
  · rw [if_pos hcatches, rounds?_eq data.isNone h]
    cases data with
    | some bytes =>
        rw [taken, received, if_pos hcatches]
        rfl
    | none =>
        by_cases hpending : l.pending = []
        · -- without a kept part there is nothing to send, and nothing to forget
          have hself : { l with pending := [] } = l := by rw [← hpending]
          have hreleased : l.released = ([], l) := by simp [released, hpending]
          rw [taken, hreleased, portion, hpending, hself]
          exact congrArg (fun ms => Except.ok (answered none (sendAll ms l s)))
            (textMessages_nil true l.printLevel)
        · have hreleased : l.released =
              (closingMessages l.printLevel (decode l.pending), { l with pending := [] }) := by
            simp [released, hpending, hcatches]
          rw [taken, hreleased]
          rfl
  · rw [if_neg hcatches]
    cases data with
    | some bytes =>
        rw [taken, received, if_neg hcatches]
        rfl
    | none =>
        have hreleased : l.released = ([], l) := by simp [released, hcatches]
        rw [taken, hreleased]
        rfl

/-- A run that fails fails at the dispatch of one of its messages, behind others that were
sent. -/
theorem exists_dispatch_of_error {messages : List Message} {l : Logger} {s : Store}
    {error : LogError} (h : (sendAll messages l s).1 = .error error) :
    ∃ sent m lost l' s', messages = sent ++ m :: lost ∧ sendAll sent l s = (.ok (), l', s') ∧
      (l'.dispatch s' m.level m.text .empty none).1 = .error error := by
  induction messages generalizing l s with
  | nil => simp [sendAll] at h
  | cons m rest ih =>
      rcases hdispatch : l.dispatch s m.level m.text .empty none with ⟨_ | _, l', s'⟩
      · rw [sendAll, hdispatch] at h
        exact ⟨[], m, rest, l, s, rfl, rfl, by rw [hdispatch]; exact h⟩
      · rw [sendAll, hdispatch] at h
        obtain ⟨sent, m', lost, l'', s'', hrest, hsent, herror⟩ := ih h
        refine ⟨m :: sent, m', lost, l'', s'', by rw [hrest]; rfl, ?_, herror⟩
        rw [sendAll, hdispatch]
        exact hsent

/-- Catching is total, for every logger, every sequence of bytes and the end of the text.  The
loop ends with what `write` and `close` give.  Every round, also one whose capture takes the end
of the line put behind the text, removes a part of the text that is not empty, at the end of a
character, and the name that it captured is read as a level.  What fails is a dispatch. -/
theorem catch_total (l : Logger) (s : Store) (data : Option Bytes) :
    (∀ rounds, (decode (l.portion data).1).length < rounds →
      caught? rounds l s data = .ok (l.caught s data)) ∧
    (∀ closing buffer m, capture? (searched closing buffer) = some m →
      ∃ removed rest level, removed ≠ [] ∧ buffer = removed ++ rest ∧
        Line.cut? (min m.stop (byteLength buffer)) buffer = some (removed, rest) ∧
        Level.read (String.ofList m.name) = .ok level) ∧
    (∀ error, (l.caught s data).1 = .error error →
      ∃ sent m lost l' s', (l.taken data).1 = sent ++ m :: lost ∧
        sendAll sent (l.taken data).2 s = (.ok (), l', s') ∧
        (l'.dispatch s' m.level m.text .empty none).1 = .error error) := by
  refine ⟨fun rounds h => caught?_eq l s data h, ?_, ?_⟩
  · intro closing buffer m h
    obtain ⟨removed, rest, level, hremoved, hbuffer, hcut, hread, -⟩ := exists_cut h
    exact ⟨removed, rest, level, hremoved, hbuffer, hcut, hread⟩
  · intro error herror
    rw [caught_eq, answered] at herror
    refine exists_dispatch_of_error ?_
    rcases hsend : sendAll (l.taken data).1 (l.taken data).2 s with ⟨_ | _, l', s'⟩
    · rw [hsend] at herror
      exact congrArg Except.error (Except.error.inj herror)
    · rw [hsend] at herror
      simp [Except.map] at herror

/-- A line that has not ended, with a marker in mixed case behind a character of two bytes. -/
def unendedLine : List Char := "é [wArN] x".toList

/-- The capture takes the end of the line that is put behind the text, and the only failure is that
of the dispatch. -/
theorem catch_total_unended :
    let l : Logger := { faulty with pending := bytesOf "é [wArN] x" }
    let m : Capture := ⟨[], unendedLine ++ ['\n'], "wArN".toList, "é".toList, "x".toList⟩
    caught? 11 l faultyStore none = .ok (l.caught faultyStore none) ∧
      capture? (searched true unendedLine) = some m ∧ byteLength unendedLine < m.stop ∧
      (∃ removed rest level, removed ≠ [] ∧ unendedLine = removed ++ rest ∧
        Line.cut? (min m.stop (byteLength unendedLine)) unendedLine = some (removed, rest) ∧
        Level.read (String.ofList m.name) = .ok level) ∧
      ∃ error, (l.caught faultyStore none).1 = .error error ∧
        ∃ sent m lost l' s', (l.taken none).1 = sent ++ m :: lost ∧
          sendAll sent (l.taken none).2 faultyStore = (.ok (), l', s') ∧
          (l'.dispatch s' m.level m.text .empty none).1 = .error error := by
  intro l m
  have hcapture : capture? (searched true unendedLine) = some m := by decide +kernel
  have hbound : (decode (l.portion none).1).length < 11 := by decide +kernel
  have hfails : (l.caught faultyStore none).1.isOk = false := by decide +kernel
  have htotal := catch_total l faultyStore none
  refine ⟨htotal.1 11 hbound, hcapture, by decide +kernel,
    htotal.2.1 true unendedLine m hcapture, ?_⟩
  rcases hcaught : (l.caught faultyStore none).1 with error | n
  · exact ⟨error, rfl, htotal.2.2 error hcaught⟩
  · rw [hcaught] at hfails
    simp [Except.isOk, Except.toBool] at hfails

end Logger

end Hooklog
