import Hooklog.Proofs.Catcher.Unmarked
import Hooklog.Proofs.Logger.Deliveries
import Hooklog.Proofs.Logger.Runs
import Hooklog.Proofs.Store.Confinement
import Hooklog.Proofs.Text.Encoding

/-!
# Raw text

Text without markers that is written to a logger leaves it raw.  What a hook has been handed,
followed by the part of a line that the logger keeps, is what has been written; this is what one
call preserves (`Passes`), and a run of any length.  A call preserves it unless text is written
past a part of a line that is kept, which happens if the catcher is switched off in between.  A
logger that does not catch does not release this part either when it is closed, and so
`run_prints_text` says when the text has left the logger as a whole.
-/

namespace Hooklog

open Text Catcher Delivery

/-- A hook is handed raw texts, one after the other and without a failure; the text is that of
all of them. -/
inductive Hook.Prints (h : Hook) : Store → List Char → Store → Prop where
  | none (s : Store) : Prints h s [] s
  | next {s s' s'' : Store} {e : Entry} {later : List Char} :
      e.level = .print → s.deliver h.destination e = (.ok (), s') → Prints h s' later s'' →
      Prints h s (e.message.toList ++ later) s''

/-- A console writes raw text as it is. -/
theorem Store.deliver_print {s : Store} {id : DestinationId} {c : Console} {e : Entry}
    (hd : s.destinations[id]? = some (.console c)) (hlevel : e.level = .print) :
    s.deliver id e = s.writeStream c.out e.message := by
  have hprint : e.level.isPrint = true := by rw [hlevel]; decide
  rw [deliver, hd]
  simp only [entryText, hprint, if_true]

namespace Hook.Prints

variable {h : Hook} {s s' s'' : Store} {text later : List Char}

theorem trans (hfirst : h.Prints s text s') (hlater : h.Prints s' later s'') :
    h.Prints s (text ++ later) s'' := by
  induction hfirst with
  | none s => exact hlater
  | next hlevel hdeliver _ ih =>
      rw [List.append_assoc]
      exact .next hlevel hdeliver (ih hlater)

/-- What is printed on a console arrives in the buffer of its stream of raw text. -/
theorem content (hprints : h.Prints s text s') {c : Console} {name : String}
    (hd : s.destinations[h.destination]? = some (.console c)) (hsink : c.out.sink = .buffer name) :
    s'.buffers.content name = s.buffers.content name ++ encode text := by
  induction hprints with
  | none s => exact (List.append_nil _).symm
  | @next s s' s'' e later hlevel hdeliver _ ih =>
      obtain ⟨buffers, hstore, hcontent⟩ := s.writeStream_store c.out e.message
      rw [← Store.deliver_print hd hlevel, hdeliver] at hstore
      change s' = _ at hstore
      have hkept : s'.destinations[h.destination]? = some (.console c) := by
        rw [hstore]
        exact hd
      have htaken : buffers.content name = s.buffers.content name ++ encode e.message.toList := by
        have hbuffer : (Sink.buffer name).buffer? = some name := rfl
        rw [hcontent name, hsink, if_pos hbuffer, ← bytesOf_eq_encode]
        rfl
      rw [ih hkept, hstore, encode_append, ← List.append_assoc, ← htaken]

end Hook.Prints

namespace Logger

/-- Without other hooks a dispatch is one delivery, and only a failure of it is recorded. -/
theorem dispatch_single {l : Logger} {s : Store} {h : Hook} {level : Level}
    (hvalues : l.hooks.values = [h]) (haccepts : h.accepts s level = true) (message : String)
    (fields : Fields) (caller : Option Caller) :
    let e := l.entry s level message fields caller
    (s.deliver h.destination e).1 = .ok () ∧
        l.dispatch s level message fields caller = (.ok (), l, (s.deliver h.destination e).2) ∨
      ∃ error, l.dispatch s level message fields caller =
        (.error (.dispatch [error]), l.noting (l.errors ++ [error]),
          (s.deliver h.destination e).2) := by
  intro e
  have haccepting : l.accepting s level = [h] := by
    rw [accepting, hvalues]
    exact List.filter_cons_of_pos haccepts
  have hdispatch : l.dispatch s level message fields caller =
      (dispatchResult (failures [h.delivery s e]),
        l.noting (l.errors ++ failures [h.delivery s e]), (s.deliver h.destination e).2) := by
    rw [dispatch, haccepting, Hook.fireAll_cons, Hook.fireAll]
    dsimp only
    rw [List.append_nil]
    rfl
  rw [hdispatch, failures, List.filterMap_cons, List.filterMap_nil, Delivery.failure?]
  rcases hresult : (s.deliver h.destination e).1 with (error | fault) | _
  · refine Or.inr ⟨error, ?_⟩
    rw [Hook.delivery, hresult]
    rfl
  · refine Or.inr ⟨.hookPanic h.name fault.message, ?_⟩
    rw [Hook.delivery, hresult]
    rfl
  · refine Or.inl ⟨rfl, ?_⟩
    rw [Hook.delivery, hresult]
    dsimp only
    rw [List.append_nil]
    rfl

/-- Messages at the level of raw text are printed, unless one of them fails. -/
theorem sendAll_prints {l : Logger} {s : Store} {h : Hook} {ms : List Message}
    (hvalues : l.hooks.values = [h]) (haccepts : h.accepts s .print = true)
    (hms : ∀ m ∈ ms, m.level = .print) :
    s.Continues l.moduleName (sendAll ms l s).2.2 ∧
      ∃ failed, (sendAll ms l s).2.1 = l.noting (l.errors ++ failed) ∧
        (failed = [] → h.Prints s (textOf ms) (sendAll ms l s).2.2) := by
  induction ms generalizing s with
  | nil =>
      refine ⟨.refl s, [], ?_, fun _ => .none s⟩
      rw [List.append_nil]
      rfl
  | cons m rest ih =>
      obtain ⟨hm, hrest⟩ := List.forall_mem_cons.mp hms
      have hcontinues : s.Continues l.moduleName
          (s.deliver h.destination (l.entry s m.level m.text .empty none)).2 :=
        Store.continues_deliver (l.entry s m.level m.text .empty none)
      have haccepts' := (hcontinues.accepts h .print).trans haccepts
      rw [← hm] at haccepts
      rw [sendAll]
      rcases dispatch_single hvalues haccepts m.text .empty none with
        ⟨hresult, hdispatch⟩ | ⟨error, hdispatch⟩
      · rw [hdispatch]
        obtain ⟨hlater, failed, hlogger, hprints⟩ := ih haccepts' hrest
        refine ⟨hcontinues.trans hlater, failed, hlogger, fun hnone => ?_⟩
        exact .next hm (Prod.ext hresult rfl) (hprints hnone)
      · rw [hdispatch]
        exact ⟨hcontinues, [error], rfl, fun hnone => absurd hnone (by simp)⟩

/-! ## Calls -/

/-- What one or several calls do to a text: the hook is handed a part of it, unless a delivery
fails, and another part is kept. -/
structure Passes (h : Hook) (l : Logger) (s : Store) (handed kept : List Char) (l' : Logger)
    (s' : Store) : Prop where
  hooks : l'.hooks = l.hooks
  printLevel : l'.printLevel = l.printLevel
  accepts : h.accepts s' .print = true
  pending : l'.pending = encode kept
  failed : ∃ failed, l'.errors = l.errors ++ failed ∧ (failed = [] → h.Prints s handed s')

namespace Passes

variable {h : Hook} {l l' l'' : Logger} {s s' s'' : Store} {handed kept handed' kept' : List Char}

theorem trans (hfirst : l.Passes h s handed kept l' s')
    (hlater : l'.Passes h s' handed' kept' l'' s'') :
    l.Passes h s (handed ++ handed') kept' l'' s'' := by
  obtain ⟨failed, herrors, hprints⟩ := hfirst.failed
  obtain ⟨failed', herrors', hprints'⟩ := hlater.failed
  refine ⟨hlater.hooks.trans hfirst.hooks, hlater.printLevel.trans hfirst.printLevel,
    hlater.accepts, hlater.pending, failed ++ failed', ?_, fun hnone => ?_⟩
  · rw [herrors', herrors, List.append_assoc]
  · obtain ⟨hnone, hnone'⟩ := List.append_eq_nil_iff.mp hnone
    exact (hprints hnone).trans (hprints' hnone')

/-- Plain messages are handed to the only hook; what the logger keeps is not touched. -/
theorem sendAll (hvalues : l.hooks.values = [h]) (haccepts : h.accepts s .print = true)
    (hpending : l.pending = encode kept) (text : List Char) :
    l.Passes h s text kept (sendAll (plainMessages .print text) l s).2.1
      (Logger.sendAll (plainMessages .print text) l s).2.2 := by
  obtain ⟨hcontinues, failed, hlogger, hprints⟩ :=
    sendAll_prints hvalues haccepts fun m hm => level_of_mem_plainMessages hm
  rw [textOf_plainMessages] at hprints
  rw [hlogger]
  exact ⟨rfl, rfl, (hcontinues.accepts h .print).trans haccepts, hpending, failed, rfl, hprints⟩

end Passes

/-- A logger with other switches passes a text on alike. -/
theorem Passes.of_same {h : Hook} {k l l' : Logger} {s s' : Store} {handed kept : List Char}
    (hpasses : k.Passes h s handed kept l' s') (hhooks : k.hooks = l.hooks)
    (hlevel : k.printLevel = l.printLevel) (herrors : k.errors = l.errors) :
    l.Passes h s handed kept l' s' := by
  refine ⟨hpasses.hooks.trans hhooks, hpasses.printLevel.trans hlevel, hpasses.accepts,
    hpasses.pending, ?_⟩
  rw [← herrors]
  exact hpasses.failed

section Calls

variable {h : Hook} {l : Logger} {s : Store} {kept : List Char}
  (hvalues : l.hooks.values = [h]) (hprint : l.printLevel = .print)
  (haccepts : h.accepts s .print = true) (hpending : l.pending = encode kept)

include hvalues hprint haccepts hpending

/-- A write hands over what it completes, or all of its text if the catcher is off. -/
theorem passes_write {text : List Char} (hmarker : ¬ HoldsMarker (kept ++ text))
    (hahead : encode text ≠ [] → l.catches = true ∨ l.pending = []) :
    ∃ handed kept', l.Passes h s handed kept' (l.write s (encode text)).2.1
        (l.write s (encode text)).2.2 ∧ kept ++ text = handed ++ kept' := by
  cases hcatches : l.catches with
  | true =>
      obtain ⟨hsplit, -, hcomplete⟩ := splitComplete_spec (l.pending ++ encode text)
      rw [hpending, ← encode_append] at hsplit hcomplete
      obtain ⟨front, back, htext, hfront, hback⟩ :=
        exists_of_encode_eq_append hsplit.symm hcomplete
      have hplain : ¬ HoldsMarker front := by
        intro hfront
        have hwhole := hfront.append [] back
        rw [List.nil_append, ← htext] at hwhole
        exact hmarker hwhole
      have hreceived : l.received (encode text) =
          (plainMessages .print front, { l with pending := encode back }) := by
        rw [received, if_pos hcatches, hpending, ← encode_append]
        dsimp only
        rw [hfront, hback, decode_encode, hprint, messages_of_unmarked _ hplain]
      refine ⟨front, back, ?_, htext⟩
      rw [write, hreceived]
      have hpasses := Passes.sendAll (l := { l with pending := encode back }) (s := s) hvalues
        haccepts rfl front
      exact hpasses.of_same rfl rfl rfl
  | false =>
      have hreceived : l.received (encode text) = (plainMessages .print text, l) := by
        rw [received, if_neg (by rw [hcatches]; exact Bool.false_ne_true), decode_encode, hprint]
      refine ⟨text, kept, ?_, ?_⟩
      · rw [write, hreceived]
        exact Passes.sendAll hvalues haccepts hpending text
      · -- nothing is written past a part of a line that is kept
        by_cases hnothing : encode text = []
        · have htext := decode_encode text
          rw [hnothing] at htext
          rw [← htext]
          exact List.append_nil kept
        · have hfree := (hahead hnothing).resolve_left (by rw [hcatches]; exact Bool.false_ne_true)
          have hkept := decode_encode kept
          rw [← hpending, hfree] at hkept
          rw [← hkept]
          exact (List.append_nil text).symm

/-- A close hands over what is kept, unless the catcher is off. -/
theorem passes_close (hmarker : ¬ HoldsMarker kept) :
    ∃ handed kept', l.Passes h s handed kept' (l.close s).2.1 (l.close s).2.2 ∧
      kept = handed ++ kept' ∧ (encode kept' = [] ↔ l.catches = true ∨ l.pending = []) := by
  by_cases hkeeps : (l.pending.isEmpty || !l.catches) = true
  · have hreleased : l.released = ([], l) := by rw [released, if_pos hkeeps]
    refine ⟨[], kept, ?_, rfl, ?_⟩
    · rw [close, hreleased]
      exact Passes.sendAll hvalues haccepts hpending []
    · rw [← hpending]
      refine ⟨Or.inr, fun hcases => ?_⟩
      rcases Bool.or_eq_true_iff.mp hkeeps with hempty | hcatches
      · exact List.isEmpty_iff.mp hempty
      · refine hcases.resolve_left fun hon => ?_
        rw [hon] at hcatches
        exact Bool.false_ne_true hcatches
  · have hreleased : l.released = (plainMessages .print kept, { l with pending := [] }) := by
      rw [released, if_neg hkeeps, hpending, decode_encode, hprint,
        closingMessages_of_unmarked _ hmarker]
    refine ⟨kept, [], ?_, (List.append_nil kept).symm, iff_of_true rfl (Or.inl ?_)⟩
    · rw [close, hreleased]
      have hempty : ([] : Bytes) = encode [] := rfl
      have hpasses := Passes.sendAll (l := { l with pending := [] }) (s := s) hvalues haccepts
        hempty kept
      exact hpasses.of_same rfl rfl rfl
    · simp only [Bool.or_eq_true, not_or, Bool.not_eq_true', Bool.not_eq_false] at hkeeps
      exact hkeeps.2

end Calls

end Logger

namespace Call

/-- Bytes that a call writes. -/
def written : Call → Bytes
  | .write bytes => bytes
  | _ => []

/-- Whether a call works on the stream of written text. -/
def IsStream : Call → Prop
  | .write _ => True
  | .setCatches _ => True
  | .close => True
  | .flush => True
  | _ => False

end Call

namespace Logger

/-! ## Runs -/

/-- No text is written past a part of a line that is kept: whenever some is written, the catcher
is on or nothing is kept. -/
def Orderly (l : Logger) (s : Store) (calls : List Call) : Prop :=
  ∀ before bytes after, calls = before ++ .write bytes :: after → bytes ≠ [] →
    (l.run s before).2.1.catches = true ∨ (l.run s before).2.1.pending = []

section Runs

variable {h : Hook} {l : Logger} {s : Store} {kept : List Char}

theorem orderly_nil (l : Logger) (s : Store) : l.Orderly s [] := by
  intro before bytes after hsplit
  exact absurd hsplit (by simp)

/-- A run is orderly if its first call is, and the run after it. -/
theorem orderly_cons {c : Call} {rest : List Call} :
    l.Orderly s (c :: rest) ↔ (c.written ≠ [] → l.catches = true ∨ l.pending = []) ∧
      (l.perform s c).2.1.Orderly (l.perform s c).2.2 rest := by
  constructor
  · intro horderly
    refine ⟨fun hne => ?_, fun before bytes after hsplit hne => ?_⟩
    · cases c with
      | write bytes => exact horderly [] bytes rest rfl hne
      | _ => exact absurd rfl hne
    · exact horderly (c :: before) bytes after (by rw [hsplit]; rfl) hne
  · rintro ⟨hfirst, hrest⟩ before bytes after hsplit hne
    cases before with
    | nil =>
        obtain ⟨rfl, rfl⟩ := List.cons.inj hsplit
        exact hfirst hne
    | cons c' before =>
        obtain ⟨rfl, rfl⟩ := List.cons.inj hsplit
        exact hrest before bytes after rfl hne

theorem passes_perform (hvalues : l.hooks.values = [h]) (hprint : l.printLevel = .print)
    (haccepts : h.accepts s .print = true) (hpending : l.pending = encode kept) {c : Call}
    (hc : c.IsStream) {text : List Char} (htext : c.written = encode text)
    (hmarker : ¬ HoldsMarker (kept ++ text))
    (hahead : c.written ≠ [] → l.catches = true ∨ l.pending = []) :
    ∃ handed kept', l.Passes h s handed kept' (l.perform s c).2.1 (l.perform s c).2.2 ∧
      kept ++ text = handed ++ kept' := by
  have hnothing : c.written = [] → kept ++ text = kept := by
    intro hnil
    have hdecode := decode_encode text
    rw [← htext, hnil] at hdecode
    rw [← hdecode]
    exact List.append_nil kept
  cases c with
  | write bytes =>
      change bytes = encode text at htext
      subst htext
      exact passes_write hvalues hprint haccepts hpending hmarker hahead
  | setCatches catches =>
      have hpasses : l.Passes h s [] kept { l with catches := catches } s :=
        ⟨rfl, rfl, haccepts, hpending, [], (List.append_nil _).symm, fun _ => .none s⟩
      exact ⟨[], kept, hpasses, hnothing rfl⟩
  | close =>
      rw [hnothing rfl] at hmarker ⊢
      obtain ⟨handed, kept', hpasses, hkept, -⟩ :=
        passes_close hvalues hprint haccepts hpending hmarker
      exact ⟨handed, kept', hpasses, hkept⟩
  | flush =>
      rw [hnothing rfl] at hmarker ⊢
      obtain ⟨handed, kept', hpasses, hkept, -⟩ :=
        passes_close hvalues hprint haccepts hpending hmarker
      exact ⟨handed, kept', hpasses, hkept⟩
  | _ => exact hc.elim

/-- What is handed over and what is kept in the end is what was kept before and what has been
written, in this order. -/
theorem passes_run (hvalues : l.hooks.values = [h]) (hprint : l.printLevel = .print)
    (haccepts : h.accepts s .print = true) (hpending : l.pending = encode kept)
    {calls : List Call} (hcalls : ∀ c ∈ calls, c.IsStream)
    (hvalid : ∀ c ∈ calls, ∃ text, c.written = encode text)
    (hmarker : ¬ HoldsMarker (kept ++ decode (calls.flatMap Call.written)))
    (horderly : l.Orderly s calls) :
    ∃ handed kept', l.Passes h s handed kept' (l.run s calls).2.1 (l.run s calls).2.2 ∧
      kept ++ decode (calls.flatMap Call.written) = handed ++ kept' := by
  -- along the calls; what carries over is that all text at hand is free of markers
  induction calls generalizing l s kept with
  | nil =>
      have hpasses : l.Passes h s [] kept l s :=
        ⟨rfl, rfl, haccepts, hpending, [], (List.append_nil _).symm, fun _ => .none s⟩
      exact ⟨[], kept, hpasses, List.append_nil kept⟩
  | cons c rest ih =>
      obtain ⟨hc, hrest⟩ := List.forall_mem_cons.mp hcalls
      obtain ⟨⟨text, htext⟩, hvalid'⟩ := List.forall_mem_cons.mp hvalid
      rw [List.flatMap_cons, htext, decode_encode_append, ← List.append_assoc] at hmarker ⊢
      have hfirst : ¬ HoldsMarker (kept ++ text) := fun hholds => hmarker (hholds.append [] _)
      obtain ⟨hahead, horderly'⟩ := orderly_cons.mp horderly
      obtain ⟨handed, kept', hpasses, hhanded⟩ :=
        passes_perform hvalues hprint haccepts hpending hc htext hfirst hahead
      rw [hhanded, List.append_assoc] at hmarker ⊢
      have hlater : ¬ HoldsMarker (kept' ++ decode (rest.flatMap Call.written)) := by
        intro hholds
        have hwhole := hholds.append handed []
        rw [List.append_nil] at hwhole
        exact hmarker hwhole
      have hvalues' : (l.perform s c).2.1.hooks.values = [h] := by rw [hpasses.hooks, hvalues]
      obtain ⟨handed', kept'', hpasses', hkept⟩ := ih hvalues'
        (hpasses.printLevel.trans hprint) hpasses.accepts hpasses.pending hrest hvalid' hlater
        horderly'
      refine ⟨handed ++ handed', kept'', hpasses.trans hpasses', ?_⟩
      rw [hkept, List.append_assoc]

end Runs

theorem run_append (l : Logger) (s : Store) (calls more : List Call) :
    (l.run s (calls ++ more)).2 = ((l.run s calls).2.1.run (l.run s calls).2.2 more).2 := by
  induction calls generalizing l s with
  | nil => rfl
  | cons c rest ih => exact ih (l.perform s c).2.1 (l.perform s c).2.2

/-- What valid texts are written is a valid text. -/
theorem exists_text_written {calls : List Call}
    (hvalid : ∀ c ∈ calls, ∃ text, c.written = encode text) :
    ∃ text, calls.flatMap Call.written = encode text := by
  induction calls with
  | nil => exact ⟨[], rfl⟩
  | cons c rest ih =>
      obtain ⟨⟨text, htext⟩, hvalid'⟩ := List.forall_mem_cons.mp hvalid
      obtain ⟨later, hlater⟩ := ih hvalid'
      exact ⟨text ++ later, by rw [List.flatMap_cons, htext, hlater, encode_append]⟩

/-- Text without markers is written in valid chunks to a logger with one hook, which prints it
raw without a failure, and never past a part of a line that is kept.  When the logger is closed,
what the hook has been handed and what is still kept is all that has been written, in order; and
nothing is kept, so that the hook has been handed all of it, exactly if the catcher was on at the
close or nothing was kept before it.  On a console, what the hook has been handed is what its
stream of raw text has got. -/
theorem run_prints_text {l : Logger} {s : Store} {name : String} {h : Hook} {calls : List Call}
    (hhook : l.hooks.toList = [(name, h)]) (hprint : l.printLevel = .print)
    (haccepts : h.accepts s .print = true) (hpending : l.pending = [])
    (hcalls : ∀ c ∈ calls, c.IsStream)
    (hvalid : ∀ c ∈ calls, ∃ text : String, c.written = bytesOf text)
    (hmarker : ¬ HoldsMarker (decode (calls.flatMap Call.written)))
    (horderly : l.Orderly s calls)
    (hok : (l.run s (calls ++ [.close])).2.1.errors = l.errors) :
    let closed := (l.run s (calls ++ [.close])).2
    ∃ raw, h.Prints s raw closed.2 ∧
      (∀ c buffer, s.destinations[h.destination]? = some (.console c) →
        c.out.sink = .buffer buffer →
        closed.2.buffers.content buffer = s.buffers.content buffer ++ encode raw) ∧
      encode raw ++ closed.1.pending = calls.flatMap Call.written ∧
      (closed.1.pending = [] ∧ encode raw = calls.flatMap Call.written ↔
        (l.run s calls).2.1.catches = true ∨ (l.run s calls).2.1.pending = []) := by
  have hvalues : l.hooks.values = [h] := by rw [SortedMap.values, hhook]; rfl
  have hencoded : ∀ c ∈ calls, ∃ text, c.written = encode text := by
    intro c hc
    obtain ⟨text, htext⟩ := hvalid c hc
    exact ⟨text.toList, by rw [htext, bytesOf_eq_encode]⟩
  obtain ⟨text, htext⟩ := exists_text_written hencoded
  have hempty : l.pending = encode [] := hpending
  obtain ⟨handed, kept, hpasses, hhanded⟩ :=
    passes_run hvalues hprint haccepts hempty hcalls hencoded hmarker horderly
  rw [List.nil_append] at hhanded
  have hplain : ¬ HoldsMarker kept := by
    intro hholds
    have hwhole := hholds.append handed []
    rw [List.append_nil, ← hhanded] at hwhole
    exact hmarker hwhole
  have hvalues' : (l.run s calls).2.1.hooks.values = [h] := by rw [hpasses.hooks, hvalues]
  obtain ⟨handed', kept', hclose, hkept, hnone⟩ := passes_close hvalues'
    (hpasses.printLevel.trans hprint) hpasses.accepts hpasses.pending hplain
  have hrun : (l.run s (calls ++ [.close])).2 =
      ((l.run s calls).2.1.close (l.run s calls).2.2).2 := run_append l s calls [.close]
  rw [hrun] at hok ⊢
  obtain ⟨failed, herrors, hprints⟩ := (hpasses.trans hclose).failed
  rw [hok] at herrors
  have hall : encode (handed ++ handed') ++ encode kept' = calls.flatMap Call.written := by
    rw [← encode_append, List.append_assoc, ← hkept, ← hhanded, htext, decode_encode]
  have hraw := hprints (List.self_eq_append_right.mp herrors)
  refine ⟨handed ++ handed', hraw, fun c buffer => hraw.content, ?_, ?_⟩
  · rw [hclose.pending]
    exact hall
  · rw [hclose.pending, ← hnone]
    refine ⟨And.left, fun hnothing => ⟨hnothing, ?_⟩⟩
    rwa [hnothing, List.append_nil] at hall

/-- Hook on a console for all levels, and the store of this console. -/
def printing : Hook × Store :=
  Hook.console (.new (.ofConfig .empty ⟨0, 0⟩ false) ⟨0, 0⟩ "work") "" .trace none

/-- Logger of this console. -/
def printer : Logger := withHooks (.ofConfig .empty ⟨0, 0⟩ false) "" [printing.1]

/-- Lines written in pieces, one of them while the catcher is off. -/
def orderlyCalls : List Call :=
  [.write (bytesOf "one\nt"), .write (bytesOf "wo\n"), .setCatches false,
    .write (bytesOf "three "), .setCatches true, .write (bytesOf "four")]

theorem run_prints_text_orderly :
    printer.hooks.toList = [(Hook.defaultConsole, printing.1)] ∧ printer.printLevel = .print ∧
      printing.1.accepts printing.2 .print = true ∧ printer.pending = [] ∧
      (∀ c ∈ orderlyCalls, c.IsStream) ∧
      (∀ c ∈ orderlyCalls, ∃ text : String, c.written = bytesOf text) ∧
      ¬ HoldsMarker (decode (orderlyCalls.flatMap Call.written)) ∧
      printer.Orderly printing.2 orderlyCalls ∧
      (printer.run printing.2 (orderlyCalls ++ [.close])).2.1.errors = printer.errors ∧
      (printer.run printing.2 (orderlyCalls ++ [.close])).2.2.buffers.content "stdout" =
        bytesOf "one\ntwo\nthree four" ∧
      let closed := (printer.run printing.2 (orderlyCalls ++ [.close])).2
      ∃ raw, printing.1.Prints printing.2 raw closed.2 ∧
        (∀ c buffer, printing.2.destinations[printing.1.destination]? = some (.console c) →
          c.out.sink = .buffer buffer →
          closed.2.buffers.content buffer = printing.2.buffers.content buffer ++ encode raw) ∧
        encode raw ++ closed.1.pending = orderlyCalls.flatMap Call.written ∧
        (closed.1.pending = [] ∧ encode raw = orderlyCalls.flatMap Call.written ↔
          (printer.run printing.2 orderlyCalls).2.1.catches = true ∨
            (printer.run printing.2 orderlyCalls).2.1.pending = []) := by
  have hhook : printer.hooks.toList = [(Hook.defaultConsole, printing.1)] := by decide +kernel
  have haccepts : printing.1.accepts printing.2 .print = true := by decide +kernel
  have hcalls : ∀ c ∈ orderlyCalls, c.IsStream := by
    simp [orderlyCalls, Call.IsStream]
  have hvalid : ∀ c ∈ orderlyCalls, ∃ text : String, c.written = bytesOf text := by
    simp only [orderlyCalls, List.forall_mem_cons]
    exact ⟨⟨_, rfl⟩, ⟨_, rfl⟩, ⟨"", by decide⟩, ⟨_, rfl⟩, ⟨"", by decide⟩, ⟨_, rfl⟩,
      List.forall_mem_nil _⟩
  have hmarker : ¬ HoldsMarker (decode (orderlyCalls.flatMap Call.written)) :=
    not_holdsMarker_of_firstMarker?_eq_none (by decide +kernel)
  have horderly : printer.Orderly printing.2 orderlyCalls := by
    simp only [orderlyCalls, orderly_cons]
    refine ⟨?_, ?_, ?_, ?_, ?_, ?_, orderly_nil _ _⟩ <;> decide +kernel
  have hsilent : (printer.run printing.2 (orderlyCalls ++ [.close])).2.1.errors.isEmpty = true := by
    decide +kernel
  have hok : (printer.run printing.2 (orderlyCalls ++ [.close])).2.1.errors = printer.errors :=
    List.isEmpty_iff.mp hsilent
  exact ⟨hhook, rfl, haccepts, rfl, hcalls, hvalid, hmarker, horderly, hok, by decide +kernel,
    run_prints_text hhook rfl haccepts rfl hcalls hvalid hmarker horderly hok⟩

/-- A part of a line is written, and the catcher is switched off. -/
def strandedCalls : List Call := [.write (bytesOf "abc"), .setCatches false]

/-- More is written before the catcher is switched on again. -/
def overtakenCalls : List Call :=
  strandedCalls ++ [.write (bytesOf "def\n"), .setCatches true]

/-- The close succeeds and nothing has failed, but the part of a line stays behind; and what is
written past it is printed before it. -/
theorem close_keeps_text :
    printer.hooks.toList = [(Hook.defaultConsole, printing.1)] ∧ printer.printLevel = .print ∧
      printing.1.accepts printing.2 .print = true ∧ printer.pending = [] ∧
      (∀ c ∈ overtakenCalls, c.IsStream) ∧
      (∀ c ∈ overtakenCalls, ∃ text : String, c.written = bytesOf text) ∧
      ¬ HoldsMarker (decode (overtakenCalls.flatMap Call.written)) ∧
      (let before := (printer.run printing.2 strandedCalls).2
        let closed := before.1.close before.2
        closed.1 = .ok () ∧ closed.2.1.errors = [] ∧ closed.2.1.pending = bytesOf "abc" ∧
          closed.2.2.buffers.content "stdout" = [] ∧
          strandedCalls.flatMap Call.written = bytesOf "abc") ∧
      (let before := (printer.run printing.2 overtakenCalls).2
        let closed := before.1.close before.2
        closed.1 = .ok () ∧ closed.2.1.errors = [] ∧
          closed.2.2.buffers.content "stdout" = bytesOf "def\nabc" ∧
          overtakenCalls.flatMap Call.written = bytesOf "abcdef\n") := by
  have hcalls : ∀ c ∈ overtakenCalls, c.IsStream := by
    simp [overtakenCalls, strandedCalls, Call.IsStream]
  have hvalid : ∀ c ∈ overtakenCalls, ∃ text : String, c.written = bytesOf text := by
    simp only [overtakenCalls, strandedCalls, List.cons_append, List.nil_append,
      List.forall_mem_cons]
    exact ⟨⟨_, rfl⟩, ⟨"", by decide⟩, ⟨_, rfl⟩, ⟨"", by decide⟩, List.forall_mem_nil _⟩
  refine ⟨by decide +kernel, rfl, by decide +kernel, rfl, hcalls, hvalid,
    not_holdsMarker_of_firstMarker?_eq_none (by decide +kernel), ?_, ?_⟩
  · exact ⟨ok_of_isOk (by decide +kernel), List.isEmpty_iff.mp (by decide +kernel),
      by decide +kernel, by decide +kernel, by decide +kernel⟩
  · exact ⟨ok_of_isOk (by decide +kernel), List.isEmpty_iff.mp (by decide +kernel),
      by decide +kernel, by decide +kernel⟩

end Logger

end Hooklog
