import Hooklog.Bridge
import Hooklog.Proofs.Logger.Portions

/-!
# Failures behind a bridge

A logger takes written text, and records and requests to flush through a bridge.  Deliveries that
fail are put on record where they are made, and so are values of a record that cannot be read.  A
flush first sends what is kept of a line; it answers the failures of that beside those of the
hooks that it flushes, and the bridge records the answer.  So a failure of what was kept stands
on record twice.

* `LogError.flattened` lists failures without the lists that hold them.
* `Logger.Serves` tells one call by what is read, delivered and flushed, and
  `Logger.exists_serves` says what it adds to the failures on record.
* `Logger.recorded_once_iff` compares, for every run, the failures on record with those that
  happened.
-/

namespace Hooklog

open Catcher Delivery

/-! ## Lists of failures -/

namespace LogError

mutual

/-- Failures that a failure stands for: those of a list, or itself. -/
def parts : LogError → List LogError
  | .dispatch errors => flattened errors
  | error => [error]

/-- Failures with those of a list, however deep, in its place. -/
def flattened : List LogError → List LogError
  | [] => []
  | error :: rest => error.parts ++ flattened rest

end

theorem flattened_append (errors later : List LogError) :
    flattened (errors ++ later) = flattened errors ++ flattened later := by
  induction errors with
  | nil => rfl
  | cons error rest ih =>
      rw [List.cons_append, flattened, flattened, ih, List.append_assoc]

theorem flattened_flatMap {α : Type} (f : α → List LogError) (l : List α) :
    flattened (l.flatMap f) = l.flatMap fun a => flattened (f a) := by
  induction l with
  | nil => rfl
  | cons a rest ih => rw [List.flatMap_cons, List.flatMap_cons, flattened_append, ih]

/-- The answer to failures stands for these failures. -/
theorem flattened_dispatchResult (errors : List LogError) :
    flattened (Logger.failure? (dispatchResult errors)).toList = flattened errors := by
  cases errors with
  | nil => rfl
  | cons error rest => exact List.append_nil _

end LogError

open LogError

/-! ## Calls and what they come to -/

/-- A call on a logger or on a bridge to it. -/
inductive BridgeCall where
  /-- Write bytes to the logger. -/
  | write (bytes : Text.Bytes)
  /-- Log a record. -/
  | log (r : Record)
  | flush

/-- What one call comes to. -/
inductive Turn where
  /-- Entries are handed to hooks. -/
  | delivered (ds : List Delivery)
  /-- The values of a record are read, and its entry is handed to hooks. -/
  | logged (reading : Except LogError Unit) (ds : List Delivery)
  /-- A record is dropped, since no hook accepts its level. -/
  | dropped
  /-- What is kept of a line is handed to hooks, and all hooks are flushed. -/
  | flushed (ds : List Delivery) (flushes : List (Except LogError Unit))

namespace Turn

/-- One failure for each reading, each delivery and each flush that failed, in the order in which
they happened. -/
def failures : Turn → List LogError
  | .delivered ds => Delivery.failures ds
  | .logged reading ds => (Logger.failure? reading).toList ++ Delivery.failures ds
  | .dropped => []
  | .flushed ds flushes => Delivery.failures ds ++ flushes.filterMap Logger.failure?

/-- Failures of the deliveries of a flush. -/
def closing : Turn → List LogError
  | .flushed ds _ => Delivery.failures ds
  | _ => []

/-- What a flush answers. -/
def answer (ds : List Delivery) (flushes : List (Except LogError Unit)) : Except LogError Unit :=
  dispatchResult ((Logger.failure? (dispatchResult (Delivery.failures ds))).toList
    ++ flushes.filterMap Logger.failure?)

/-- What is put on record: the failures of readings and deliveries, and for a flush also its
answer. -/
def recorded : Turn → List LogError
  | .delivered ds => Delivery.failures ds
  | .logged reading ds => (Logger.failure? reading).toList ++ Delivery.failures ds
  | .dropped => []
  | .flushed ds flushes =>
      Delivery.failures ds ++ (Logger.failure? (answer ds flushes)).toList

/-- What is put on record stands for the failures that happened, but those of the deliveries of
a flush come twice. -/
theorem flattened_recorded (t : Turn) :
    flattened t.recorded = flattened t.closing ++ flattened t.failures := by
  cases t with
  | delivered ds => rfl
  | logged reading ds => rfl
  | dropped => rfl
  | flushed ds flushes =>
      rw [recorded, closing, failures, flattened_append, answer, flattened_dispatchResult,
        flattened_append, flattened_dispatchResult, flattened_append]

end Turn

namespace Logger

/-- One call. -/
def serve (l : Logger) (s : Store) : BridgeCall → Logger × Store
  | .write bytes => (l.write s bytes).2
  | .log r => l.logRecord s r
  | .flush => l.flushRecords s

/-- Calls one after the other. -/
def serveAll (l : Logger) (s : Store) : List BridgeCall → Logger × Store
  | [] => (l, s)
  | c :: rest =>
      let (l, s) := l.serve s c
      l.serveAll s rest

/-- One call told by what is read, delivered and flushed.  The logger of the telling keeps the
failures that were on record before. -/
inductive Serves (l : Logger) (s : Store) : BridgeCall → Turn → Logger → Store → Prop where
  | write {bytes : Text.Bytes} {sent lost : List Message} {deliveries : List (List Delivery)}
      {s' : Store} :
      (l.received bytes).1 = sent ++ lost →
      (l.received bytes).2.Dispatches s sent deliveries s' → EndsAtFailure lost deliveries →
      Serves l s (.write bytes) (.delivered deliveries.flatten) (l.received bytes).2 s'
  | log {r : Record} {ds : List Delivery} {s' : Store} :
      l.isEnabled s r.level = true →
      l.Dispatched s r.level r.message r.fields (r.caller?.bind l.reported) ds s' →
      Serves l s (.log r) (.logged r.reading ds) l s'
  | drop {r : Record} : l.isEnabled s r.level = false → Serves l s (.log r) .dropped l s
  | flush {sent lost : List Message} {deliveries : List (List Delivery)} {s' : Store} :
      l.released.1 = sent ++ lost →
      l.released.2.Dispatches s sent deliveries s' → EndsAtFailure lost deliveries →
      Serves l s .flush
        (.flushed deliveries.flatten (l.hooks.values.map fun h => s'.flush h.destination))
        l.released.2 s'

/-- A run told by its calls. -/
inductive ServesAll : Logger → Store → List BridgeCall → List Turn → Logger → Store → Prop where
  | nil (l : Logger) (s : Store) : ServesAll l s [] [] l s
  | cons {l l' l'' : Logger} {s s' s'' : Store} {c : BridgeCall} {rest : List BridgeCall}
      {t : Turn} {later : List Turn} :
      l.Serves s c t l' s' → ServesAll l' s' rest later l'' s'' →
      ServesAll l s (c :: rest) (t :: later) l'' s''

/-! ## Every run can be told -/

theorem hooks_released (l : Logger) : l.released.2.hooks = l.hooks := by
  unfold released
  split <;> rfl

theorem recorded_noting (l : Logger) (noted : List LogError) (result : Except LogError Unit) :
    (l.noting noted).recorded result = l.noting (noted ++ (failure? result).toList) := by
  cases result with
  | ok _ => exact congrArg l.noting (List.append_nil noted).symm
  | error error => rfl

/-- A record of a level that some hook accepts is told by its reading and its dispatch. -/
theorem exists_serves_log {l : Logger} (hl : l.Registered) (noted : List LogError) {s : Store}
    {r : Record} (henabled : l.isEnabled s r.level = true) :
    ∃ ds s', l.Serves s (.log r) (.logged r.reading ds) l s' ∧
      (l.noting noted).logRecord s r =
        (l.noting (noted ++ (Turn.logged r.reading ds).recorded), s') := by
  obtain ⟨ds, s', hds, hdispatch⟩ := exists_dispatched hl s r.level r.message r.fields
    (r.caller?.bind l.reported)
  refine ⟨ds, s', .log henabled hds, ?_⟩
  have hnoting : (l.noting noted).isEnabled s r.level = true := henabled
  rw [logRecord, if_pos hnoting, recorded_noting, Turn.recorded, ← List.append_assoc]
  -- The failure of the reading stands on record before those of the dispatch.
  exact congrArg Prod.snd (hdispatch (noted ++ (failure? r.reading).toList))

/-- A call is told by what is read, delivered and flushed, whatever failures are on record. -/
theorem exists_serves {l : Logger} (hl : l.Registered) (noted : List LogError) (s : Store)
    (c : BridgeCall) :
    ∃ t l' s', l.Serves s c t l' s' ∧ l'.Registered ∧
      (l.noting noted).serve s c = (l'.noting (noted ++ t.recorded), s') := by
  cases c with
  | write bytes =>
      obtain ⟨sent, lost, deliveries, s', hmessages, hdispatches, hends, hsend⟩ :=
        exists_dispatches (registered_received hl bytes) (l.received bytes).1 s
      refine ⟨_, _, s', .write hmessages hdispatches hends, registered_received hl bytes, ?_⟩
      rw [serve, Logger.write, received_noting]
      dsimp only
      rw [hsend]
      rfl
  | log r =>
      cases henabled : l.isEnabled s r.level with
      | true =>
          obtain ⟨ds, s', htold, hlog⟩ := exists_serves_log hl noted henabled
          exact ⟨_, l, s', htold, hl, hlog⟩
      | false =>
          have hnoting : ¬ (l.noting noted).isEnabled s r.level = true :=
            Bool.eq_false_iff.mp henabled
          refine ⟨.dropped, l, s, .drop henabled, hl, ?_⟩
          rw [serve, logRecord, if_neg hnoting, Turn.recorded, List.append_nil]
  | flush =>
      obtain ⟨sent, lost, deliveries, s', hmessages, hdispatches, hends, hsend⟩ :=
        exists_dispatches (registered_released hl) l.released.1 s
      refine ⟨_, _, s', .flush hmessages hdispatches hends, registered_released hl, ?_⟩
      rw [serve, flushRecords, Logger.flush, close, released_noting]
      dsimp only
      rw [hsend]
      dsimp only
      -- The logger that records the answer has the failures of the closing on record already.
      rw [recorded_noting, Turn.recorded, Turn.answer, List.filterMap_map, ← hooks_released l,
        List.append_assoc]
      rfl

theorem exists_servesAll {l : Logger} (hl : l.Registered) (noted : List LogError) (s : Store)
    (calls : List BridgeCall) :
    ∃ turns l' s', l.ServesAll s calls turns l' s' ∧
      (l.noting noted).serveAll s calls =
        (l'.noting (noted ++ turns.flatMap Turn.recorded), s') := by
  induction calls generalizing l noted s with
  | nil => exact ⟨[], l, s, .nil l s, by rw [List.flatMap_nil, List.append_nil]; rfl⟩
  | cons c rest ih =>
      obtain ⟨t, l', s', hcall, hl', hserve⟩ := exists_serves hl noted s c
      obtain ⟨later, l'', s'', hrest, hserveAll⟩ := ih hl' (noted ++ t.recorded) s'
      refine ⟨t :: later, l'', s'', .cons hcall hrest, ?_⟩
      rw [serveAll, hserve, List.flatMap_cons, ← List.append_assoc]
      exact hserveAll

/-! ## Failures on record and failures that happened -/

/-- What is on record is longer than what happened by what the flushes had to send. -/
theorem length_flattened_recorded (turns : List Turn) :
    (flattened (turns.flatMap Turn.recorded)).length =
      (flattened (turns.flatMap Turn.closing)).length
        + (flattened (turns.flatMap Turn.failures)).length := by
  induction turns with
  | nil => rfl
  | cons t rest ih =>
      simp only [List.flatMap_cons, flattened_append, List.length_append, ih,
        Turn.flattened_recorded]
      omega

theorem flattened_recorded_eq_iff (turns : List Turn) :
    flattened (turns.flatMap Turn.recorded) = flattened (turns.flatMap Turn.failures) ↔
      ∀ t ∈ turns, flattened t.closing = [] := by
  constructor
  · -- Equal lists have equal lengths, which leaves no room for what comes twice.
    intro h t ht
    have hlength := length_flattened_recorded turns
    rw [h] at hlength
    have hnone : flattened (turns.flatMap Turn.closing) = [] :=
      List.length_eq_zero_iff.mp (by omega)
    rw [flattened_flatMap] at hnone
    exact List.flatMap_eq_nil_iff.mp hnone t ht
  · intro h
    rw [flattened_flatMap, flattened_flatMap]
    refine List.flatMap_congr fun t ht => ?_
    rw [Turn.flattened_recorded, h t ht, List.nil_append]

/-- Every run is told by what is read, delivered and flushed, and adds to the failures on record
what the telling says.  With the lists among them resolved, these are the failures on record
before and one for each reading, each delivery and each flush that failed, in order, exactly if no
flush of the bridge had to send a part of a line of which a delivery failed. -/
theorem recorded_once_iff {l : Logger} (hl : l.Registered) (s : Store)
    (calls : List BridgeCall) :
    ∃ turns l' s', l.ServesAll s calls turns l' s' ∧
      l.serveAll s calls =
        ({ l' with errors := l.errors ++ turns.flatMap Turn.recorded }, s') ∧
      (flattened (l.errors ++ turns.flatMap Turn.recorded) =
          flattened (l.errors ++ turns.flatMap Turn.failures) ↔
        ∀ t ∈ turns, flattened t.closing = []) := by
  obtain ⟨turns, l', s', htold, hserveAll⟩ := exists_servesAll hl l.errors s calls
  refine ⟨turns, l', s', htold, hserveAll, ?_⟩
  rw [flattened_append, flattened_append, List.append_cancel_left_eq]
  exact flattened_recorded_eq_iff turns

/-- Record of a library with a value that can be read and one behind it that cannot. -/
def halfRead : Record where
  level := .info
  target := "library"
  message := "news"
  values := [("count", .int 1)]
  unreadable := some "closed"
  modulePath := none
  file := none
  line := none

/-- A line, a part of a line, a record of a library and a flush. -/
def bridgedCalls : List BridgeCall :=
  [.write (Text.bytesOf "[warn] two\nab"), .log halfRead, .flush]

theorem recorded_once_iff_faulty :
    faulty.Registered ∧
      (flattened (faulty.serveAll faultyStore bridgedCalls).1.errors).map LogError.message =
        ["disk full", "panics panicked: boom",
          "Invalid configuration for log bridge: cannot read key-values: closed", "disk full",
          "disk full", "panics panicked: boom", "disk full", "panics panicked: boom"] ∧
      ∃ turns l' s', faulty.ServesAll faultyStore bridgedCalls turns l' s' ∧
        faulty.serveAll faultyStore bridgedCalls =
          ({ l' with errors := faulty.errors ++ turns.flatMap Turn.recorded }, s') ∧
        (flattened (faulty.errors ++ turns.flatMap Turn.recorded) =
            flattened (faulty.errors ++ turns.flatMap Turn.failures) ↔
          ∀ t ∈ turns, flattened t.closing = []) := by
  have hregistered : faulty.Registered := registered_withHooks _ _ _
  refine ⟨hregistered, by decide +kernel, ?_⟩
  exact recorded_once_iff hregistered faultyStore bridgedCalls

/-- A part of a line is handed to each hook once, when the bridge flushes, but its two failures
stand on record twice. -/
theorem part_of_line_recorded_twice :
    (faulty.serveAll faultyStore [.write (Text.bytesOf "ab"), .flush]).2.buffers.content
        "record" = Text.bytesOf "ab" ∧
      (flattened (faulty.serveAll faultyStore
        [.write (Text.bytesOf "ab"), .flush]).1.errors).map LogError.message =
          ["disk full", "panics panicked: boom", "disk full", "panics panicked: boom"] := by
  decide +kernel

end Logger

end Hooklog
