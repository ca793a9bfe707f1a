import Hooklog.Proofs.Logger.Deliveries
import Hooklog.Proofs.Logger.Runs

/-!
# Failures on record

A logger keeps the failures of its deliveries until somebody clears them.  `Recounted` tells a
run by the deliveries that it makes; the logger of the telling keeps no failures.  The main
statement says that every run can be told in this way, and that the failures on record are at
each moment those that the telling leaves outstanding.
-/

namespace Hooklog

open Catcher Delivery

/-- What there is to tell of a run: the deliveries of one dispatch, or that the failures on
record were forgotten. -/
inductive Event where
  | dispatched (ds : List Delivery)
  | cleared

/-- Failures on record after some events: those of the deliveries since the last clearing, in
order; if nothing was cleared, behind those on record before. -/
def outstanding (noted : List LogError) : List Event → List LogError
  | [] => noted
  | .dispatched ds :: rest => outstanding (noted ++ failures ds) rest
  | .cleared :: rest => outstanding [] rest

theorem outstanding_append (noted : List LogError) (past events : List Event) :
    outstanding noted (past ++ events) = outstanding (outstanding noted past) events := by
  induction past generalizing noted with
  | nil => rfl
  | cons event rest ih =>
      cases event with
      | dispatched ds => exact ih (noted ++ failures ds)
      | cleared => exact ih []

namespace Logger

/-- Messages sent one after the other: each is dispatched, and the first dispatch that fails is
the last one, whose failures are the answer. -/
inductive Sends (l : Logger) :
    Store → List Message → List Event → Except LogError Unit → Store → Prop where
  | done (s : Store) : Sends l s [] [] (.ok ()) s
  | next {s s' s'' : Store} {m : Message} {rest : List Message} {ds : List Delivery}
      {events : List Event} {result : Except LogError Unit} :
      l.Dispatched s m.level m.text .empty none ds s' → failures ds = [] →
      Sends l s' rest events result s'' →
      Sends l s (m :: rest) (.dispatched ds :: events) result s''
  | failed {s s' : Store} {m : Message} {rest : List Message} {ds : List Delivery} :
      l.Dispatched s m.level m.text .empty none ds s' → failures ds ≠ [] →
      Sends l s (m :: rest) [.dispatched ds] (.error (.dispatch (failures ds))) s'

/-- One call with some failures on record, told by its events: what it answers, and what it
leaves of the logger and the store. -/
inductive Recounts (noted : List LogError) (l : Logger) (s : Store) :
    Call → List Event → Answer → Logger → Store → Prop where
  | log {caller : Caller} {level : Level} {message : String} {ds : List Delivery} {s' : Store} :
      l.Dispatched s level message .empty (l.reported caller) ds s' →
      Recounts noted l s (.log caller level message) [.dispatched ds] .nothing l s'
  | logFields {caller : Caller} {level : Level} {fields : Fields} {message : String}
      {ds : List Delivery} {s' : Store} :
      l.Dispatched s level message fields (l.reported caller) ds s' →
      Recounts noted l s (.logFields caller level fields message) [.dispatched ds] .nothing l s'
  | print {caller : Caller} {message : String} {ds : List Delivery} {s' : Store} :
      l.Dispatched s l.printLevel message .empty (l.reported caller) ds s' →
      Recounts noted l s (.print caller message) [.dispatched ds] .nothing l s'
  | write {bytes : Text.Bytes} {events : List Event} {result : Except LogError Unit}
      {s' : Store} :
      (l.received bytes).2.Sends s (l.received bytes).1 events result s' →
      Recounts noted l s (.write bytes) events (.count (result.map fun _ => bytes.length))
        (l.received bytes).2 s'
  | setCatches {catches : Bool} :
      Recounts noted l s (.setCatches catches) [] .nothing { l with catches := catches } s
  | close {events : List Event} {result : Except LogError Unit} {s' : Store} :
      l.released.2.Sends s l.released.1 events result s' →
      Recounts noted l s .close events (.result result) l.released.2 s'
  | flush {events : List Event} {result : Except LogError Unit} {s' : Store} :
      l.released.2.Sends s l.released.1 events result s' →
      Recounts noted l s .flush events
        (.result (dispatchResult ((failure? result).toList
          ++ l.released.2.hooks.values.filterMap fun h => failure? (s'.flush h.destination))))
        l.released.2 s'
  | getError : Recounts noted l s .getError [] (.result (dispatchResult noted)) l s
  | clearError : Recounts noted l s .clearError [.cleared] (.result (dispatchResult noted)) l s

/-- A run from some failures on record, told by its events. -/
inductive Recounted : List LogError → Logger → Store → List Call → List Event → List Answer →
    Logger → Store → Prop where
  | nil (noted : List LogError) (l : Logger) (s : Store) : Recounted noted l s [] [] [] l s
  | cons {noted : List LogError} {l l' l'' : Logger} {s s' s'' : Store} {c : Call}
      {rest : List Call} {events later : List Event} {answer : Answer} {answers : List Answer} :
      Recounts noted l s c events answer l' s' →
      Recounted (outstanding noted events) l' s' rest later answers l'' s'' →
      Recounted noted l s (c :: rest) (events ++ later) (answer :: answers) l'' s''

/-! ## Every run can be told -/

/-- Sending messages is told by their dispatches, whatever failures are on record. -/
theorem exists_sends {l : Logger} (hl : l.Registered) (messages : List Message) (s : Store) :
    ∃ events result s', l.Sends s messages events result s' ∧
      ∀ noted, sendAll messages (l.noting noted) s =
        (result, l.noting (outstanding noted events), s') := by
  induction messages generalizing s with
  | nil => exact ⟨[], .ok (), s, .done s, fun _ => rfl⟩
  | cons m rest ih =>
      obtain ⟨ds, s', hds, hdispatch⟩ := exists_dispatched hl s m.level m.text .empty none
      cases hfailures : failures ds with
      | nil =>
          obtain ⟨events, result, s'', hsends, hsend⟩ := ih s'
          refine ⟨.dispatched ds :: events, result, s'', .next hds hfailures hsends, ?_⟩
          intro noted
          rw [sendAll, hdispatch, hfailures, dispatchResult, outstanding, hfailures]
          exact hsend _
      | cons error errors =>
          have hfailed : failures ds ≠ [] := by rw [hfailures]; exact List.cons_ne_nil _ _
          refine ⟨[.dispatched ds], _, s', .failed hds hfailed, fun noted => ?_⟩
          rw [sendAll, hdispatch, hfailures]
          simp only [dispatchResult, outstanding, hfailures]

theorem received_noting (l : Logger) (noted : List LogError) (bytes : Text.Bytes) :
    (l.noting noted).received bytes =
      ((l.received bytes).1, (l.received bytes).2.noting noted) := by
  rw [received, received]
  split <;> rename_i hcatches
  · rw [if_pos (show l.catches = true from hcatches)]
    rfl
  · rw [if_neg (show ¬ l.catches = true from hcatches)]
    rfl

theorem released_noting (l : Logger) (noted : List LogError) :
    (l.noting noted).released = (l.released.1, l.released.2.noting noted) := by
  rw [released, released]
  split <;> rename_i hkept
  · rw [if_pos (show (l.pending.isEmpty || !l.catches) = true from hkept)]
  · rw [if_neg (show ¬ (l.pending.isEmpty || !l.catches) = true from hkept)]
    rfl

theorem registered_received {l : Logger} (hl : l.Registered) (bytes : Text.Bytes) :
    (l.received bytes).2.Registered := by
  rw [received]
  split <;> exact hl

theorem registered_released {l : Logger} (hl : l.Registered) : l.released.2.Registered := by
  rw [released]
  split <;> exact hl

/-- A call is told by its events, whatever failures are on record. -/
theorem exists_recounts {l : Logger} (hl : l.Registered) (noted : List LogError) (s : Store)
    (c : Call) :
    ∃ events answer l' s', Recounts noted l s c events answer l' s' ∧ l'.Registered ∧
      (l.noting noted).perform s c = (answer, l'.noting (outstanding noted events), s') := by
  cases c with
  | log caller level message =>
      obtain ⟨ds, s', hds, hdispatch⟩ :=
        exists_dispatched hl s level message .empty (l.reported caller)
      exact ⟨_, _, l, s', .log hds, hl, congrArg (Prod.mk _) (congrArg Prod.snd (hdispatch noted))⟩
  | logFields caller level fields message =>
      obtain ⟨ds, s', hds, hdispatch⟩ :=
        exists_dispatched hl s level message fields (l.reported caller)
      exact ⟨_, _, l, s', .logFields hds, hl,
        congrArg (Prod.mk _) (congrArg Prod.snd (hdispatch noted))⟩
  | print caller message =>
      obtain ⟨ds, s', hds, hdispatch⟩ :=
        exists_dispatched hl s l.printLevel message .empty (l.reported caller)
      exact ⟨_, _, l, s', .print hds, hl,
        congrArg (Prod.mk _) (congrArg Prod.snd (hdispatch noted))⟩
  | write bytes =>
      obtain ⟨events, result, s', hsends, hsend⟩ :=
        exists_sends (registered_received hl bytes) (l.received bytes).1 s
      refine ⟨events, _, _, s', .write hsends, registered_received hl bytes, ?_⟩
      rw [perform, Logger.write, received_noting]
      dsimp only
      rw [hsend]
  | setCatches catches => exact ⟨_, _, _, s, .setCatches, hl, rfl⟩
  | close =>
      obtain ⟨events, result, s', hsends, hsend⟩ :=
        exists_sends (registered_released hl) l.released.1 s
      refine ⟨events, _, _, s', .close hsends, registered_released hl, ?_⟩
      rw [perform, Logger.close, released_noting]
      dsimp only
      rw [hsend]
  | flush =>
      obtain ⟨events, result, s', hsends, hsend⟩ :=
        exists_sends (registered_released hl) l.released.1 s
      refine ⟨events, _, _, s', .flush hsends, registered_released hl, ?_⟩
      rw [perform, Logger.flush, Logger.close, released_noting]
      dsimp only
      rw [hsend]
      rfl
  | getError => exact ⟨_, _, l, s, .getError, hl, rfl⟩
  | clearError => exact ⟨_, _, l, s, .clearError, hl, rfl⟩

theorem exists_recounted {l : Logger} (hl : l.Registered) (noted : List LogError) (s : Store)
    (calls : List Call) :
    ∃ events answers l' s', Recounted noted l s calls events answers l' s' ∧
      (l.noting noted).run s calls = (answers, l'.noting (outstanding noted events), s') := by
  induction calls generalizing l noted s with
  | nil => exact ⟨[], [], l, s, .nil noted l s, rfl⟩
  | cons c rest ih =>
      obtain ⟨events, answer, l', s', hcall, hl', hperform⟩ := exists_recounts hl noted s c
      obtain ⟨later, answers, l'', s'', hrest, hrun⟩ := ih hl' (outstanding noted events) s'
      refine ⟨events ++ later, answer :: answers, l'', s'', .cons hcall hrest, ?_⟩
      rw [run, hperform, outstanding_append]
      dsimp only
      rw [hrun]

/-- Every run on a logger that starts with some failures on record can be told by its events:
every dispatch serves the accepting hooks once each, in the order of their names, and answers
the failures of its own deliveries.  After the run the failures on record are those that the
events leave outstanding; as each part of a run is a run, they are so at every moment. -/
theorem run_recounted {l : Logger} (hl : l.Registered) (s : Store) (calls : List Call) :
    ∃ events answers l' s', Recounted l.errors l s calls events answers l' s' ∧
      l.run s calls = (answers, { l' with errors := outstanding l.errors events }, s') :=
  exists_recounted hl l.errors s calls

/-- Store with an application that fails, one that writes every entry to a buffer, and one that
panics. -/
def faultyStore : Store :=
  let answering (respond : Nat → Entry → Response) : Destination := .application
    { identity := "app", levels := none, acceptsPrint := true, respond := respond, received := 0 }
  { Store.new (.ofConfig .empty ⟨0, 0⟩ false) ⟨0, 0⟩ "work" with
    destinations :=
      [answering fun _ _ => .fails (.io "disk full"),
        answering fun _ e => .writes "record" e.message,
        answering fun _ _ => .stops (.thrown "boom")] }

/-- Logger of these applications, the one that panics for warnings only. -/
def faulty : Logger :=
  withHooks faultyStore.settings "" [⟨"writes", .trace, 1⟩, ⟨"panics", .warning, 2⟩,
    ⟨"fails", .trace, 0⟩]

/-- A write of two lines, of which the first fails, between two logged messages. -/
def faultyCalls : List Call :=
  [.log ⟨"", "", 0⟩ .info "one", .clearError, .write (Text.bytesOf "[warn] two\nthree\n"),
    .getError, .log ⟨"", "", 0⟩ .info "four"]

theorem run_recounted_faulty :
    faulty.Registered ∧
      (faulty.run faultyStore faultyCalls).2.1.errors.map LogError.message =
        ["disk full", "panics panicked: boom", "disk full"] ∧
      (faulty.run faultyStore faultyCalls).2.2.buffers.content "record" =
        Text.bytesOf "onetwofour" ∧
      ∃ events answers l' s',
        Recounted faulty.errors faulty faultyStore faultyCalls events answers l' s' ∧
          faulty.run faultyStore faultyCalls =
            (answers, { l' with errors := outstanding faulty.errors events }, s') := by
  have hregistered : faulty.Registered := registered_withHooks _ _ _
  refine ⟨hregistered, by decide +kernel, by decide +kernel, ?_⟩
  exact run_recounted hregistered faultyStore faultyCalls

end Logger

end Hooklog
