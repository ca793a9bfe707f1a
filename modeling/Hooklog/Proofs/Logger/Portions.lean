import Hooklog.Proofs.Catcher.Chunks
import Hooklog.Proofs.Logger.Accounting

/-!
# Portions of written text

A write works through the lines that it completes and keeps the rest.  If the dispatch of one of
their messages fails, the messages after it are lost.

* `Logger.Dispatches` is a row of dispatches, each of which serves all hooks that accept its
  message.
* `Logger.WritesPortion` tells one write: the portion of the written bytes that it works through,
  the messages that it dispatched of them and those that it lost.
* `Logger.exists_writesPortion` says that every write of a catching logger is of this kind, and
  `Logger.exists_writesPortions` that writes work through the written bytes once, in order.
-/

namespace Hooklog

open Catcher Delivery

/-- What a write does with the lines that it completes. -/
structure Portion where
  /-- Bytes of these lines. -/
  complete : Text.Bytes
  /-- Messages that were dispatched. -/
  sent : List Message
  /-- Messages that were lost behind a failure. -/
  lost : List Message
  /-- Deliveries of each message that was dispatched. -/
  deliveries : List (List Delivery)

namespace Portion

/-- Failures of the deliveries, in order. -/
def failures (p : Portion) : List LogError := Delivery.failures p.deliveries.flatten

end Portion

/-- Dispatches end with the messages, or at the first one of which a delivery fails. -/
def EndsAtFailure (lost : List Message) (deliveries : List (List Delivery)) : Prop :=
  (lost = [] ∧ failures deliveries.flatten = []) ∨
    ∃ before last, deliveries = before ++ [last] ∧ failures before.flatten = [] ∧
      failures last ≠ []

namespace Logger

/-- Messages dispatched one after the other, each to all hooks that accept it. -/
inductive Dispatches (l : Logger) : Store → List Message → List (List Delivery) → Store → Prop where
  | nil (s : Store) : Dispatches l s [] [] s
  | cons {s s' s'' : Store} {m : Message} {rest : List Message} {ds : List Delivery}
      {later : List (List Delivery)} :
      l.Dispatched s m.level m.text .empty none ds s' → Dispatches l s' rest later s'' →
      Dispatches l s (m :: rest) (ds :: later) s''

/-- Sending messages dispatches them up to the first failure, and answers the failures of that
dispatch. -/
theorem exists_dispatches {l : Logger} (hl : l.Registered) (messages : List Message)
    (s : Store) :
    ∃ sent lost deliveries s', messages = sent ++ lost ∧ l.Dispatches s sent deliveries s' ∧
      EndsAtFailure lost deliveries ∧
      ∀ noted, sendAll messages (l.noting noted) s =
        (dispatchResult (failures deliveries.flatten),
          l.noting (noted ++ failures deliveries.flatten), s') := by
  induction messages generalizing s with
  | nil =>
      refine ⟨[], [], [], s, rfl, .nil s, Or.inl ⟨rfl, rfl⟩, fun noted => ?_⟩
      rw [List.flatten_nil, failures, List.filterMap_nil, List.append_nil]
      rfl
  | cons m rest ih =>
      obtain ⟨ds, s', hds, hdispatch⟩ := exists_dispatched hl s m.level m.text .empty none
      by_cases hfailures : failures ds = []
      · obtain ⟨sent, lost, later, s'', hrest, hlater, hends, hsend⟩ := ih s'
        refine ⟨m :: sent, lost, ds :: later, s'', by rw [hrest, List.cons_append],
          .cons hds hlater, ?_, fun noted => ?_⟩
        · rcases hends with ⟨hlost, hnone⟩ | ⟨before, last, hlast, hnone, hfailed⟩
          · refine Or.inl ⟨hlost, ?_⟩
            rw [List.flatten_cons, failures_append, hfailures, hnone, List.append_nil]
          · refine Or.inr ⟨ds :: before, last, by rw [hlast, List.cons_append], ?_, hfailed⟩
            rw [List.flatten_cons, failures_append, hfailures, hnone, List.append_nil]
        · rw [sendAll, hdispatch, hfailures, List.append_nil, List.flatten_cons, failures_append,
            hfailures, List.nil_append]
          exact hsend noted
      · refine ⟨[m], rest, [ds], s', rfl, .cons hds (.nil s'),
          Or.inr ⟨[], ds, rfl, rfl, hfailures⟩, fun noted => ?_⟩
        rw [List.flatten_cons, List.flatten_nil, List.append_nil, sendAll, hdispatch]
        obtain ⟨error, errors, heq⟩ := List.exists_cons_of_ne_nil hfailures
        rw [heq]
        rfl

/-- One write of a catching logger: it works through the bytes up to the last end of a line and
keeps the rest, dispatches the messages of these lines up to the first that fails, and answers
the failures of that dispatch. -/
structure WritesPortion (l : Logger) (s : Store) (bytes : Text.Bytes) (p : Portion) (l' : Logger)
    (s' : Store) : Prop where
  complete : p.complete = (splitComplete (l.pending ++ bytes)).1
  messages : p.sent ++ p.lost = messages l.printLevel (Text.decode p.complete)
  dispatches : l.Dispatches s p.sent p.deliveries s'
  ends : EndsAtFailure p.lost p.deliveries
  answer : l.write s bytes = ((dispatchResult p.failures).map fun _ => bytes.length, l', s')
  logger : l' = { l with
    pending := (splitComplete (l.pending ++ bytes)).2
    errors := l.errors ++ p.failures }

/-- Writes one after the other. -/
inductive WritesPortions : Logger → Store → List Text.Bytes → List Portion → Logger → Store →
    Prop where
  | nil (l : Logger) (s : Store) : WritesPortions l s [] [] l s
  | cons {l l' l'' : Logger} {s s' s'' : Store} {bytes : Text.Bytes} {rest : List Text.Bytes}
      {p : Portion} {later : List Portion} :
      l.WritesPortion s bytes p l' s' → WritesPortions l' s' rest later l'' s'' →
      WritesPortions l s (bytes :: rest) (p :: later) l'' s''

theorem exists_writesPortion {l : Logger} (hl : l.Registered) (hcatches : l.catches = true)
    (s : Store) (bytes : Text.Bytes) : ∃ p l' s', l.WritesPortion s bytes p l' s' := by
  have hreceived : l.received bytes =
      (messages l.printLevel (Text.decode (splitComplete (l.pending ++ bytes)).1),
        { l with pending := (splitComplete (l.pending ++ bytes)).2 }) := if_pos hcatches
  obtain ⟨sent, lost, deliveries, s', hmessages, hdispatches, hends, hsend⟩ := exists_dispatches hl
    (messages l.printLevel (Text.decode (splitComplete (l.pending ++ bytes)).1)) s
  refine ⟨⟨(splitComplete (l.pending ++ bytes)).1, sent, lost, deliveries⟩, _, s',
    ⟨rfl, hmessages.symm, hdispatches, hends, ?_, rfl⟩⟩
  rw [write, hreceived]
  dsimp only
  have hkeeping := sendAll_keeping
    (messages l.printLevel (Text.decode (splitComplete (l.pending ++ bytes)).1)) l
    (splitComplete (l.pending ++ bytes)).2 s
  have hsend : sendAll _ l s = _ := hsend l.errors
  rw [hsend] at hkeeping
  rw [keeping] at hkeeping
  rw [hkeeping]
  rfl

/-- A write leaves the hooks of a logger and its switches alone. -/
theorem WritesPortion.registered {l l' : Logger} {s s' : Store} {bytes : Text.Bytes}
    {p : Portion} (h : l.WritesPortion s bytes p l' s') (hl : l.Registered) : l'.Registered := by
  rw [h.logger]
  exact hl

theorem WritesPortion.catches {l l' : Logger} {s s' : Store} {bytes : Text.Bytes}
    {p : Portion} (h : l.WritesPortion s bytes p l' s') (hcatches : l.catches = true) :
    l'.catches = true := by
  rw [h.logger]
  exact hcatches

/-- The bytes that a write finds and takes are its portion and what is kept. -/
theorem WritesPortion.append_pending {l l' : Logger} {s s' : Store} {bytes : Text.Bytes}
    {p : Portion} (h : l.WritesPortion s bytes p l' s') :
    p.complete ++ l'.pending = l.pending ++ bytes := by
  rw [h.complete, h.logger]
  exact (splitComplete_spec (l.pending ++ bytes)).1

/-- Writes work through the written bytes once, in order. -/
theorem exists_writesPortions {l : Logger} (hl : l.Registered) (hcatches : l.catches = true)
    (s : Store) (chunks : List Text.Bytes) :
    ∃ portions l' s', l.WritesPortions s chunks portions l' s' ∧
      portions.flatMap Portion.complete ++ l'.pending = l.pending ++ chunks.flatten := by
  induction chunks generalizing l s with
  | nil => exact ⟨[], l, s, .nil l s, (List.append_nil _).symm⟩
  | cons bytes rest ih =>
      obtain ⟨p, l', s', hp⟩ := exists_writesPortion hl hcatches s bytes
      obtain ⟨later, l'', s'', hlater, hbytes⟩ := ih (hp.registered hl) (hp.catches hcatches) s'
      refine ⟨p :: later, l'', s'', .cons hp hlater, ?_⟩
      rw [List.flatMap_cons, List.append_assoc, hbytes, ← List.append_assoc, hp.append_pending,
        List.append_assoc, List.flatten_cons]

/-- Where nothing fails nothing is lost. -/
theorem lost_of_no_failure {lost : List Message} {deliveries : List (List Delivery)}
    (h : EndsAtFailure lost deliveries) (hnone : failures deliveries.flatten = []) :
    lost = [] := by
  rcases h with ⟨hlost, -⟩ | ⟨before, last, rfl, -, hfailed⟩
  · exact hlost
  · rw [List.flatten_append, failures_append, List.flatten_singleton] at hnone
    exact absurd (List.append_eq_nil_iff.mp hnone).2 hfailed

/-- A write that fails delivers a prefix and keeps the tail.  It dispatches the messages that the
same write dispatches where nothing fails, in the same order and each to all hooks that accept
it, up to the first one of which a delivery fails; the answer holds the failures of that one.
What is kept is in any case the part behind the last end of a line, and but for the failures on
record the logger is the one that a write without failures leaves behind.  Writes that follow
work through the bytes behind the portion of this one, once and in order, so nothing that was
lost is dispatched later. -/
theorem write_delivers_prefix {l : Logger} (hl : l.Registered) (hcatches : l.catches = true)
    (s : Store) (bytes : Text.Bytes) (later : List Text.Bytes) :
    ∃ p l' s' portions l'' s'', l.WritesPortion s bytes p l' s' ∧
      Text.Complete p.complete ∧ 10 ∉ l'.pending ∧
      (∀ s₀ p₀ l₀ s₀', l.WritesPortion s₀ bytes p₀ l₀ s₀' →
        (p₀.failures = [] → p₀.sent = p.sent ++ p.lost) ∧
          ∀ noted, l'.noting noted = l₀.noting noted) ∧
      l'.WritesPortions s' later portions l'' s'' ∧
      p.complete ++ portions.flatMap Portion.complete ++ l''.pending =
        l.pending ++ bytes ++ later.flatten := by
  obtain ⟨p, l', s', hp⟩ := exists_writesPortion hl hcatches s bytes
  obtain ⟨portions, l'', s'', hlater, hbytes⟩ :=
    exists_writesPortions (hp.registered hl) (hp.catches hcatches) s' later
  obtain ⟨-, htail, hcomplete⟩ := splitComplete_spec (l.pending ++ bytes)
  refine ⟨p, l', s', portions, l'', s'', hp, hp.complete ▸ hcomplete, ?_, ?_, hlater, ?_⟩
  · rw [hp.logger]
    exact htail
  · intro s₀ p₀ l₀ s₀' hp₀
    refine ⟨fun hnone => ?_, fun noted => ?_⟩
    · have hall := hp₀.messages
      rw [lost_of_no_failure hp₀.ends hnone, List.append_nil, hp₀.complete] at hall
      rw [hall, hp.messages, hp.complete]
    · rw [hp.logger, hp₀.logger]
      rfl
  · rw [List.append_assoc, hbytes, ← List.append_assoc, hp.append_pending]

/-- Two lines, of which the first goes to the failing applications, and the start of a third. -/
def failingLines : Text.Bytes := Text.bytesOf "[warn] two\nthree\nfo"

theorem write_delivers_prefix_faulty :
    faulty.Registered ∧ faulty.catches = true ∧
      (faulty.write faultyStore failingLines).2.1.pending = Text.bytesOf "fo" ∧
      (faulty.write faultyStore failingLines).2.2.buffers.content "record" =
        Text.bytesOf "two" ∧
      ∃ p l' s' portions l'' s'', faulty.WritesPortion faultyStore failingLines p l' s' ∧
        Text.Complete p.complete ∧ 10 ∉ l'.pending ∧
        (∀ s₀ p₀ l₀ s₀', faulty.WritesPortion s₀ failingLines p₀ l₀ s₀' →
          (p₀.failures = [] → p₀.sent = p.sent ++ p.lost) ∧
            ∀ noted, l'.noting noted = l₀.noting noted) ∧
        l'.WritesPortions s' [Text.bytesOf "ur\n"] portions l'' s'' ∧
        p.complete ++ portions.flatMap Portion.complete ++ l''.pending =
          faulty.pending ++ failingLines ++ [Text.bytesOf "ur\n"].flatten := by
  have hregistered : faulty.Registered := registered_withHooks _ _ _
  refine ⟨hregistered, rfl, by decide +kernel, by decide +kernel, ?_⟩
  exact write_delivers_prefix hregistered rfl faultyStore failingLines [Text.bytesOf "ur\n"]

end Logger

end Hooklog
