import Hooklog.Proofs.Catcher.Chunks
import Hooklog.Proofs.Logger.Deliveries
import Mathlib.Data.List.Flatten
import Mathlib.Data.List.TakeDrop

/-!
# Flushing

A logger that is flushed sends what it keeps of a line and then flushes its hooks one by one, in
the order of their names.  No hook is left out because of a failure before it.  Within a hook it
is different: a console has two writers, and if the first one fails the second one is neither
flushed nor reported.

* `Writer.flushAll_eq_self_iff` and `Writer.failure?_flushAll` say which writers of a row are
  tried and which failure is answered.
* `Hook.flushes_all_iff` and `Hook.reports_all_iff` read this off for the destination of a hook.
* `Logger.flush_reports_iff` is the main statement.
-/

namespace Hooklog

/-! ## Rows of writers -/

namespace Writer

/-- How the flush of a writer fails, if it does. -/
def failure? (w : Writer) : Option LogError := Logger.failure? w.flush

/-- One failure for each writer of which the flush fails, in order. -/
def failures (writers : List Writer) : List LogError := writers.filterMap failure?

theorem failure?_eq_none_iff {w : Writer} : w.failure? = none ↔ w.flush = .ok () := by
  rw [failure?]
  cases w.flush <;> simp [Logger.failure?]

theorem failure?_stream (s : Stream) :
    (Writer.stream s).failure? =
      s.flushFailure.map fun text => .hook Console.identity (.io text) := by
  rw [failure?, flush, Stream.flush]
  cases s.flushFailure <;> rfl

theorem failures_eq_nil_iff {writers : List Writer} :
    failures writers = [] ↔ ∀ w ∈ writers, w.flush = .ok () := by
  rw [failures, List.filterMap_eq_nil_iff]
  exact forall₂_congr fun _ _ => failure?_eq_none_iff

theorem flushAll_of_ok {w : Writer} (h : w.flush = .ok ()) (rest : List Writer) :
    flushAll (w :: rest) = (w :: (flushAll rest).1, (flushAll rest).2) := by
  rw [flushAll, h]

theorem flushAll_of_error {w : Writer} {error : LogError} (h : w.flush = .error error)
    (rest : List Writer) : flushAll (w :: rest) = ([w], .error error) := by
  rw [flushAll, h]

/-- A row answers the first failure. -/
theorem failure?_flushAll (writers : List Writer) :
    Logger.failure? (flushAll writers).2 = (failures writers).head? := by
  induction writers with
  | nil => rfl
  | cons w rest ih =>
      cases hw : w.flush with
      | ok _ =>
          rw [flushAll_of_ok hw, ih, failures, failures,
            List.filterMap_cons_none (failure?_eq_none_iff.mpr hw)]
      | error error =>
          have hfailure : w.failure? = some error := by rw [failure?, hw]; rfl
          rw [flushAll_of_error hw, failures, List.filterMap_cons_some hfailure]
          rfl

/-- All writers of a row are tried if none but the last one fails. -/
theorem flushAll_eq_self_iff (writers : List Writer) :
    (flushAll writers).1 = writers ↔ ∀ w ∈ writers.dropLast, w.flush = .ok () := by
  induction writers with
  | nil => simp [flushAll]
  | cons w rest ih =>
      cases rest with
      | nil => cases hw : w.flush <;> simp [flushAll, hw]
      | cons next rest =>
          rw [List.dropLast_cons_cons, List.forall_mem_cons]
          cases hw : w.flush with
          | ok _ =>
              rw [flushAll_of_ok hw, List.cons_inj_right, ih]
              exact (and_iff_right rfl).symm
          | error error =>
              rw [flushAll_of_error hw]
              simp

end Writer

/-! ## Destinations -/

namespace Hook

open Writer

variable (h : Hook) (s : Store)

/-- Writers of the destination that are tried when the hook is flushed. -/
def flushed : List Writer := (flushAll (s.writers h.destination)).1

/-- All writers of a destination are tried, except those of a console of which the stream of
formatted entries fails. -/
theorem flushes_all_iff :
    h.flushed s = s.writers h.destination ↔
      ∀ c, h.console? s = some c → c.log.flushFailure = none := by
  rw [flushed, flushAll_eq_self_iff, Store.writers, console?]
  cases s.destinations[h.destination]? with
  | none => simp
  | some d =>
      cases d with
      | console c =>
          simp only [Destination.writers, List.dropLast_cons_cons, List.dropLast_singleton,
            List.forall_mem_singleton, Option.some.injEq, forall_eq']
          rw [flush, Stream.flush]
          cases c.log.flushFailure <;> simp
      | logFile f => cases hopened : f.opened.isSome <;> simp [Destination.writers, hopened]
      | application a => simp [Destination.writers]

/-- A destination has several failures to report only if it is a console of which both streams
fail. -/
theorem reports_all_iff :
    (failures (s.writers h.destination)).length ≤ 1 ↔
      ∀ c, h.console? s = some c → c.log.flushFailure = none ∨ c.out.flushFailure = none := by
  have hsingle : ∀ {writers : List Writer}, writers.length ≤ 1 → (failures writers).length ≤ 1 :=
    fun hlength => Nat.le_trans (List.length_filterMap_le _ _) hlength
  rw [Store.writers, console?]
  cases s.destinations[h.destination]? with
  | none => simp [failures]
  | some d =>
      cases d with
      | console c =>
          simp only [Destination.writers, Option.some.injEq, forall_eq', failures,
            List.filterMap_cons, failure?_stream, List.filterMap_nil]
          cases c.log.flushFailure <;> cases c.out.flushFailure <;> simp
      | logFile f =>
          have hlength : (Destination.logFile f).writers.length ≤ 1 := by
            rw [Destination.writers]
            split <;> simp
          simpa using hsingle hlength
      | application a =>
          have hlength : (Destination.application a).writers.length ≤ 1 := Nat.le_refl 1
          simpa using hsingle hlength

/-- A hook reports its first failure. -/
theorem failure?_flush :
    (Logger.failure? (s.flush h.destination)).toList =
      (failures (s.writers h.destination)).take 1 := by
  rw [Store.flush, failure?_flushAll, List.take_one]

end Hook

/-! ## Answers -/

theorem dispatchResult_eq_ok_iff {errors : List LogError} :
    dispatchResult errors = .ok () ↔ errors = [] := by
  cases errors <;> simp [dispatchResult]

theorem dispatchResult_inj {errors errors' : List LogError} :
    dispatchResult errors = dispatchResult errors' ↔ errors = errors' := by
  cases errors <;> cases errors' <;> simp [dispatchResult]

/-- Parts that are put together make up the same as longer ones only if none of them is
shorter. -/
theorem flatMap_eq_iff_of_sublist {α β : Type} {f g : α → List β} (hsub : ∀ a, (f a).Sublist (g a))
    (l : List α) : l.flatMap f = l.flatMap g ↔ ∀ a ∈ l, f a = g a := by
  induction l with
  | nil => simp
  | cons a rest ih =>
      rw [List.flatMap_cons, List.flatMap_cons, List.forall_mem_cons, ← ih]
      constructor
      · intro hsame
        have hrest : (rest.flatMap f).Sublist (rest.flatMap g) :=
          List.Sublist.flatMap_right rest fun a _ => hsub a
        have hlength := congrArg List.length hsame
        rw [List.length_append, List.length_append] at hlength
        have hfirst : f a = g a :=
          (hsub a).eq_of_length_le (by have := hrest.length_le; omega)
        rw [hfirst] at hsame
        exact ⟨hfirst, List.append_cancel_left hsame⟩
      · rintro ⟨hfirst, hrest⟩
        rw [hfirst, hrest]

namespace Logger

theorem hooks_close (l : Logger) (s : Store) : (l.close s).2.1.hooks = l.hooks := by
  obtain ⟨errors, herrors⟩ := sendAll_logger l.released.1 l.released.2 s
  have hhooks : l.released.2.hooks = l.hooks := by
    rw [released]
    split <;> rfl
  exact (congrArg Logger.hooks herrors).trans hhooks

theorem failure?_eq_none_iff {result : Except LogError Unit} :
    failure? result = none ↔ result = .ok () := by
  cases result <;> simp [failure?]

/-- A flush answers the failure of the close and the first failure of each hook. -/
theorem flush_eq (l : Logger) (s : Store) :
    l.flush s =
      (dispatchResult ((failure? (l.close s).1).toList ++ l.hooks.values.flatMap fun h =>
          (Writer.failures ((l.close s).2.2.writers h.destination)).take 1),
        (l.close s).2) := by
  have hhooks : ∀ hooks : List Hook,
      (hooks.filterMap fun h => failure? ((l.close s).2.2.flush h.destination)) =
        hooks.flatMap fun h =>
          (Writer.failures ((l.close s).2.2.writers h.destination)).take 1 := by
    intro hooks
    rw [List.filterMap_eq_flatMap_toList]
    exact List.flatMap_congr fun h _ => h.failure?_flush _
  have hvalues : (l.close s).2.1.hooks.values = l.hooks.values :=
    congrArg SortedMap.values (l.hooks_close s)
  rw [← hvalues, ← hhooks]
  rfl

/-- A flush passes over no hook, but it may pass over a stream.  It closes the logger and then
flushes every hook in ascending order of the names; the answer holds the failure of the close,
and then the first failure of each hook.  It is a success exactly if the close succeeds and no
writer of a hook fails.  Every writer of every hook is tried exactly if no console fails to flush
its stream of formatted entries; and the answer holds a failure for each writer that fails, and
is this list, exactly if no console fails to flush both of its streams. -/
theorem flush_reports_iff {l : Logger} (hl : l.Registered) (s : Store) :
    let closed := l.close s
    let s' := closed.2.2
    let closing := (failure? closed.1).toList
    (l.hooks.values.map Hook.name).Pairwise (· < ·) ∧
    l.flush s = (dispatchResult (closing ++ l.hooks.values.flatMap fun h =>
      (Writer.failures (s'.writers h.destination)).take 1), closed.2) ∧
    ((l.flush s).1 = .ok () ↔
      closed.1 = .ok () ∧
        ∀ h ∈ l.hooks.values, ∀ w ∈ s'.writers h.destination, w.flush = .ok ()) ∧
    ((∀ h ∈ l.hooks.values, h.flushed s' = s'.writers h.destination) ↔
      ∀ h ∈ l.hooks.values, ∀ c, h.console? s' = some c → c.log.flushFailure = none) ∧
    ((l.flush s).1 = dispatchResult (closing ++ l.hooks.values.flatMap fun h =>
        Writer.failures (s'.writers h.destination)) ↔
      ∀ h ∈ l.hooks.values, ∀ c, h.console? s' = some c →
        c.log.flushFailure = none ∨ c.out.flushFailure = none) := by
  intro closed s' closing
  have hflush := l.flush_eq s
  refine ⟨pairwise_values hl, hflush, ?_, ?_, ?_⟩
  · rw [hflush, dispatchResult_eq_ok_iff, List.append_eq_nil_iff, Option.toList_eq_nil_iff,
      failure?_eq_none_iff, List.flatMap_eq_nil_iff]
    refine and_congr_right fun _ => forall₂_congr fun h _ => ?_
    rw [← Writer.failures_eq_nil_iff, List.take_eq_nil_iff, or_iff_right Nat.one_ne_zero]
  · exact forall₂_congr fun h _ => h.flushes_all_iff s'
  · rw [hflush, dispatchResult_inj, List.append_cancel_left_eq,
      flatMap_eq_iff_of_sublist fun h => List.take_sublist 1 _]
    refine forall₂_congr fun h _ => ?_
    rw [List.take_eq_self_iff, h.reports_all_iff]

/-- Store with a console that fails to flush one of its streams, and an application that fails to
take entries and to flush. -/
def leakingStore : Store :=
  { Store.new (.ofConfig .empty ⟨0, 0⟩ false) ⟨0, 0⟩ "work" with
    destinations :=
      [.console ⟨⟨.buffer "stderr", some "log lost"⟩, .ofBuffer "stdout", 0⟩,
        .application
          { identity := "app", levels := none, acceptsPrint := true,
            respond := fun _ _ => .fails (.io "disk full"), received := 0,
            flushFailure := some (.io "app lost") }] }

/-- Logger of both, which keeps a part of a line. -/
def leaking : Logger :=
  { withHooks leakingStore.settings "" [⟨"console", .trace, 0⟩, ⟨"app", .trace, 1⟩] with
    pending := Text.bytesOf "part" }

theorem flush_reports_iff_leaking :
    let closed := leaking.close leakingStore
    leaking.Registered ∧
      (failure? (leaking.flush leakingStore).1).map LogError.message =
        some "disk full\napp lost\nConsoleHook: log lost" ∧
      (leaking.flush leakingStore).1 ≠ .ok () ∧
      (leaking.flush leakingStore).1 =
        dispatchResult ((failure? closed.1).toList ++ leaking.hooks.values.flatMap fun h =>
          Writer.failures (closed.2.2.writers h.destination)) ∧
      ¬ ∀ h ∈ leaking.hooks.values, h.flushed closed.2.2 = closed.2.2.writers h.destination := by
  intro closed
  have hregistered : leaking.Registered := registered_withHooks leakingStore.settings "" _
  obtain ⟨-, -, hok, htried, hreported⟩ := flush_reports_iff hregistered leakingStore
  have hclosed : closed.1 ≠ .ok () := by
    rw [Ne, ← failure?_eq_none_iff, ← Option.isNone_iff_eq_none]
    decide +kernel
  have hconsoles : ∀ h ∈ leaking.hooks.values,
      (h.console? closed.2.2).all (fun c => c.out.flushFailure = none) = true := by
    decide +kernel
  have hconsole : ∃ h ∈ leaking.hooks.values,
      (h.console? closed.2.2).any (fun c => c.log.flushFailure ≠ none) = true := by
    decide +kernel
  refine ⟨hregistered, by decide +kernel, fun h => hclosed (hok.mp h).1, hreported.mpr ?_, ?_⟩
  · intro h hmem c hc
    have hout := hconsoles h hmem
    rw [hc] at hout
    exact Or.inr (of_decide_eq_true hout)
  · rw [htried]
    intro hnone
    obtain ⟨h, hmem, hlog⟩ := hconsole
    cases hc : h.console? closed.2.2 with
    | none =>
        rw [hc] at hlog
        exact absurd hlog (by simp)
    | some c =>
        rw [hc] at hlog
        exact of_decide_eq_true hlog (hnone h hmem c hc)

/-- A console of which both streams fail is left after the first one: the second one is not
flushed, and its failure is not answered. -/
theorem second_stream_not_flushed :
    let c : Console := ⟨⟨.buffer "stderr", some "log lost"⟩, ⟨.buffer "stdout", some "out lost"⟩, 0⟩
    let s : Store :=
      { Store.new (.ofConfig .empty ⟨0, 0⟩ false) ⟨0, 0⟩ "work" with destinations := [.console c] }
    let h : Hook := ⟨Hook.defaultConsole, .trace, 0⟩
    let l := withHooks s.settings "" [h]
    l.Registered ∧ l.hooks.values = [h] ∧ (l.close s).1 = .ok () ∧
      s.writers h.destination = [.stream c.log, .stream c.out] ∧
      h.flushed s = [.stream c.log] ∧
      Writer.failures (s.writers h.destination) =
        [.hook Console.identity (.io "log lost"), .hook Console.identity (.io "out lost")] ∧
      (l.flush s).1 = .error (.dispatch [.hook Console.identity (.io "log lost")]) := by
  intro c s h l
  exact ⟨registered_withHooks _ _ _, rfl, rfl, rfl, rfl, rfl, rfl⟩

end Logger

end Hooklog
