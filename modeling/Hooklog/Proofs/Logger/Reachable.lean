import Hooklog.Logger.Derivation
import Hooklog.Proofs.Logger.Deliveries
import Hooklog.Proofs.Logger.Runs
import Hooklog.Proofs.Store.Reachable

/-!
# Loggers that a process can have

The hooks of a logger have been made in its process, and nothing else about it matters for the
stores that its calls lead to.  `Logger.Reachable` is kept by every run of calls on the logger
(`Reachable.run`) and by the derivation of other loggers (`Reachable.derive`).
-/

namespace Hooklog

theorem Store.Reachable.fireAll {made hooks : List Hook} {s : Store} (h : s.Reachable made)
    (hhooks : ∀ hook ∈ hooks, hook ∈ made) (e : Entry) :
    (Hook.fireAll e hooks s).2.Reachable made := by
  induction hooks generalizing s with
  | nil => exact h
  | cons hook rest ih =>
      obtain ⟨hhook, hrest⟩ := List.forall_mem_cons.mp hhooks
      rw [Hook.fireAll_store]
      exact ih (h.deliver e hhook) hrest

namespace Logger

/-- The hooks of a logger have been made in the process that has come to a store. -/
def Reachable (l : Logger) (s : Store) : Prop :=
  ∃ made, s.Reachable made ∧ ∀ h ∈ l.hooks.values, h ∈ made

namespace Reachable

variable {l : Logger} {s : Store}

theorem congr {l' : Logger} (h : l.Reachable s) (hhooks : l'.hooks = l.hooks) :
    l'.Reachable s := by
  obtain ⟨made, hs, hmade⟩ := h
  exact ⟨made, hs, hhooks ▸ hmade⟩

theorem dispatch (h : l.Reachable s) (level : Level) (message : String) (fields : Fields)
    (caller : Option Caller) :
    (l.dispatch s level message fields caller).2.1.Reachable
      (l.dispatch s level message fields caller).2.2 := by
  obtain ⟨made, hs, hmade⟩ := h
  exact ⟨made, hs.fireAll (fun hook hhook => hmade hook (List.mem_filter.mp hhook).1) _, hmade⟩

theorem sendAll (h : l.Reachable s) (messages : List Catcher.Message) :
    (sendAll messages l s).2.1.Reachable (sendAll messages l s).2.2 := by
  induction messages generalizing l s with
  | nil => exact h
  | cons m rest ih =>
      have hdispatch := h.dispatch m.level m.text .empty none
      rw [Logger.sendAll]
      split
      · rename_i done l' s' heq
        rw [heq] at hdispatch
        exact ih hdispatch
      · rename_i error l' s' heq
        rw [heq] at hdispatch
        exact hdispatch

theorem close (h : l.Reachable s) : (l.close s).2.1.Reachable (l.close s).2.2 := by
  have hhooks : l.released.2.hooks = l.hooks := by
    rw [released]
    split <;> rfl
  exact (h.congr hhooks).sendAll l.released.1

theorem perform (h : l.Reachable s) (c : Call) :
    (l.perform s c).2.1.Reachable (l.perform s c).2.2 := by
  cases c with
  | log caller level message => exact h.dispatch level message .empty (l.reported caller)
  | logFields caller level fields message =>
      exact h.dispatch level message fields (l.reported caller)
  | print caller message => exact h.dispatch l.printLevel message .empty (l.reported caller)
  | write bytes =>
      have hhooks : (l.received bytes).2.hooks = l.hooks := by
        rw [received]
        split <;> rfl
      exact (h.congr hhooks).sendAll (l.received bytes).1
  | setCatches catches => exact h.congr rfl
  | close => exact h.close
  | flush => exact h.close
  | getError => exact h
  | clearError => exact h.congr rfl

theorem run (h : l.Reachable s) (calls : List Call) :
    (l.run s calls).2.1.Reachable (l.run s calls).2.2 := by
  induction calls generalizing l s with
  | nil => exact h
  | cons c rest ih => exact ih (h.perform c)

/-- Hooks are derived, and none that were made are lost. -/
theorem derivedHooks {made : List Hook} {hooks : List (String × Hook)} (hs : s.Reachable made)
    (hhooks : ∀ p ∈ hooks, p.2 ∈ made) :
    ∃ made', (derivedHooks hooks s).2.Reachable made' ∧ made ⊆ made' ∧
      ∀ p ∈ (derivedHooks hooks s).1, p.2 ∈ made' := by
  induction hooks generalizing made s with
  | nil => exact ⟨made, hs, List.Subset.refl made, List.forall_mem_nil _⟩
  | cons p rest ih =>
      obtain ⟨hp, hrest⟩ := List.forall_mem_cons.mp hhooks
      obtain ⟨made', hs', hsubset, hderived⟩ := ih (hs.derive hp) fun q hq =>
        List.mem_cons_of_mem _ (hrest q hq)
      obtain ⟨hfirst, hmade⟩ := List.cons_subset.mp hsubset
      exact ⟨made', hs', hmade, List.forall_mem_cons.mpr ⟨hfirst, hderived⟩⟩

/-- A derived logger can be had, and the other one still can. -/
theorem derive (h : l.Reachable s) (moduleName : String) (fields : Fields) :
    (l.derive s moduleName fields).1.Reachable (l.derive s moduleName fields).2 ∧
      l.Reachable (l.derive s moduleName fields).2 := by
  obtain ⟨made, hs, hmade⟩ := h
  obtain ⟨made', hs', hsubset, hderived⟩ :=
    derivedHooks hs fun p (hp : p ∈ l.hooks.toList) => hmade p.2 (List.mem_map_of_mem hp)
  refine ⟨⟨made', hs', fun hook hhook => ?_⟩, made', hs', fun hook hhook =>
    hsubset (hmade hook hhook)⟩
  obtain ⟨p, hp, rfl⟩ := List.mem_map.mp hhook
  rcases SortedMap.mem_insertMany hp with hp | hp
  · exact absurd hp List.not_mem_nil
  · exact hderived p hp

end Reachable

end Logger

end Hooklog
