import Hooklog.Logger.Derivation
import Hooklog.Logger.Dispatch
import Hooklog.Proofs.Tables

/-!
# Deliveries

A dispatch hands one entry to several hooks, one after the other.  This module says what that
comes to without the loop that does it: which hooks are served, in which order, from which
stores, and what failures are left behind.

* `Logger.Registered` says that hooks stand under their own names; every way to change the
  hooks of a logger keeps it.
* `Logger.Dispatched` describes one dispatch, and `exists_dispatched` says that every dispatch
  is of this kind.
-/

namespace Hooklog

/-- One entry handed to one hook, and how that ended. -/
structure Delivery where
  hook : Hook
  entry : Entry
  result : Except Stop Unit

namespace Delivery

/-- Failure that a delivery leaves behind, if any.  A panic is reported under the name of the
hook, with its text. -/
def failure? (d : Delivery) : Option LogError :=
  match d.result with
  | .ok _ => none
  | .error (.failed error) => some error
  | .error (.stopped fault) => some (.hookPanic d.hook.name fault.message)

/-- Failures of deliveries, in order. -/
def failures (ds : List Delivery) : List LogError := ds.filterMap failure?

theorem failures_append (ds es : List Delivery) :
    failures (ds ++ es) = failures ds ++ failures es := List.filterMap_append

end Delivery

open Delivery

/-- Deliveries made one after the other lead from one store to another. -/
inductive Store.Delivers : Store → List Delivery → Store → Prop where
  | none (s : Store) : Delivers s [] s
  | next {s s' s'' : Store} {d : Delivery} {rest : List Delivery} :
      s.deliver d.hook.destination d.entry = (d.result, s') → Delivers s' rest s'' →
      Delivers s (d :: rest) s''

namespace Hook

/-- The delivery of an entry to a hook. -/
def delivery (h : Hook) (s : Store) (e : Entry) : Delivery :=
  ⟨h, e, (s.deliver h.destination e).1⟩

/-- Firing a hook is a delivery whose failure is the answer. -/
theorem fire_eq (h : Hook) (s : Store) (e : Entry) :
    h.fire s e =
      (match failure? (h.delivery s e) with
        | none => .ok ()
        | some error => .error error,
        (s.deliver h.destination e).2) := by
  rw [fire, delivery]
  rcases s.deliver h.destination e with ⟨stop | _, s'⟩
  · cases stop <;> rfl
  · rfl

theorem fireAll_cons (e : Entry) (h : Hook) (rest : List Hook) (s : Store) :
    fireAll e (h :: rest) s =
      (failures [h.delivery s e] ++ (fireAll e rest (s.deliver h.destination e).2).1,
        (fireAll e rest (s.deliver h.destination e).2).2) := by
  rw [fireAll, fire_eq, failures, List.filterMap_cons, List.filterMap_nil]
  cases failure? (h.delivery s e) <;> rfl

theorem fireAll_store (e : Entry) (h : Hook) (rest : List Hook) (s : Store) :
    (fireAll e (h :: rest) s).2 = (fireAll e rest (s.deliver h.destination e).2).2 := by
  rw [fireAll_cons]

/-- Firing hooks is one delivery to each of them, in order. -/
theorem fireAll_delivers (e : Entry) (hooks : List Hook) (s : Store) :
    ∃ ds, ds.map Delivery.hook = hooks ∧ (∀ d ∈ ds, d.entry = e) ∧
      s.Delivers ds (fireAll e hooks s).2 ∧ (fireAll e hooks s).1 = failures ds := by
  induction hooks generalizing s with
  | nil => exact ⟨[], rfl, List.forall_mem_nil _, .none s, rfl⟩
  | cons h rest ih =>
      obtain ⟨ds, hhooks, hentry, hdelivers, hfailures⟩ := ih (s.deliver h.destination e).2
      refine ⟨h.delivery s e :: ds, by rw [List.map_cons, hhooks]; rfl,
        List.forall_mem_cons.mpr ⟨rfl, hentry⟩, ?_, ?_⟩
      · rw [fireAll_cons]
        exact .next rfl hdelivers
      · rw [fireAll_cons, hfailures, ← failures_append]
        rfl

end Hook

namespace Logger

/-! ## Names of hooks -/

/-- Every hook stands under its own name. -/
def Registered (l : Logger) : Prop := ∀ p ∈ l.hooks.toList, p.2.name = p.1

theorem registered_addHook {l : Logger} (hl : l.Registered) (h : Hook) :
    (l.addHook h).Registered := by
  intro p hp
  rcases SortedMap.mem_insertIn hp with rfl | hp
  · rfl
  · exact hl p hp

theorem registered_addHooks {l : Logger} (hl : l.Registered) (hooks : List Hook) :
    (l.addHooks hooks).Registered := by
  induction hooks generalizing l with
  | nil => exact hl
  | cons h rest ih => exact ih (registered_addHook hl h)

theorem registered_withHooks (settings : Settings) (moduleName : String) (hooks : List Hook) :
    (withHooks settings moduleName hooks).Registered :=
  registered_addHooks (fun _ hp => absurd hp List.not_mem_nil) hooks

theorem registered_removeHook {l : Logger} (hl : l.Registered) (name : String) :
    (l.removeHook name).Registered :=
  fun p hp => hl p (List.mem_filter.mp hp).1

theorem registered_setHookLevel {l l' : Logger} (hl : l.Registered) {name : String}
    {level : Except LogError Level} (h : l.setHookLevel name level = .ok l') :
    l'.Registered := by
  unfold setHookLevel at h
  split at h
  · simp at h
  · split at h
    · simp at h
    · rename_i hook hhook
      have hname : hook.name = Hook.nameOf name :=
        hl (Hook.nameOf name, hook) (SortedMap.mem_of_get? hhook)
      rw [← Except.ok.inj h]
      intro p hp
      rcases SortedMap.mem_insertIn hp with rfl | hp
      · exact hname
      · exact hl p hp

theorem name_of_mem_derivedHooks {hooks : List (String × Hook)}
    (hhooks : ∀ p ∈ hooks, p.2.name = p.1) (s : Store) :
    ∀ p ∈ (derivedHooks hooks s).1, p.2.name = p.1 := by
  induction hooks generalizing s with
  | nil => exact List.forall_mem_nil _
  | cons q rest ih =>
      obtain ⟨hq, hrest⟩ := List.forall_mem_cons.mp hhooks
      exact List.forall_mem_cons.mpr ⟨hq, ih hrest _⟩

theorem registered_derive {l : Logger} (hl : l.Registered) (s : Store) (moduleName : String)
    (fields : Fields) : (l.derive s moduleName fields).1.Registered := by
  intro p hp
  rcases SortedMap.mem_insertMany hp with hp | hp
  · exact absurd hp List.not_mem_nil
  · exact name_of_mem_derivedHooks hl s p hp

/-! ## One dispatch -/

/-- What a dispatch comes to: each hook that accepts the level, and no other, is handed the
entry once, in ascending order of the names, from the store that the hook before it left
behind; the answer holds the failures of these deliveries and nothing else. -/
structure Dispatched (l : Logger) (s : Store) (level : Level) (message : String)
    (fields : Fields) (caller : Option Caller) (ds : List Delivery) (s' : Store) : Prop where
  hooks : ∀ h : Hook, h ∈ ds.map Delivery.hook ↔
    (h.name, h) ∈ l.hooks.toList ∧ h.accepts s level = true
  ascending : (ds.map fun d => d.hook.name).Pairwise (· < ·)
  entry : ∀ d ∈ ds, d.entry = l.entry s level message fields caller
  delivers : s.Delivers ds s'
  returned : (l.dispatch s level message fields caller).1 = dispatchResult (failures ds)

theorem mem_values_iff {l : Logger} (hl : l.Registered) (h : Hook) :
    h ∈ l.hooks.values ↔ (h.name, h) ∈ l.hooks.toList := by
  constructor
  · intro hmem
    obtain ⟨p, hp, rfl⟩ := List.mem_map.mp hmem
    rwa [hl p hp]
  · exact fun hmem => List.mem_map_of_mem (f := Prod.snd) hmem

/-- Hooks are listed in ascending order of their names. -/
theorem pairwise_values {l : Logger} (hl : l.Registered) :
    (l.hooks.values.map Hook.name).Pairwise (· < ·) := by
  have hnames : l.hooks.values.map Hook.name = l.hooks.toList.map Prod.fst := by
    rw [SortedMap.values, List.map_map]
    exact List.map_congr_left hl
  rw [hnames, List.pairwise_map]
  exact l.hooks.sorted

theorem pairwise_accepting {l : Logger} (hl : l.Registered) (s : Store) (level : Level) :
    ((l.accepting s level).map Hook.name).Pairwise (· < ·) :=
  (pairwise_values hl).sublist (List.filter_sublist.map Hook.name)

/-- The same logger with other failures on record. -/
def noting (l : Logger) (noted : List LogError) : Logger := { l with errors := noted }

/-- Every dispatch is one of these, whatever failures are on record, and adds its own to
them. -/
theorem exists_dispatched {l : Logger} (hl : l.Registered) (s : Store) (level : Level)
    (message : String) (fields : Fields) (caller : Option Caller) :
    ∃ ds s', l.Dispatched s level message fields caller ds s' ∧
      ∀ noted, (l.noting noted).dispatch s level message fields caller =
        (dispatchResult (failures ds), l.noting (noted ++ failures ds), s') := by
  obtain ⟨ds, hhooks, hentry, hdelivers, hfailures⟩ := Hook.fireAll_delivers
    (l.entry s level message fields caller) (l.accepting s level) s
  refine ⟨ds, _, ⟨fun h => ?_, ?_, hentry, hdelivers, ?_⟩, fun noted => ?_⟩
  · rw [hhooks, accepting, List.mem_filter, mem_values_iff hl]
  · have hascending := pairwise_accepting hl s level
    rwa [← hhooks, List.map_map] at hascending
  · rw [← hfailures]
    rfl
  · rw [← hfailures]
    rfl

/-- The hooks that a dispatch serves are those that accept the level. -/
theorem Dispatched.mem_iff {l : Logger} (hl : l.Registered) {s s' : Store} {level : Level}
    {message : String} {fields : Fields} {caller : Option Caller} {ds : List Delivery}
    (hds : l.Dispatched s level message fields caller ds s') (h : Hook) :
    h ∈ ds.map Delivery.hook ↔ h ∈ l.accepting s level := by
  rw [hds.hooks, accepting, List.mem_filter, mem_values_iff hl]

end Logger

end Hooklog
