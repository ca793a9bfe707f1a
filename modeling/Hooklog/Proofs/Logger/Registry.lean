import Hooklog.Proofs.Logger.Deliveries
import Mathlib.Data.List.Nodup

/-!
# Registry of hooks

A hook is stored under its own name, whatever that is.  A lookup takes the empty name for that
of the default console hook, and so misses a hook whose own name is empty.

* `Logger.manage` is one call on the registry, `Logger.manageAll` a run of them.
* `Logger.get?_hooks_manage` says that a call changes nothing under names that it does not
  concern, `Logger.get?_hooks_manageAll` that a run does not either.
* `Logger.answers_iff` compares what is stored with what lookups find.
-/

namespace Hooklog

/-! ## Names -/

namespace Hook

theorem nameOf_of_ne {name : String} (h : name ≠ "") : nameOf name = name := by
  rw [nameOf, if_neg]
  rwa [String.isEmpty_iff]

/-- No name stands for the empty one. -/
theorem nameOf_ne (name : String) : nameOf name ≠ "" := by
  by_cases h : name = ""
  · subst h
    decide
  · rwa [nameOf_of_ne h]

end Hook

/-- A call on the registry of hooks of a logger. -/
inductive HookCall where
  | add (h : Hook)
  | addMany (hooks : List Hook)
  /-- Add a hook whose level is given as a text or a number, which may be no level. -/
  | tryAdd (name : String) (level : Except LogError Level) (destination : DestinationId)
  | setLevel (name : String) (level : Except LogError Level)
  | remove (name : String)

namespace HookCall

/-- The call registers a hook.  Of several hooks of one name the last one stays. -/
inductive Adds : HookCall → Hook → Prop where
  | add (h : Hook) : Adds (.add h) h
  | addMany (before : List Hook) (h : Hook) (after : List Hook) :
      h.name ∉ after.map Hook.name → Adds (.addMany (before ++ h :: after)) h
  | tryAdd (name : String) (level : Level) (destination : DestinationId) :
      Adds (.tryAdd name (.ok level) destination) ⟨name, level, destination⟩

/-- Names under which a call may change what is stored. -/
def concerned : HookCall → List String
  | .add h => [h.name]
  | .addMany hooks => hooks.map Hook.name
  | .tryAdd name _ _ => [name]
  | .setLevel name _ => [Hook.nameOf name]
  | .remove name => [Hook.nameOf name]

end HookCall

namespace Logger

/-- The outcome of a change and the logger after it, which stays as it was if it failed. -/
def settled (l : Logger) : Except LogError Logger → Except LogError Unit × Logger
  | .ok l' => (.ok (), l')
  | .error error => (.error error, l)

/-- One call on the registry. -/
def manage (l : Logger) : HookCall → Except LogError Unit × Logger
  | .add h => (.ok (), l.addHook h)
  | .addMany hooks => (.ok (), l.addHooks hooks)
  | .tryAdd name level destination =>
      l.settled (level.map fun level => l.addHook ⟨name, level, destination⟩)
  | .setLevel name level => l.settled (l.setHookLevel name level)
  | .remove name => (.ok (), l.removeHook name)

/-- Logger after several calls on the registry. -/
def manageAll (l : Logger) (calls : List HookCall) : Logger :=
  calls.foldl (fun l c => (l.manage c).2) l

/-! ## Hooks under their names -/

theorem hooks_addHooks (l : Logger) (hooks : List Hook) :
    (l.addHooks hooks).hooks = l.hooks.insertMany (hooks.map fun h => (h.name, h)) := by
  induction hooks generalizing l with
  | nil => rfl
  | cons h rest ih => exact ih (l.addHook h)

theorem map_fst_named (hooks : List Hook) :
    (hooks.map fun h => (h.name, h)).map (·.1) = hooks.map Hook.name := List.map_map

/-- Nothing changes under other names than those that a call concerns. -/
theorem get?_hooks_manage (l : Logger) {c : HookCall} {name : String} (h : name ∉ c.concerned) :
    (l.manage c).2.hooks.get? name = l.hooks.get? name := by
  cases c with
  | add hook =>
      have hne : hook.name ≠ name := (List.ne_of_not_mem_cons h).symm
      exact SortedMap.get?_insert_of_ne _ hne _
  | addMany hooks =>
      rw [manage, hooks_addHooks]
      refine SortedMap.get?_insertMany_of_notMem ?_
      rwa [map_fst_named]
  | tryAdd own level destination =>
      have hne : own ≠ name := (List.ne_of_not_mem_cons h).symm
      cases level with
      | error error => rfl
      | ok level => exact SortedMap.get?_insert_of_ne _ hne _
  | setLevel own level =>
      have hne : Hook.nameOf own ≠ name := (List.ne_of_not_mem_cons h).symm
      cases level with
      | error error => rfl
      | ok level =>
          rw [manage, setHookLevel]
          cases l.hook? own with
          | none => rfl
          | some hook => exact SortedMap.get?_insert_of_ne _ hne _
  | remove own =>
      have hne : Hook.nameOf own ≠ name := (List.ne_of_not_mem_cons h).symm
      exact (SortedMap.get?_erase _ _ _).trans (if_neg hne)

theorem get?_hooks_manageAll (l : Logger) {calls : List HookCall} {name : String}
    (h : ∀ c ∈ calls, name ∉ c.concerned) :
    (l.manageAll calls).hooks.get? name = l.hooks.get? name := by
  induction calls generalizing l with
  | nil => rfl
  | cons c rest ih =>
      obtain ⟨hc, hrest⟩ := List.forall_mem_cons.mp h
      exact (ih (l.manage c).2 hrest).trans (l.get?_hooks_manage hc)

/-- A hook that is added is stored under its own name. -/
theorem get?_hooks_of_adds (l : Logger) {c : HookCall} {h : Hook} (hadds : c.Adds h) :
    (l.manage c).1 = .ok () ∧ (l.manage c).2.hooks.get? h.name = some h := by
  cases hadds with
  | add => exact ⟨rfl, SortedMap.get?_insert_self _ _ _⟩
  | addMany before _ after hlast =>
      refine ⟨rfl, ?_⟩
      rw [manage, hooks_addHooks, List.map_append, List.map_cons]
      refine SortedMap.get?_insertMany_last (p := (h.name, h)) ?_
      rwa [map_fst_named]
  | tryAdd => exact ⟨rfl, SortedMap.get?_insert_self _ _ _⟩

theorem registered_manage {l : Logger} (hl : l.Registered) (c : HookCall) :
    (l.manage c).2.Registered := by
  cases c with
  | add h => exact registered_addHook hl h
  | addMany hooks => exact registered_addHooks hl hooks
  | tryAdd name level destination =>
      cases level with
      | error error => exact hl
      | ok level => exact registered_addHook hl _
  | setLevel name level =>
      rw [manage]
      cases hset : l.setHookLevel name level with
      | error error => exact hl
      | ok l' => exact registered_setHookLevel hl hset
  | remove name => exact registered_removeHook hl name

theorem registered_manageAll {l : Logger} (hl : l.Registered) (calls : List HookCall) :
    (l.manageAll calls).Registered := by
  induction calls generalizing l with
  | nil => exact hl
  | cons c rest ih => exact ih (registered_manage hl c)

/-- A hook that is stored is listed once. -/
theorem count_hookNames {l : Logger} {name : String} {h : Hook}
    (hstored : l.hooks.get? name = some h) : l.hookNames.count name = 1 :=
  List.count_eq_one_of_mem l.hooks.nodup_keys (SortedMap.mem_keys_iff.mpr ⟨h, hstored⟩)

/-! ## Lookups -/

/-- Two loggers that differ in nothing but the hook of a name. -/
structure SameBut (l l' : Logger) (name : String) : Prop where
  apart : l' = { l with hooks := l'.hooks }
  others : ∀ other, other ≠ name → l'.hooks.get? other = l.hooks.get? other

/-- A hook is found under its name, and so are its level, the hook whose level is to be changed
and the hook to be removed. -/
structure Answers (l : Logger) (h : Hook) : Prop where
  hook : l.hook? h.name = some h
  level : l.hookLevel h.name = h.level
  setLevel : ∀ level, ∃ l', l.manage (.setLevel h.name (.ok level)) = (.ok (), l') ∧
    l.SameBut l' h.name ∧ l'.hooks.get? h.name = some (h.withLevel level)
  remove : ∃ l', l.manage (.remove h.name) = (.ok (), l') ∧
    l.SameBut l' h.name ∧ l'.hooks.get? h.name = none

/-- Calls that come to nothing: the level is none, or no hook is found under the name. -/
inductive Vain (l : Logger) : HookCall → Except LogError Unit → Prop where
  | addLevel (name : String) (error : LogError) (destination : DestinationId) :
      Vain l (.tryAdd name (.error error) destination) (.error error)
  | setLevel (name : String) (error : LogError) :
      Vain l (.setLevel name (.error error)) (.error error)
  | setMissing (name : String) (level : Level) : l.hook? name = none →
      Vain l (.setLevel name (.ok level)) (.error (.hookNotFound name))
  | removeMissing (name : String) : l.hook? name = none → Vain l (.remove name) (.ok ())

/-- Such a call leaves the logger as it was. -/
theorem manage_of_vain {l : Logger} {c : HookCall} {answer : Except LogError Unit}
    (h : l.Vain c answer) : l.manage c = (answer, l) := by
  cases h with
  | addLevel | setLevel => rfl
  | setMissing name level hmissing =>
      rw [manage, setHookLevel, hmissing]
      rfl
  | removeMissing name hmissing =>
      rw [manage, removeHook, SortedMap.erase_eq_self hmissing]

theorem hookLevel_of_hook? {l : Logger} {name : String} {h : Hook} (hh : l.hook? name = some h) :
    l.hookLevel name = h.level := by
  rw [hookLevel, hh]

theorem manage_setLevel_of_hook? {l : Logger} {name : String} {h : Hook}
    (hh : l.hook? name = some h) (level : Level) :
    l.manage (.setLevel name (.ok level)) =
      (.ok (), { l with hooks := l.hooks.insert (Hook.nameOf name) (h.withLevel level) }) := by
  rw [manage, setHookLevel, hh]
  rfl

/-- What a call that concerns one name alone leaves of the others. -/
theorem sameBut_manage {l l' : Logger} {c : HookCall} {answer : Except LogError Unit}
    {name : String} (hc : c.concerned = [name]) (hl' : l.manage c = (answer, l'))
    (hapart : l' = { l with hooks := l'.hooks }) : l.SameBut l' name := by
  refine ⟨hapart, fun other hother => ?_⟩
  have hnot : other ∉ c.concerned := by rwa [hc, List.mem_singleton]
  have hsame := l.get?_hooks_manage hnot
  rwa [hl'] at hsame

/-- A hook that is stored under a name other than the empty one is found. -/
theorem answers_of_stored {l : Logger} {h : Hook} (hname : h.name ≠ "")
    (hstored : l.hooks.get? h.name = some h) : l.Answers h := by
  have hkey : Hook.nameOf h.name = h.name := Hook.nameOf_of_ne hname
  have hhook : l.hook? h.name = some h := by rwa [hook?, hkey]
  refine ⟨hhook, hookLevel_of_hook? hhook, fun level => ?_, ?_⟩
  · have hset := manage_setLevel_of_hook? hhook level
    refine ⟨_, hset, sameBut_manage (by rw [HookCall.concerned, hkey]) hset rfl, ?_⟩
    exact (SortedMap.get?_insert _ _ _ _).trans (if_pos hkey)
  · refine ⟨l.removeHook h.name, rfl,
      sameBut_manage (c := .remove h.name) (by rw [HookCall.concerned, hkey]) rfl rfl, ?_⟩
    exact (SortedMap.get?_erase _ _ _).trans (if_pos hkey)

/-- What a lookup finds bears the name that was asked for, which is never the empty one. -/
theorem name_ne_of_hook? {l : Logger} (hl : l.Registered) {name : String} {h : Hook}
    (hh : l.hook? name = some h) : h.name ≠ "" := by
  have hname : h.name = Hook.nameOf name :=
    hl (Hook.nameOf name, h) (SortedMap.mem_of_get? hh)
  rw [hname]
  exact Hook.nameOf_ne name

/-- A hook is added without failure, and as long as no later call concerns its name, it is
stored under this name, which is listed once.  The lookups find it there exactly if its name is
not empty; a hook of an empty name is not found under any name.  Calls that name no level or
no hook leave the logger as it is. -/
theorem answers_iff {l : Logger} (hl : l.Registered) {c : HookCall} {h : Hook}
    (hadds : c.Adds h) {later : List HookCall} (hlater : ∀ c ∈ later, h.name ∉ c.concerned) :
    (l.manage c).1 = .ok () ∧
      (l.manageAll (c :: later)).hookNames.count h.name = 1 ∧
      (l.manageAll (c :: later)).hooks.get? h.name = some h ∧
      ((l.manageAll (c :: later)).Answers h ↔ h.name ≠ "") ∧
      ((∃ name, (l.manageAll (c :: later)).hook? name = some h) ↔ h.name ≠ "") ∧
      ∀ call answer, l.Vain call answer → l.manage call = (answer, l) := by
  have hregistered : (l.manageAll (c :: later)).Registered := registered_manageAll hl _
  obtain ⟨hok, hadded⟩ := l.get?_hooks_of_adds hadds
  have hstored : (l.manageAll (c :: later)).hooks.get? h.name = some h :=
    ((l.manage c).2.get?_hooks_manageAll hlater).trans hadded
  -- A lookup of the empty name goes to another key, where no hook of the empty name stands.
  have hfound : ∀ name, (l.manageAll (c :: later)).hook? name = some h → h.name ≠ "" :=
    fun _ => name_ne_of_hook? hregistered
  refine ⟨hok, count_hookNames hstored, hstored, ?_, ?_, fun _ _ => manage_of_vain⟩
  · exact ⟨fun hanswers => hfound _ hanswers.hook, fun hname => answers_of_stored hname hstored⟩
  · refine ⟨?_, fun hname => ⟨h.name, (answers_of_stored hname hstored).hook⟩⟩
    rintro ⟨name, hname⟩
    exact hfound name hname

/-- Logger without hooks, in a process with the settings of an empty environment. -/
def bare : Logger := withHooks (.ofConfig .empty ⟨0, 0⟩ false) "m" []

theorem answers_iff_bare :
    bare.Registered ∧ HookCall.Adds (.tryAdd "app" (.ok .info) 0) ⟨"app", .info, 0⟩ ∧
      (∀ c ∈ [HookCall.remove ""], "app" ∉ c.concerned) ∧
      (bare.manageAll [.tryAdd "app" (.ok .info) 0, .remove ""]).Answers ⟨"app", .info, 0⟩ := by
  have hregistered : bare.Registered := registered_withHooks _ _ _
  have hadds : HookCall.Adds (.tryAdd "app" (.ok .info) 0) ⟨"app", .info, 0⟩ := .tryAdd _ _ _
  have hlater : ∀ c ∈ [HookCall.remove ""], "app" ∉ c.concerned := by decide
  refine ⟨hregistered, hadds, hlater, ?_⟩
  exact (answers_iff hregistered hadds hlater).2.2.2.1.mpr (by decide)

/-- A hook of an empty name is listed under it, but neither the hook nor its level is found. -/
theorem empty_name_not_found :
    (bare.manage (.tryAdd "" (.ok .info) 0)).2.hookNames = [""] ∧
      (bare.manage (.tryAdd "" (.ok .info) 0)).2.hook? "" = none ∧
      (bare.manage (.tryAdd "" (.ok .info) 0)).2.hookLevel "" ≠ .info := by
  decide +kernel

end Logger

end Hooklog
