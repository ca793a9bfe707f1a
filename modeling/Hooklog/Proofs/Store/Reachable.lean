import Hooklog.Proofs.Destination.Copies
import Hooklog.Proofs.Store.Confinement

/-!
# What a process can come to

Hooks are made with their destinations, other hooks share these or have copies of them, and
everything that a process does with its hooks leads from one store to the next.  `Store.Reachable`
says which hooks and stores there can be.  In all of them a file that a destination holds open can
be opened again (`Store.Reachable.settled`).
-/

namespace Hooklog

namespace Store

/-- Hooks that a process can have made, and the store that it can have come to. -/
inductive Reachable : List Hook → Store → Prop where
  | new (settings : Settings) (now : Instant) (workingName : String) :
      Reachable [] (.new settings now workingName)
  | console {hooks : List Hook} {s : Store} (name : String) (level : Level)
      (formatter : Option FormatterId) : Reachable hooks s →
      Reachable ((Hook.console s name level formatter).1 :: hooks)
        (Hook.console s name level formatter).2
  | logFile {hooks : List Hook} {s : Store} (path : String) (isPerModule writesHeader : Bool)
      (level : Level) (formatter : Option FormatterId) : Reachable hooks s →
      Reachable ((Hook.logFile s path isPerModule writesHeader level formatter).1 :: hooks)
        (Hook.logFile s path isPerModule writesHeader level formatter).2
  | application {hooks : List Hook} {s : Store} (name : String) (level : Level)
      (a : Application) : Reachable hooks s →
      Reachable ((Hook.application s name level a).1 :: hooks) (Hook.application s name level a).2
  /-- Another hook on the destination of one. -/
  | sharing {hooks : List Hook} {s : Store} {h : Hook} (name : String) (level : Level) :
      Reachable hooks s → h ∈ hooks → Reachable (⟨name, level, h.destination⟩ :: hooks) s
  | derive {hooks : List Hook} {s : Store} {h : Hook} : Reachable hooks s → h ∈ hooks →
      Reachable ((h.derive s).1 :: hooks) (h.derive s).2
  | deliver {hooks : List Hook} {s : Store} {h : Hook} (e : Entry) : Reachable hooks s →
      h ∈ hooks → Reachable hooks (s.deliver h.destination e).2
  | setFormatter {hooks : List Hook} {s : Store} {h : Hook} (id : FormatterId) :
      Reachable hooks s → h ∈ hooks → Reachable hooks (h.setFormatter s id).2
  | changeConsole {hooks : List Hook} {s : Store} {h : Hook} (operation : String)
      (change : Console → Console) : Reachable hooks s → h ∈ hooks →
      Reachable hooks (h.changeConsole s operation change).2
  /-- Formatters are made and changed. -/
  | formatters {hooks : List Hook} {s : Store} (formatters : List Formatter) :
      Reachable hooks s → Reachable hooks { s with formatters := formatters }
  /-- The settings of the process change, and time passes. -/
  | settings {hooks : List Hook} {s : Store} (settings : Settings) (now : Instant) :
      Reachable hooks s → Reachable hooks { s with settings := settings, now := now }
  /-- Someone else writes a file. -/
  | replace {hooks : List Hook} {s : Store} (p : Path) (bytes : Text.Bytes) :
      Reachable hooks s → Reachable hooks { s with files := (s.files.replace p bytes).2 }

/-- The hooks have their destinations, and every file held open can be opened again. -/
structure Settled (hooks : List Hook) (s : Store) : Prop where
  bound : ∀ h ∈ hooks, h.destination < s.destinations.length
  reopens : ∀ (id : DestinationId) (f : LogFile), s.destinations[id]? = some (.logFile f) →
    ∀ file, f.opened = some file → file.Reopens s.files

namespace Settled

variable {hooks : List Hook} {s : Store}

/-- A destination that holds nothing open, with a hook on it. -/
theorem add (h : s.Settled hooks) (formatters : List Formatter) {d : Destination}
    (hd : ∀ f, d = .logFile f → f.opened = none) (name : String) (level : Level) :
    Settled (⟨name, level, s.destinations.length⟩ :: hooks)
      { s with formatters := formatters, destinations := s.destinations ++ [d] } := by
  have hlength : (s.destinations ++ [d]).length = s.destinations.length + 1 := by simp
  refine ⟨List.forall_mem_cons.mpr ⟨?_, fun h' hh' => ?_⟩, fun id f hf file hfile => ?_⟩
  · rw [hlength]
    exact Nat.lt_succ_self _
  · rw [hlength]
    exact Nat.lt_succ_of_lt (h.bound h' hh')
  · rw [List.getElem?_append] at hf
    split at hf
    · exact h.reopens id f hf file hfile
    · rw [List.getElem?_singleton] at hf
      split at hf
      · rw [hd f (Option.some.inj hf)] at hfile
        exact absurd hfile (by simp)
      · exact absurd hf (by simp)

/-- Changes of formatters, settings, time and buffers concern no file. -/
theorem setRest (h : s.Settled hooks) (settings : Settings) (now : Instant)
    (formatters : List Formatter) (buffers : Buffers) :
    Settled hooks
      { s with settings := settings, now := now, formatters := formatters, buffers := buffers } :=
  ⟨h.bound, h.reopens⟩

/-- A destination is changed and files grow. -/
theorem set (h : s.Settled hooks) {files : FileTree} (hkeeps : s.files.Keeps files)
    (id : DestinationId) {d : Destination}
    (hd : ∀ f, d = .logFile f → ∀ file, f.opened = some file → file.Reopens files) :
    Settled hooks { s.setDestination id d with files := files } := by
  refine ⟨fun h' hh' => ?_, fun id' f hf file hfile => ?_⟩
  · change h'.destination < (s.destinations.set id d).length
    rw [List.length_set]
    exact h.bound h' hh'
  · change (s.destinations.set id d)[id']? = _ at hf
    rw [List.getElem?_set] at hf
    split at hf
    · split at hf
      · exact hd f (Option.some.inj hf) file hfile
      · exact absurd hf (by simp)
    · exact (h.reopens id' f hf file hfile).kept hkeeps

theorem deliver (h : s.Settled hooks) (id : DestinationId) (e : Entry) :
    Settled hooks (s.deliver id e).2 := by
  cases hd : s.destinations[id]? with
  | none =>
      rw [deliver_absent e hd]
      exact h
  | some d =>
      rw [Store.deliver, hd]
      cases d with
      | console c =>
          obtain ⟨formatters, hstore, -⟩ := s.entryText_store Console.identity c.formatter e
          dsimp only
          generalize s.entryText Console.identity c.formatter e = r at *
          obtain ⟨stop | text, s'⟩ := r
          · obtain rfl : s' = _ := hstore
            exact h.setRest _ _ _ _
          · obtain rfl : s' = _ := hstore
            exact h.setRest _ _ _ _
      | logFile f =>
          obtain ⟨formatters, hstore, -⟩ := s.entryText_store f.identity f.formatter e
          dsimp only
          generalize s.entryText f.identity f.formatter e = r at *
          obtain ⟨stop | text, s'⟩ := r
          · obtain rfl : s' = _ := hstore
            exact h.setRest _ _ _ _
          · obtain rfl : s' = _ := hstore
            have hheld := h.reopens id f hd
            refine (h.setRest s.settings s.now formatters s.buffers).set
              (f.append_keeps hheld e text) id fun f' hf' file hfile => ?_
            obtain rfl := Destination.logFile.inj hf'
            exact f.append_reopens hheld e text hfile
      | application a =>
          have hcounted : Settled hooks
              (s.setDestination id (.application { a with received := a.received + 1 })) :=
            h.set (.refl s.files) id fun f hf => absurd hf (by simp)
          dsimp only
          rw [respond]
          split
          · exact hcounted.setRest _ _ _ _
          · exact hcounted
          · exact hcounted

theorem derive (h : s.Settled hooks) {hook : Hook} (hhook : hook ∈ hooks) :
    Settled ((hook.derive s).1 :: hooks) (hook.derive s).2 := by
  have hshared : Settled (hook :: hooks) s :=
    ⟨List.forall_mem_cons.mpr ⟨h.bound hook hhook, h.bound⟩, h.reopens⟩
  rw [Hook.derive, Store.derive]
  cases s.destinations[hook.destination]? with
  | none => exact hshared
  | some d =>
      cases d with
      | logFile f =>
          refine h.add s.formatters (fun f' hf' => ?_) hook.name hook.level
          rw [← Destination.logFile.inj hf']
          rfl
      | console c => exact hshared
      | application a => exact hshared

theorem setFormatter (h : s.Settled hooks) (hook : Hook) (id : FormatterId) :
    Settled hooks (hook.setFormatter s id).2 := by
  rw [Hook.setFormatter]
  cases hd : s.destinations[hook.destination]? with
  | none => exact h
  | some d =>
      cases d with
      | console c => exact h.set (.refl s.files) _ fun f hf => absurd hf (by simp)
      | logFile f =>
          refine h.set (.refl s.files) _ fun f' hf' => ?_
          rw [← Destination.logFile.inj hf']
          exact h.reopens _ f hd
      | application a => exact h

theorem changeConsole (h : s.Settled hooks) (hook : Hook) (operation : String)
    (change : Console → Console) : Settled hooks (hook.changeConsole s operation change).2 := by
  rw [Hook.changeConsole]
  split
  · exact h.set (.refl s.files) _ fun f hf => absurd hf (by simp)
  · exact h

end Settled

/-- A file that a destination holds open can always be opened again. -/
theorem Reachable.settled {hooks : List Hook} {s : Store} (h : Reachable hooks s) :
    s.Settled hooks := by
  induction h with
  | new settings now workingName =>
      exact ⟨List.forall_mem_nil _, fun id f hf => absurd hf (by simp [Store.new])⟩
  | console name level formatter h ih =>
      cases formatter with
      | none => exact ih.add _ (fun f hf => absurd hf (by simp)) _ level
      | some id => exact ih.add _ (fun f hf => absurd hf (by simp)) _ level
  | logFile path isPerModule writesHeader level formatter h ih =>
      have hclosed (id : FormatterId) (f : LogFile)
          (hf : Destination.logFile
            { LogFile.new path isPerModule id with writesHeader := writesHeader } = .logFile f) :
          f.opened = none := by
        rw [← Destination.logFile.inj hf]
        rfl
      cases formatter with
      | none => exact ih.add _ (hclosed _) path level
      | some id => exact ih.add _ (hclosed id) path level
  | application name level a h ih => exact ih.add _ (fun f hf => absurd hf (by simp)) name level
  | sharing name level h hmem ih =>
      have hbound := ih.bound _ hmem
      exact ⟨List.forall_mem_cons.mpr ⟨hbound, ih.bound⟩, ih.reopens⟩
  | derive h hmem ih => exact ih.derive hmem
  | deliver e h hmem ih => exact ih.deliver _ e
  | setFormatter id h hmem ih => exact ih.setFormatter _ id
  | changeConsole operation change h hmem ih => exact ih.changeConsole _ operation change
  | formatters formatters h ih => exact ih.setRest _ _ formatters _
  | settings settings now h ih => exact ih.setRest settings now _ _
  | replace p bytes h ih =>
      exact ⟨ih.bound, fun id f hf file hfile =>
        (ih.reopens id f hf file hfile).kept (FileTree.Keeps.replace _ p bytes)⟩

end Store

end Hooklog
