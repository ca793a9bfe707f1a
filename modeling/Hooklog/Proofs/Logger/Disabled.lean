import Hooklog.Proofs.Logger.Filtering

/-!
# Disabled hooks

The level of a disabled hook is the last of all, so every level compares as low enough for it.
Where the destination declares no levels, a disabled hook is told apart and lets raw text pass at
most.  The levels that a destination declares are only compared, and all of them pass.

* `LevelFilter.accepts_of_disabled` and `LevelFilter.accepts_disabled_iff` say what a disabled
  hook lets pass, and when the last level itself passes.
* `LevelFilter.Insists` are the declarations that a disabled hook gives way to.
* `Logger.disabled_silent_iff` says that nothing else makes a disabled hook fire, for hooks and
  for the dispatches of a logger.
-/

namespace Hooklog

namespace LevelFilter

/-- Whether the destination declares a level. -/
def Declares (f : LevelFilter) (l : Level) : Prop :=
  ∃ declared, f.declared = some declared ∧ l ∈ declared

/-- Whether a level is that of raw text, and the destination takes raw text. -/
def TakesRaw (f : LevelFilter) (l : Level) : Prop := l = .print ∧ f.acceptsPrint = true

/-- Whether the destination declares a level other than that of raw text which it takes. -/
def Insists (f : LevelFilter) (l : Level) : Prop := f.Declares l ∧ ¬ f.TakesRaw l

variable {f : LevelFilter}

/-- A disabled filter lets all levels pass that are declared, and raw text where none are. -/
theorem accepts_of_disabled (h : f.minimum = .disabled) (l : Level) :
    f.accepts l = true ↔ f.Declares l ∨ (f.declared = none ∧ f.TakesRaw l) := by
  have hlisted : ¬ f.PassesUnlisted l := fun ⟨_, hminimum, _⟩ => by
    rw [h] at hminimum
    exact absurd hminimum (by decide)
  rw [accepts_iff, or_iff_left hlisted]
  cases hdeclared : f.declared with
  | some declared =>
      rw [mem_levels_of_declared l hdeclared, h, and_iff_left l.le_disabled]
      simp [Declares, hdeclared]
  | none =>
      rw [mem_levels_of_undeclared l hdeclared, h]
      simp [Declares, hdeclared, TakesRaw, and_comm]

/-- The last level passes where it is declared and the filter is disabled. -/
theorem accepts_disabled_iff : f.accepts .disabled = true ↔
    f.minimum = .disabled ∧ f.Declares .disabled := by
  have hlisted : ¬ f.PassesUnlisted .disabled := fun ⟨_, _, hbelow⟩ => absurd hbelow (by decide)
  rw [accepts_iff, or_iff_left hlisted]
  cases hdeclared : f.declared with
  | some declared =>
      rw [mem_levels_of_declared _ hdeclared, Level.disabled_le_iff, and_comm]
      simp [Declares, hdeclared]
  | none =>
      rw [mem_levels_of_undeclared _ hdeclared, Level.disabled_le_iff]
      constructor
      · rintro (⟨-, hraw⟩ | ⟨hother, -, hminimum⟩)
        · exact absurd hraw (by decide)
        · exact absurd hminimum hother
      · rintro ⟨-, declared, hsome, -⟩
        rw [hdeclared] at hsome
        exact absurd hsome.symm (Option.some_ne_none declared)

/-- A disabled filter keeps a level back, raw text apart, unless the destination insists. -/
theorem silent_iff (h : f.minimum = .disabled) (l : Level) :
    (f.accepts l = true → f.TakesRaw l) ↔ ¬ f.Insists l := by
  rw [accepts_of_disabled h]
  constructor
  · rintro hsilent ⟨hdeclares, hraw⟩
    exact hraw (hsilent (Or.inl hdeclares))
  · rintro hnot (hdeclares | ⟨-, hraw⟩)
    · exact Classical.byContradiction fun hraw => hnot ⟨hdeclares, hraw⟩
    · exact hraw

end LevelFilter

theorem Hook.minimum_filter (h : Hook) (s : Store) : (h.filter s).minimum = h.level := by
  unfold filter
  split <;> rfl

namespace Logger

open Delivery

/-- A disabled hook fires for no level but that of raw text which its destination takes, and the
last level passes no hook, exactly where no destination insists on the contrary.  So a dispatch
keeps an entry from the disabled hooks exactly if none of them has a destination that insists on
its level. -/
theorem disabled_silent_iff {l : Logger} (hl : l.Registered) (s : Store) (level : Level)
    (message : String) (fields : Fields) (caller : Option Caller) :
    (∀ h : Hook, h.level = .disabled →
      ((h.accepts s level = true → (h.filter s).TakesRaw level) ↔
        ¬ (h.filter s).Insists level)) ∧
    (∀ h : Hook, h.accepts s .disabled = true ↔
      h.level = .disabled ∧ (h.filter s).Declares .disabled) ∧
    ∃ ds s', l.Dispatched s level message fields caller ds s' ∧
      l.dispatch s level message fields caller =
        (dispatchResult (failures ds), { l with errors := l.errors ++ failures ds }, s') ∧
      ((∀ d ∈ ds, d.hook.level = .disabled → (d.hook.filter s).TakesRaw level) ↔
        ∀ p ∈ l.hooks.toList, p.2.level = .disabled → ¬ (p.2.filter s).Insists level) := by
  have hsilent : ∀ h : Hook, h.level = .disabled →
      ((h.accepts s level = true → (h.filter s).TakesRaw level) ↔
        ¬ (h.filter s).Insists level) := fun h hdisabled =>
    LevelFilter.silent_iff ((h.minimum_filter s).trans hdisabled) level
  refine ⟨hsilent, fun h => ?_, ?_⟩
  · rw [Hook.accepts, LevelFilter.accepts_disabled_iff, h.minimum_filter]
  obtain ⟨ds, s', hds, hdispatch⟩ := exists_dispatched hl s level message fields caller
  refine ⟨ds, s', hds, hdispatch l.errors, ?_⟩
  constructor
  · intro hserved p hp hdisabled
    refine (hsilent p.2 hdisabled).mp fun haccepts => ?_
    have hmem : (p.2.name, p.2) ∈ l.hooks.toList := by rwa [hl p hp]
    obtain ⟨d, hd, hhook⟩ := List.mem_map.mp ((hds.hooks p.2).mpr ⟨hmem, haccepts⟩)
    rw [← hhook] at hdisabled ⊢
    exact hserved d hd hdisabled
  · intro hnone d hd hdisabled
    obtain ⟨hmem, haccepts⟩ := (hds.hooks d.hook).mp (List.mem_map_of_mem hd)
    exact (hsilent d.hook hdisabled).mpr (hnone _ hmem hdisabled) haccepts

/-- Raw text reaches the disabled hook among others. -/
theorem disabled_silent_iff_raw :
    declaring.Registered ∧
      (∀ h : Hook, h.level = .disabled →
        ((h.accepts declaringStore .print = true → (h.filter declaringStore).TakesRaw .print) ↔
          ¬ (h.filter declaringStore).Insists .print)) ∧
      (∀ h : Hook, h.accepts declaringStore .disabled = true ↔
        h.level = .disabled ∧ (h.filter declaringStore).Declares .disabled) ∧
      ∃ ds s', declaring.Dispatched declaringStore .print "raw" .empty none ds s' ∧
        declaring.dispatch declaringStore .print "raw" .empty none =
          (dispatchResult (failures ds),
            { declaring with errors := declaring.errors ++ failures ds }, s') ∧
        ((∀ d ∈ ds, d.hook.level = .disabled →
            (d.hook.filter declaringStore).TakesRaw .print) ↔
          ∀ p ∈ declaring.hooks.toList, p.2.level = .disabled →
            ¬ (p.2.filter declaringStore).Insists .print) := by
  have hregistered : declaring.Registered := registered_withHooks _ _ _
  exact ⟨hregistered, disabled_silent_iff hregistered declaringStore .print "raw" .empty none⟩

/-- Store with an application that declares errors and the last level. -/
def insistingStore : Store :=
  { Store.new (.ofConfig .empty ⟨0, 0⟩ false) ⟨0, 0⟩ "work" with
    destinations := [.application
      { identity := "app", levels := some [.error, .disabled], acceptsPrint := false,
        respond := fun _ e => .writes "record" e.message, received := 0 }] }

/-- A disabled hook over this application lets errors and the last level pass, and an error is
delivered. -/
theorem disabled_hook_delivers_error :
    let h : Hook := ⟨"off", .disabled, 0⟩
    let l := withHooks insistingStore.settings "" [h]
    h.accepts insistingStore .error = true ∧ h.accepts insistingStore .disabled = true ∧
      (l.dispatch insistingStore .error "hot" .empty none).2.2.buffers.content "record" =
        Text.bytesOf "hot" := by
  decide +kernel

end Logger

end Hooklog
