import Hooklog.Proofs.Logger.Deliveries

/-!
# Levels that a hook delivers

A hook says in two ways which levels it delivers: by a list of levels, and by its answer for one
level.  The two agree except for a hook whose minimum is the level of raw text and whose
destination declares no levels: its list holds raw text at most, but it delivers every level
below.

* `Level.mem_delivered` reads the list of levels under a minimum.
* `LevelFilter.accepts_iff` compares the answer for a level with the list.
* `Logger.dispatched_iff_mem_levels` carries this over to the hooks that a dispatch serves.
-/

namespace Hooklog

namespace Level

/-! ## Lists of levels -/

variable {a b : Level}

theorem le_iff : a ≤ b ↔ a.ordinal.toNat ≤ b.ordinal.toNat := Iff.rfl

theorem lt_iff : a < b ↔ a.ordinal.toNat < b.ordinal.toNat := Iff.rfl

theorem eq_iff : a = b ↔ a.ordinal.toNat = b.ordinal.toNat :=
  ⟨fun h => by rw [h], fun h => ext_ordinal (UInt32.toNat.inj h)⟩

theorem le_disabled (l : Level) : l ≤ disabled := by
  have hl := l.ordinal.toNat_lt
  have hdisabled : disabled.ordinal.toNat = 4294967295 := rfl
  rw [le_iff, hdisabled]
  omega

theorem disabled_le_iff {l : Level} : disabled ≤ l ↔ l = disabled :=
  ⟨fun h => Std.le_antisymm l.le_disabled h, fun h => h ▸ Std.le_refl _⟩

/-- Below the level of raw text are all others but the last one. -/
theorem lt_print_iff {l : Level} : l < print ↔ l ≠ print ∧ l ≠ disabled := by
  have hl := l.ordinal.toNat_lt
  have hprint : print.ordinal.toNat = 4294967294 := rfl
  have hdisabled : disabled.ordinal.toNat = 4294967295 := rfl
  rw [lt_iff, ne_eq, ne_eq, eq_iff, eq_iff, hprint, hdisabled]
  omega

theorem mem_standard (l : Level) : l ∈ standard ↔ l ≤ trace := by
  constructor
  · intro h
    revert l
    decide
  · intro h
    rw [le_iff] at h
    change l.ordinal.toNat ≤ 6 at h
    simp only [standard, List.mem_cons, List.not_mem_nil, or_false, eq_iff, panic, fatal, error,
      warning, info, debug, trace, UInt32.reduceToNat]
    omega

/-- The levels beyond trace are listed by their distance from it. -/
theorem mem_beyondTrace (minimum l : Level) :
    l ∈ beyondTrace minimum ↔ trace < l ∧ l ≤ minimum := by
  have htrace : trace.ordinal.toNat = 6 := rfl
  have hmost := minimum.ordinal.toNat_lt
  rw [beyondTrace, List.mem_map, lt_iff, le_iff, htrace]
  constructor
  · rintro ⟨i, hi, rfl⟩
    have hi := List.mem_range.mp hi
    have hordinal : (UInt32.ofNat (6 + 1 + i)).toNat = 6 + 1 + i :=
      UInt32.toNat_ofNat_of_lt' (by change _ < 2 ^ 32; omega)
    dsimp only
    rw [hordinal]
    omega
  · rintro ⟨hl, hminimum⟩
    refine ⟨l.ordinal.toNat - 7, List.mem_range.mpr (by omega), ext_ordinal ?_⟩
    have hdistance : 6 + 1 + (l.ordinal.toNat - 7) = l.ordinal.toNat := by omega
    dsimp only
    rw [hdistance, UInt32.ofNat_toNat]

/-- Raw text is delivered if it is accepted.  All else is delivered down to the minimum, unless
the minimum is one of the special levels. -/
theorem mem_delivered (minimum l : Level) (acceptsPrint : Bool) :
    l ∈ minimum.delivered acceptsPrint ↔
      (acceptsPrint = true ∧ l = print) ∨
        (minimum ≠ disabled ∧ minimum ≠ print ∧ l ≤ minimum) := by
  have hraw : l ∈ (if acceptsPrint then [print] else []) ↔ acceptsPrint = true ∧ l = print := by
    cases acceptsPrint <;> simp
  have hlisted : l ∈ standard.filter (fun l => l ≤ minimum) ++ beyondTrace minimum ↔
      l ≤ minimum := by
    rw [List.mem_append, List.mem_filter, mem_standard, mem_beyondTrace, decide_eq_true_eq,
      le_iff, le_iff, lt_iff]
    omega
  rw [delivered, List.mem_append, hraw]
  by_cases hspecial : minimum = disabled ∨ minimum = print
  · have hempty : (minimum.isDisabled || minimum.isPrint) = true := by
      simpa [isDisabled, isPrint] using hspecial
    rw [if_pos hempty]
    simp only [List.not_mem_nil, or_false, ← not_or, ← and_assoc, hspecial, not_true_eq_false,
      false_and]
  · have hlist : ¬ (minimum.isDisabled || minimum.isPrint) = true := by
      simpa [isDisabled, isPrint] using hspecial
    rw [if_neg hlist, hlisted]
    simp only [← and_assoc, ← not_or, hspecial, not_false_eq_true, true_and]

end Level

namespace LevelFilter

/-! ## The list and the answer -/

/-- Whether a level passes though it is not listed: it does if the minimum is the level of raw
text, the destination declares no levels, and the level is below that of raw text. -/
def PassesUnlisted (f : LevelFilter) (l : Level) : Prop :=
  f.declared = none ∧ f.minimum = .print ∧ l < .print

instance (f : LevelFilter) (l : Level) : Decidable (f.PassesUnlisted l) :=
  inferInstanceAs (Decidable (_ ∧ _ ∧ _))

variable (f : LevelFilter) (l : Level)

theorem mem_levels_of_declared {f : LevelFilter} {declared : List Level}
    (h : f.declared = some declared) : l ∈ f.levels ↔ l ∈ declared ∧ l ≤ f.minimum := by
  rw [levels, h]
  simp only [List.mem_filter, decide_eq_true_eq]

theorem mem_levels_of_undeclared {f : LevelFilter} (h : f.declared = none) :
    l ∈ f.levels ↔ (f.acceptsPrint = true ∧ l = .print) ∨
      (f.minimum ≠ .disabled ∧ f.minimum ≠ .print ∧ l ≤ f.minimum) := by
  rw [levels, h]
  exact Level.mem_delivered f.minimum l f.acceptsPrint

theorem accepts_of_undeclared {f : LevelFilter} (h : f.declared = none) :
    f.accepts l = true ↔ if l = .print then f.acceptsPrint = true
      else l ≠ .disabled ∧ f.minimum ≠ .disabled ∧ l ≤ f.minimum := by
  rw [accepts, h]
  by_cases hraw : l = .print
  · simp [Level.isPrint, hraw]
  · simp [Level.isPrint, Level.isDisabled, hraw, and_assoc]

/-- What passes without being listed is indeed not listed. -/
theorem notMem_levels_of_passesUnlisted {f : LevelFilter} {l : Level} (h : f.PassesUnlisted l) :
    l ∉ f.levels := by
  obtain ⟨hdeclared, hminimum, hbelow⟩ := h
  rw [mem_levels_of_undeclared l hdeclared]
  rintro (⟨-, rfl⟩ | ⟨-, hother, -⟩)
  · exact Std.lt_irrefl hbelow
  · exact hother hminimum

theorem accepts_iff_of_undeclared {f : LevelFilter} (h : f.declared = none) :
    f.accepts l = true ↔ l ∈ f.levels ∨ f.PassesUnlisted l := by
  rw [accepts_of_undeclared l h, mem_levels_of_undeclared l h, PassesUnlisted]
  by_cases hraw : l = .print
  · subst hraw
    -- only the two special levels are as verbose as raw text
    have hlisted : ¬ (f.minimum ≠ .disabled ∧ f.minimum ≠ .print ∧ .print ≤ f.minimum) := by
      rintro ⟨hdisabled, hprint, hle⟩
      exact Std.not_le_of_gt (Level.lt_print_iff.mpr ⟨hprint, hdisabled⟩) hle
    have hbelow : ¬ Level.print < .print := Std.lt_irrefl
    simp [hlisted, hbelow]
  · rw [if_neg hraw]
    constructor
    · rintro ⟨hlast, hdisabled, hle⟩
      by_cases hminimum : f.minimum = .print
      · exact Or.inr ⟨h, hminimum, Level.lt_print_iff.mpr ⟨hraw, hlast⟩⟩
      · exact Or.inl (Or.inr ⟨hdisabled, hminimum, hle⟩)
    · rintro ((⟨-, hprint⟩ | ⟨hdisabled, -, hle⟩) | ⟨-, hminimum, hbelow⟩)
      · exact absurd hprint hraw
      · exact ⟨fun hlast => hdisabled (Level.disabled_le_iff.mp (hlast ▸ hle)), hdisabled, hle⟩
      · rw [hminimum]
        exact ⟨(Level.lt_print_iff.mp hbelow).2, by decide, Std.le_of_lt hbelow⟩

/-- A level passes if it is listed, or else by the exception. -/
theorem accepts_iff : f.accepts l = true ↔ l ∈ f.levels ∨ f.PassesUnlisted l := by
  cases hdeclared : f.declared with
  | some declared =>
      have hunlisted : ¬ f.PassesUnlisted l := by
        rintro ⟨hnone, -, -⟩
        rw [hdeclared] at hnone
        exact absurd hnone (by simp)
      rw [accepts, hdeclared, mem_levels_of_declared l hdeclared, Bool.and_eq_true,
        List.contains_iff_mem, decide_eq_true_eq, or_iff_left hunlisted]
  | none => exact accepts_iff_of_undeclared l hdeclared

/-- The list and the answer agree on every level but those of the exception. -/
theorem accepts_iff_mem_levels :
    (f.accepts l = true ↔ l ∈ f.levels) ↔ ¬ f.PassesUnlisted l := by
  rw [accepts_iff]
  constructor
  · exact fun hagree hunlisted =>
      notMem_levels_of_passesUnlisted hunlisted (hagree.mp (Or.inr hunlisted))
  · exact fun hlisted => or_iff_left hlisted

end LevelFilter

/-! ## Hooks and dispatches -/

/-- Whether a hook delivers a level that it does not list. -/
def Hook.DeliversUnlisted (h : Hook) (s : Store) (level : Level) : Prop :=
  (h.filter s).PassesUnlisted level

instance (h : Hook) (s : Store) (level : Level) : Decidable (h.DeliversUnlisted s level) :=
  inferInstanceAs (Decidable ((h.filter s).PassesUnlisted level))

namespace Logger

open Delivery

/-- A hook delivers a level exactly when it lists it, except that a hook with the minimum of raw
text and without declared levels delivers all levels below.  So a dispatch serves precisely the
hooks that list the level of its entry if none of the registered ones is such an exception, and
otherwise it does not. -/
theorem dispatched_iff_mem_levels {l : Logger} (hl : l.Registered) (s : Store) (level : Level)
    (message : String) (fields : Fields) (caller : Option Caller) :
    (∀ h : Hook, (h.accepts s level = true ↔ level ∈ h.levels s) ↔
      ¬ h.DeliversUnlisted s level) ∧
    ∃ ds s', l.Dispatched s level message fields caller ds s' ∧
      l.dispatch s level message fields caller =
        (dispatchResult (failures ds), { l with errors := l.errors ++ failures ds }, s') ∧
      ((∀ h : Hook, h ∈ ds.map Delivery.hook ↔
          (h.name, h) ∈ l.hooks.toList ∧ level ∈ h.levels s) ↔
        ∀ p ∈ l.hooks.toList, ¬ p.2.DeliversUnlisted s level) := by
  refine ⟨fun h => (h.filter s).accepts_iff_mem_levels level, ?_⟩
  obtain ⟨ds, s', hds, hdispatch⟩ := exists_dispatched hl s level message fields caller
  refine ⟨ds, s', hds, hdispatch l.errors, ?_⟩
  constructor
  · intro hserved p hp hunlisted
    have hmem : (p.2.name, p.2) ∈ l.hooks.toList := by rwa [hl p hp]
    have haccepts := ((p.2.filter s).accepts_iff level).mpr (Or.inr hunlisted)
    have hlisted := ((hserved p.2).mp ((hds.hooks p.2).mpr ⟨hmem, haccepts⟩)).2
    exact LevelFilter.notMem_levels_of_passesUnlisted hunlisted hlisted
  · intro hnone h
    rw [hds.hooks h]
    refine and_congr_right fun hmem => ?_
    exact ((h.filter s).accepts_iff_mem_levels level).mpr (hnone _ hmem)

/-- Store with an application that writes every message to a buffer, and one that does so for
warnings and raw text only. -/
def declaringStore : Store :=
  let recording (levels : Option (List Level)) : Destination := .application
    { identity := "app", levels := levels, acceptsPrint := true,
      respond := fun _ e => .writes "record" e.message, received := 0 }
  { Store.new (.ofConfig .empty ⟨0, 0⟩ false) ⟨0, 0⟩ "work" with
    destinations := [recording none, recording (some [.warning, .print])] }

/-- Logger of these applications: one hook for informations, one that declares its levels under
the minimum of raw text, and a disabled one. -/
def declaring : Logger :=
  withHooks declaringStore.settings ""
    [⟨"declared", .print, 1⟩, ⟨"disabled", .disabled, 0⟩, ⟨"infos", .info, 0⟩]

theorem dispatched_iff_mem_levels_warning :
    declaring.Registered ∧
      (∀ p ∈ declaring.hooks.toList, ¬ p.2.DeliversUnlisted declaringStore .warning) ∧
      (∀ h : Hook, (h.accepts declaringStore .warning = true ↔
        .warning ∈ h.levels declaringStore) ↔ ¬ h.DeliversUnlisted declaringStore .warning) ∧
      ∃ ds s', declaring.Dispatched declaringStore .warning "hot" .empty none ds s' ∧
        declaring.dispatch declaringStore .warning "hot" .empty none =
          (dispatchResult (failures ds),
            { declaring with errors := declaring.errors ++ failures ds }, s') ∧
        ((∀ h : Hook, h ∈ ds.map Delivery.hook ↔
            (h.name, h) ∈ declaring.hooks.toList ∧ .warning ∈ h.levels declaringStore) ↔
          ∀ p ∈ declaring.hooks.toList, ¬ p.2.DeliversUnlisted declaringStore .warning) := by
  have hregistered : declaring.Registered := registered_withHooks _ _ _
  refine ⟨hregistered, by decide +kernel, ?_⟩
  exact dispatched_iff_mem_levels hregistered declaringStore .warning "hot" .empty none

/-- A hook with the minimum of raw text lists raw text only, but an information passes it and is
delivered. -/
theorem raw_hook_delivers_info :
    let h : Hook := ⟨"raw", .print, 0⟩
    let l := withHooks declaringStore.settings "" [h]
    h.levels declaringStore = [.print] ∧ h.accepts declaringStore .info = true ∧
      (l.dispatch declaringStore .info "news" .empty none).2.2.buffers.content "record" =
        Text.bytesOf "news" := by
  decide +kernel

end Logger

end Hooklog
