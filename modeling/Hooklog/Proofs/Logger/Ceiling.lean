import Hooklog.Proofs.Logger.Disabled
import Hooklog.Proofs.Logger.Registry
import Mathlib.Logic.Relation

/-!
# The level of a logger

The level of a logger is the most verbose minimum of its hooks, disabled ones left out.  Whether
a level is enabled is asked of the hooks one by one.  The two agree as long as no destination
declares levels, on all levels but that of raw text and the last one.

* `Logger.below_mostVerbose_iff` and `Logger.below_level_iff` read the level of a logger.
* `Logger.Arranges` is one step that may change the hooks of a logger, or put a derived logger in
  its place.  `Logger.Undeclared` is what every step keeps (`Logger.undeclared_arranges`).
* `Logger.level_is_ceiling` is the main statement, over all runs of such steps.  It also says what
  a hook that is added or disabled does to the enabled levels.
-/

namespace Hooklog

/-! ## Stores -/

/-- Every destination stays and declares the levels that it declared before. -/
def Store.KeepsLevels (s s' : Store) : Prop :=
  ∀ (id : DestinationId) (d : Destination), s.destinations[id]? = some d →
    ∃ d', s'.destinations[id]? = some d' ∧ d'.levels? = d.levels?

namespace Store.KeepsLevels

variable {s s' s'' : Store}

theorem refl (s : Store) : s.KeepsLevels s := fun _ d hd => ⟨d, hd, rfl⟩

theorem trans (h : s.KeepsLevels s') (h' : s'.KeepsLevels s'') : s.KeepsLevels s'' := by
  intro id d hd
  obtain ⟨d', hd', hlevels⟩ := h id d hd
  obtain ⟨d'', hd'', hlevels'⟩ := h' id d' hd'
  exact ⟨d'', hd'', hlevels'.trans hlevels⟩

theorem addDestination (s : Store) (d : Destination) : s.KeepsLevels (s.addDestination d).2 :=
  fun _ d' hd => ⟨d', (List.getElem?_append_left (List.getElem?_eq_some_iff.mp hd).1).trans hd, rfl⟩

end Store.KeepsLevels

namespace Hook

/-- The destination of a hook declares no levels. -/
def Undeclared (h : Hook) (s : Store) : Prop :=
  ∃ d, s.destinations[h.destination]? = some d ∧ d.levels? = none

theorem Undeclared.keeps {h : Hook} {s s' : Store} (hh : h.Undeclared s)
    (hkeeps : s.KeepsLevels s') : h.Undeclared s' := by
  obtain ⟨d, hd, hnone⟩ := hh
  obtain ⟨d', hd', hlevels⟩ := hkeeps h.destination d hd
  exact ⟨d', hd', hlevels.trans hnone⟩

/-- A derived hook has the destination of the hook itself or a copy of its log file. -/
theorem Undeclared.derive {h : Hook} {s : Store} (hh : h.Undeclared s) :
    (h.derive s).1.Undeclared (h.derive s).2 ∧ s.KeepsLevels (h.derive s).2 := by
  obtain ⟨d, hd, hnone⟩ := hh
  cases d with
  | logFile f =>
      have hderive : h.derive s =
          ({ h with destination := s.destinations.length },
            { s with destinations := s.destinations ++ [.logFile f.copy] }) := by
        rw [Hook.derive, Store.derive, hd]
        rfl
      rw [hderive]
      exact ⟨⟨.logFile f.copy, List.getElem?_concat_length, rfl⟩, .addDestination s _⟩
  | console | application =>
      have hderive : h.derive s = (h, s) := by
        rw [Hook.derive, Store.derive, hd]
      rw [hderive]
      exact ⟨⟨_, hd, hnone⟩, .refl s⟩

/-- An ordinary level passes a hook without declared levels down to the minimum of the hook. -/
theorem accepts_of_undeclared {h : Hook} {s : Store} (hh : h.Undeclared s) {level : Level}
    (hraw : level ≠ .print) (hlast : level ≠ .disabled) :
    h.accepts s level = true ↔ h.level ≠ .disabled ∧ level ≤ h.level := by
  obtain ⟨d, hd, hnone⟩ := hh
  have hfilter : h.filter s = ⟨h.level, none, d.acceptsPrint⟩ := by
    rw [filter, hd, ← hnone]
    rfl
  rw [accepts, hfilter, LevelFilter.accepts]
  simp [Level.isPrint, Level.isDisabled, hraw, hlast]

end Hook

namespace Logger

/-! ## The level -/

theorem le_moreVerbose_iff {a b c : Level} : c ≤ moreVerbose a b ↔ c ≤ a ∨ c ≤ b := by
  rw [moreVerbose]
  split
  · rename_i hab
    exact ⟨Or.inr, fun h => h.elim (fun hca => Std.le_trans hca hab) id⟩
  · rename_i hab
    have hba : b ≤ a := (Std.le_total (a := a) (b := b)).resolve_left hab
    exact ⟨Or.inl, fun h => h.elim id fun hcb => Std.le_trans hcb hba⟩

theorem le_foldl_moreVerbose_iff (levels : List Level) {first c : Level} :
    c ≤ levels.foldl moreVerbose first ↔ c ≤ first ∨ ∃ m ∈ levels, c ≤ m := by
  induction levels generalizing first with
  | nil => simp
  | cons m rest ih =>
      rw [List.foldl_cons, ih, le_moreVerbose_iff, List.exists_mem_cons_iff, or_assoc]

/-- The most verbose of some levels, the last level if there are none. -/
def mostVerbose : List Level → Level
  | [] => .disabled
  | first :: rest => rest.foldl moreVerbose first

/-- Where the last level is not among them, the most verbose of some levels is not the last one
unless there are none, and it reaches as far down as one of them does. -/
theorem below_mostVerbose_iff {levels : List Level} (henabled : Level.disabled ∉ levels)
    {level : Level} :
    (mostVerbose levels ≠ .disabled ∧ level ≤ mostVerbose levels) ↔
      ∃ m ∈ levels, level ≤ m := by
  cases levels with
  | nil => simp [mostVerbose]
  | cons first rest =>
      rw [mostVerbose, List.exists_mem_cons_iff, ← le_foldl_moreVerbose_iff]
      refine and_iff_right fun hlast => ?_
      have hreached : ∃ m ∈ first :: rest, Level.disabled ≤ m := by
        rw [List.exists_mem_cons_iff, ← le_foldl_moreVerbose_iff, hlast]
        exact Std.le_refl _
      obtain ⟨m, hm, hle⟩ := hreached
      exact henabled (Level.disabled_le_iff.mp hle ▸ hm)

/-- Minima of the hooks that are not disabled. -/
def minima (l : Logger) : List Level :=
  (l.hooks.values.map Hook.level).filter fun l => !l.isDisabled

theorem mem_minima_iff {l : Logger} {m : Level} :
    m ∈ l.minima ↔ m ≠ .disabled ∧ ∃ h ∈ l.hooks.values, h.level = m := by
  rw [minima, List.mem_filter, List.mem_map, Level.isDisabled, Bool.not_eq_true',
    decide_eq_false_iff_not, and_comm]

theorem level_eq (l : Logger) : l.level = mostVerbose l.minima := rfl

/-- The level of a logger reaches down to another one if the minimum of some hook does. -/
theorem below_level_iff (l : Logger) (level : Level) :
    (l.level ≠ .disabled ∧ level ≤ l.level) ↔
      ∃ h ∈ l.hooks.values, h.level ≠ .disabled ∧ level ≤ h.level := by
  have hlast : Level.disabled ∉ l.minima := fun h => (mem_minima_iff.mp h).1 rfl
  rw [level_eq, below_mostVerbose_iff hlast]
  constructor
  · rintro ⟨m, hm, hbelow⟩
    obtain ⟨henabled, h, hh, rfl⟩ := mem_minima_iff.mp hm
    exact ⟨h, hh, henabled, hbelow⟩
  · rintro ⟨h, hh, henabled, hbelow⟩
    exact ⟨h.level, mem_minima_iff.mpr ⟨henabled, h, hh, rfl⟩, hbelow⟩

/-! ## Enabled levels -/

section Enabled

variable (l : Logger) (s : Store) (level : Level)

theorem isEnabled_iff :
    l.isEnabled s level = true ↔ ∃ h ∈ l.hooks.values, h.accepts s level = true :=
  List.any_eq_true

/-- Whether a hook under another name accepts a level. -/
def IsEnabledApart (name : String) : Prop :=
  ∃ other h, other ≠ name ∧ l.hooks.get? other = some h ∧ h.accepts s level = true

/-- A level is enabled by the hook of a name or by another one. -/
theorem isEnabled_iff_apart (name : String) :
    l.isEnabled s level = true ↔
      l.IsEnabledApart s level name ∨
        ∃ h, l.hooks.get? name = some h ∧ h.accepts s level = true := by
  rw [isEnabled_iff]
  constructor
  · rintro ⟨h, hh, haccepts⟩
    obtain ⟨⟨other, h⟩, hmem, rfl⟩ := List.mem_map.mp hh
    have hstored : l.hooks.get? other = some h := SortedMap.get?_eq_some_iff.mpr hmem
    by_cases hother : other = name
    · exact Or.inr ⟨h, hother ▸ hstored, haccepts⟩
    · exact Or.inl ⟨other, h, hother, hstored, haccepts⟩
  · rintro (⟨other, h, -, hstored, haccepts⟩ | ⟨h, hstored, haccepts⟩)
    · exact ⟨h, List.mem_map_of_mem (SortedMap.mem_of_get? hstored), haccepts⟩
    · exact ⟨h, List.mem_map_of_mem (SortedMap.mem_of_get? hstored), haccepts⟩

/-- A level is enabled by the hook that was just stored or by one under another name. -/
theorem isEnabled_insert (name : String) (h : Hook) :
    ({ l with hooks := l.hooks.insert name h } : Logger).isEnabled s level = true ↔
      l.IsEnabledApart s level name ∨ h.accepts s level = true := by
  rw [isEnabled_iff_apart _ s level name, SortedMap.get?_insert_self]
  refine or_congr ?_ (by simp)
  refine exists_congr fun other => exists_congr fun hook => and_congr_right fun hother => ?_
  rw [SortedMap.get?_insert_of_ne _ (Ne.symm hother)]

/-- A hook under a new name enables the levels that it accepts, and no other. -/
theorem isEnabled_addHook {h : Hook} (hnew : l.hooks.get? h.name = none) :
    (l.addHook h).isEnabled s level = true ↔
      l.isEnabled s level = true ∨ h.accepts s level = true := by
  rw [l.isEnabled_iff_apart s level h.name, hnew, addHook, isEnabled_insert]
  simp

end Enabled

/-! ## Steps -/

/-- A way to derive a logger. -/
inductive Derivation where
  | copy (moduleName : Option String)
  | child (name : String)
  | withField (name : String) (v : FieldValue)
  | withFields (fields : Fields)
  | withTime (t : Instant)

/-- The logger derived in some way. -/
def derived (l : Logger) (s : Store) : Derivation → Logger × Store
  | .copy moduleName => l.copy s moduleName
  | .child name => l.child s name
  | .withField name v => l.withField s name v
  | .withFields fields => l.withFields s fields
  | .withTime t => l.withTime s t

/-- All derivations treat the hooks alike. -/
theorem hooks_derived (l : Logger) (s : Store) (d : Derivation) :
    (l.derived s d).1.hooks = .ofList (derivedHooks l.hooks.toList s).1 ∧
      (l.derived s d).2 = (derivedHooks l.hooks.toList s).2 := by
  cases d <;> exact ⟨rfl, rfl⟩

end Logger

/-- Hooks that a call on the registry stores. -/
def HookCall.stores : HookCall → List Hook
  | .add h => [h]
  | .addMany hooks => hooks
  | .tryAdd name (.ok level) destination => [⟨name, level, destination⟩]
  | _ => []

namespace Logger

/-- No destination of a hook declares levels. -/
def Undeclared (l : Logger) (s : Store) : Prop := ∀ h ∈ l.hooks.values, h.Undeclared s

/-- One step: a call on the registry that stores hooks without declared levels, a derivation, or
anything else that leaves the hooks and the declared levels as they are. -/
inductive Arranges : Logger × Store → Logger × Store → Prop where
  | manage (l : Logger) (s : Store) (c : HookCall) : (∀ h ∈ c.stores, h.Undeclared s) →
      Arranges (l, s) ((l.manage c).2, s)
  | derive (l : Logger) (s : Store) (d : Derivation) : Arranges (l, s) (l.derived s d)
  | meanwhile {l l' : Logger} {s s' : Store} : l'.hooks = l.hooks → s.KeepsLevels s' →
      Arranges (l, s) (l', s')

theorem undeclared_insert {l : Logger} {s : Store} (hl : l.Undeclared s) (name : String)
    {h : Hook} (hh : h.Undeclared s) :
    ({ l with hooks := l.hooks.insert name h } : Logger).Undeclared s := by
  intro h' hmem
  obtain ⟨p, hp, rfl⟩ := List.mem_map.mp hmem
  rcases SortedMap.mem_insertIn hp with rfl | hp
  · exact hh
  · exact hl p.2 (List.mem_map_of_mem hp)

theorem undeclared_addHooks {l : Logger} {s : Store} (hl : l.Undeclared s) {hooks : List Hook}
    (hhooks : ∀ h ∈ hooks, h.Undeclared s) : (l.addHooks hooks).Undeclared s := by
  induction hooks generalizing l with
  | nil => exact hl
  | cons h rest ih =>
      obtain ⟨hh, hrest⟩ := List.forall_mem_cons.mp hhooks
      exact ih (undeclared_insert hl h.name hh) hrest

theorem undeclared_manage {l : Logger} {s : Store} (hl : l.Undeclared s) {c : HookCall}
    (hc : ∀ h ∈ c.stores, h.Undeclared s) : (l.manage c).2.Undeclared s := by
  cases c with
  | add h => exact undeclared_insert hl h.name (hc h List.mem_cons_self)
  | addMany hooks => exact undeclared_addHooks hl hc
  | tryAdd name level destination =>
      cases level with
      | error error => exact hl
      | ok level => exact undeclared_insert hl name (hc _ List.mem_cons_self)
  | setLevel name level =>
      cases level with
      | error error => exact hl
      | ok level =>
          cases hh : l.hook? name with
          | none =>
              rw [manage_of_vain (.setMissing name level hh)]
              exact hl
          | some h =>
              have hstored : h ∈ l.hooks.values :=
                List.mem_map_of_mem (SortedMap.mem_of_get? hh)
              rw [manage_setLevel_of_hook? hh]
              exact undeclared_insert hl _ (hl h hstored)
  | remove name =>
      intro h hmem
      obtain ⟨p, hp, rfl⟩ := List.mem_map.mp hmem
      exact hl p.2 (List.mem_map_of_mem (List.mem_filter.mp hp).1)

theorem undeclared_derivedHooks {hooks : List (String × Hook)} {s : Store}
    (hhooks : ∀ p ∈ hooks, p.2.Undeclared s) :
    (∀ p ∈ (derivedHooks hooks s).1, p.2.Undeclared (derivedHooks hooks s).2) ∧
      s.KeepsLevels (derivedHooks hooks s).2 := by
  induction hooks generalizing s with
  | nil => exact ⟨List.forall_mem_nil _, .refl s⟩
  | cons p rest ih =>
      obtain ⟨hp, hrest⟩ := List.forall_mem_cons.mp hhooks
      obtain ⟨hderived, hkeeps⟩ := hp.derive
      obtain ⟨hlater, hkeepsLater⟩ := ih fun q hq => (hrest q hq).keeps hkeeps
      exact ⟨List.forall_mem_cons.mpr ⟨hderived.keeps hkeepsLater, hlater⟩,
        hkeeps.trans hkeepsLater⟩

theorem undeclared_derived {l : Logger} {s : Store} (hl : l.Undeclared s) (d : Derivation) :
    (l.derived s d).1.Undeclared (l.derived s d).2 := by
  obtain ⟨hhooks, hstore⟩ := l.hooks_derived s d
  have hall : ∀ p ∈ l.hooks.toList, p.2.Undeclared s :=
    fun p hp => hl p.2 (List.mem_map_of_mem hp)
  obtain ⟨hderived, -⟩ := undeclared_derivedHooks hall
  intro h hmem
  rw [hhooks] at hmem
  rw [hstore]
  obtain ⟨p, hp, rfl⟩ := List.mem_map.mp hmem
  rcases SortedMap.mem_insertMany hp with hp | hp
  · exact absurd hp List.not_mem_nil
  · exact hderived p hp

theorem registered_derived {l : Logger} (hl : l.Registered) (s : Store) (d : Derivation) :
    (l.derived s d).1.Registered := by
  intro p hp
  rw [(l.hooks_derived s d).1] at hp
  exact registered_derive hl s l.moduleName l.fields p hp

/-- What a step keeps. -/
theorem undeclared_arranges {a b : Logger × Store} (h : Arranges a b)
    (ha : a.1.Registered ∧ a.1.Undeclared a.2) : b.1.Registered ∧ b.1.Undeclared b.2 := by
  obtain ⟨hregistered, hundeclared⟩ := ha
  cases h with
  | manage l s c hc => exact ⟨registered_manage hregistered c, undeclared_manage hundeclared hc⟩
  | derive l s d => exact ⟨registered_derived hregistered s d, undeclared_derived hundeclared d⟩
  | meanwhile hhooks hkeeps =>
      refine ⟨fun p hp => hregistered p (hhooks ▸ hp), fun h hmem => ?_⟩
      rw [hhooks] at hmem
      exact (hundeclared h hmem).keeps hkeeps

/-- What a run keeps. -/
theorem undeclared_run {a b : Logger × Store} (h : Relation.ReflTransGen Arranges a b)
    (ha : a.1.Registered ∧ a.1.Undeclared a.2) : b.1.Registered ∧ b.1.Undeclared b.2 := by
  induction h with
  | refl => exact ha
  | tail _ hstep ih => exact undeclared_arranges hstep ih

/-! ## The ceiling -/

theorem isEnabled_of_undeclared {l : Logger} {s : Store} (hl : l.Undeclared s) {level : Level}
    (hraw : level ≠ .print) (hlast : level ≠ .disabled) :
    l.isEnabled s level = true ↔ l.level ≠ .disabled ∧ level ≤ l.level := by
  rw [isEnabled_iff, below_level_iff]
  refine exists_congr fun h => and_congr_right fun hmem => ?_
  exact Hook.accepts_of_undeclared (hl h hmem) hraw hlast

open Delivery

/-- Hooks are served exactly by the dispatches at an enabled level. -/
theorem served_iff_isEnabled {l : Logger} (hl : l.Registered) {s s' : Store} {level : Level}
    {message : String} {fields : Fields} {caller : Option Caller} {ds : List Delivery}
    (hds : l.Dispatched s level message fields caller ds s') :
    ds ≠ [] ↔ l.isEnabled s level = true := by
  rw [isEnabled_iff]
  constructor
  · intro hsome
    obtain ⟨d, hd⟩ := List.exists_mem_of_ne_nil ds hsome
    have hserved := (hds.mem_iff hl d.hook).mp (List.mem_map_of_mem hd)
    exact ⟨d.hook, List.mem_filter.mp hserved⟩
  · rintro ⟨h, haccepting⟩
    have hserved := (hds.mem_iff hl h).mpr (List.mem_filter.mpr haccepting)
    obtain ⟨d, hd, -⟩ := List.mem_map.mp hserved
    exact List.ne_nil_of_mem hd

/-- A hook that is disabled takes away the levels that no other hook accepts, and adds none. -/
theorem isEnabled_setHookLevel_disabled {l l' : Logger} {s : Store} (hl : l.Undeclared s)
    {level : Level} (hraw : level ≠ .print) (hlast : level ≠ .disabled) {name : String}
    (hset : l.setHookLevel name (.ok .disabled) = .ok l') :
    ∃ h, l.hook? name = some h ∧
      (l.isEnabled s level = true ↔
        l'.isEnabled s level = true ∨ h.accepts s level = true) := by
  cases hh : l.hook? name with
  | none =>
      rw [setHookLevel, hh] at hset
      exact absurd hset (by simp)
  | some h =>
      rw [setHookLevel, hh] at hset
      have hundeclared : h.Undeclared s :=
        hl h (List.mem_map_of_mem (SortedMap.mem_of_get? hh))
      have hsilent : ¬ (h.withLevel .disabled).accepts s level = true := by
        rw [Hook.accepts_of_undeclared (h := h.withLevel .disabled) hundeclared hraw hlast]
        exact fun henabled => henabled.1 rfl
      refine ⟨h, rfl, ?_⟩
      rw [← Except.ok.inj hset, isEnabled_insert, or_iff_left hsilent,
        l.isEnabled_iff_apart s level (Hook.nameOf name)]
      refine or_congr_right ?_
      change (∃ h', l.hook? name = some h' ∧ _) ↔ _
      rw [hh]
      simp

/-- The level of a logger is the exact ceiling of what it delivers.  At the end of every run of
calls on the registry and derivations, over destinations without declared levels, an ordinary
level is enabled if the level of the logger is not the last one and reaches down to it, and
else not; and precisely then an entry at this level is handed to a hook.  A hook added under a
new name enables what it accepts and takes nothing away, a hook that is disabled takes away at
most what it accepted and enables nothing. -/
theorem level_is_ceiling {l l' : Logger} {s s' : Store} (hl : l.Registered)
    (hs : l.Undeclared s) (hrun : Relation.ReflTransGen Arranges (l, s) (l', s'))
    {level : Level} (hraw : level ≠ .print) (hlast : level ≠ .disabled) :
    (l'.isEnabled s' level = true ↔ l'.level ≠ .disabled ∧ level ≤ l'.level) ∧
    (∀ message fields caller, ∃ ds s'', l'.Dispatched s' level message fields caller ds s'' ∧
      l'.dispatch s' level message fields caller =
        (dispatchResult (failures ds), { l' with errors := l'.errors ++ failures ds }, s'') ∧
      (ds ≠ [] ↔ l'.level ≠ .disabled ∧ level ≤ l'.level)) ∧
    (∀ h : Hook, l'.hooks.get? h.name = none →
      ((l'.addHook h).isEnabled s' level = true ↔
        l'.isEnabled s' level = true ∨ h.accepts s' level = true)) ∧
    ∀ name l'', l'.setHookLevel name (.ok .disabled) = .ok l'' →
      ∃ h, l'.hook? name = some h ∧
        (l'.isEnabled s' level = true ↔
          l''.isEnabled s' level = true ∨ h.accepts s' level = true) := by
  obtain ⟨hregistered, hundeclared⟩ := undeclared_run hrun ⟨hl, hs⟩
  have henabled := isEnabled_of_undeclared hundeclared hraw hlast
  refine ⟨henabled, fun message fields caller => ?_, fun h => l'.isEnabled_addHook s' level,
    fun name l'' => isEnabled_setHookLevel_disabled hundeclared hraw hlast⟩
  obtain ⟨ds, s'', hds, hdispatch⟩ :=
    exists_dispatched hregistered s' level message fields caller
  exact ⟨ds, s'', hds, hdispatch l'.errors, (served_iff_isEnabled hregistered hds).trans henabled⟩

/-- A hook for informations is added to a logger without hooks, and a logger derived from it
warns. -/
theorem level_is_ceiling_warning :
    let steps := (bare.manage (.add ⟨"infos", .info, 0⟩)).2.derived declaringStore (.child "part")
    bare.Registered ∧ bare.Undeclared declaringStore ∧
      Relation.ReflTransGen Arranges (bare, declaringStore) (steps.1, steps.2) ∧
      Level.warning ≠ .print ∧ Level.warning ≠ .disabled ∧
      steps.1.level = .info ∧ steps.1.isEnabled steps.2 .warning = true := by
  intro steps
  have hregistered : bare.Registered := registered_withHooks _ _ _
  have hundeclared : bare.Undeclared declaringStore := List.forall_mem_nil _
  have hadded : Arranges (bare, declaringStore)
      ((bare.manage (.add ⟨"infos", .info, 0⟩)).2, declaringStore) :=
    .manage bare declaringStore _ (List.forall_mem_singleton.mpr ⟨_, rfl, rfl⟩)
  have hrun : Relation.ReflTransGen Arranges (bare, declaringStore) (steps.1, steps.2) :=
    (Relation.ReflTransGen.single hadded).tail (.derive _ declaringStore (.child "part"))
  have hraw : Level.warning ≠ .print := by decide
  have hlast : Level.warning ≠ .disabled := by decide
  have hlevel : steps.1.level = .info := by decide +kernel
  refine ⟨hregistered, hundeclared, hrun, hraw, hlast, hlevel, ?_⟩
  rw [(level_is_ceiling hregistered hundeclared hrun hraw hlast).1, hlevel]
  decide

end Logger

end Hooklog
