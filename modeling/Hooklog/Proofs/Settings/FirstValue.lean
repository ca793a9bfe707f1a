import Hooklog.Settings

/-!
# The first value of a setting

Six settings of the process are protected: the first value given for one stays, unless a later
one overrides.  A value of the configuration that the process started with counts as given.

* `SettingCall` is a value given for one of the settings, `Settings.perform` gives it, and
  `Settings.after` is what a run of such calls leaves.
* `Settings.first_value_wins` is the main statement: in a run a call is applied exactly if it
  overrides or is the first to give a value, and it changes its own setting only.
* The precision alone does not hold every value.  It fits into 64 bits, and a greater one is cut
  to the greatest that fits, although the call that gives it answers it uncut
  (`precision_answered_uncut`).
-/

namespace Hooklog

/-- The protected settings. -/
inductive SettingName where
  | precision
  | durationFormat
  | globalTime
  | format
  | fileFormat
  | reportCaller
  deriving DecidableEq

namespace SettingName

/-- Values of a setting.  A precision is a number of nanoseconds. -/
def Value : SettingName → Type
  | .precision => Nat
  | .durationFormat => DurationFormat
  | .globalTime => Instant
  | .format => String
  | .fileFormat => String
  | .reportCaller => Bool

/-- What a setting holds once a value was applied: this value, or the greatest precision that
fits into 64 bits. -/
def held : (n : SettingName) → n.Value → n.Value
  | .precision, span => Nat.min span (UInt64.size - 1)
  | .durationFormat, v => v
  | .globalTime, v => v
  | .format, v => v
  | .fileFormat, v => v
  | .reportCaller, v => v

/-- Whether a call for a setting answers the value in force. -/
def isAnswered : SettingName → Bool
  | .durationFormat => false
  | .reportCaller => false
  | _ => true

end SettingName

/-- A value given for a setting. -/
structure SettingCall where
  name : SettingName
  value : name.Value
  override : Bool

/-- What a call for a setting answers. -/
structure SettingAnswer (α : Type) where
  /-- The value in force, from the settings that tell it. -/
  inForce : Option α
  applied : Bool

/-- Whether a configuration holds a value for a setting. -/
def Config.gives (config : Config) : SettingName → Bool
  | .precision => config.precision.isSome
  | .durationFormat => config.durationFormat.isSome
  | .globalTime => config.baseTime.isSome
  | .format => config.format.isSome
  | .fileFormat => config.fileFormat.isSome
  | .reportCaller => config.reportCaller.isSome

namespace Settings

/-- A setting by its name. -/
def setting (s : Settings) : (n : SettingName) → Setting n.Value
  | .precision => s.precision
  | .durationFormat => s.durationFormat
  | .globalTime => s.globalTime
  | .format => s.format
  | .fileFormat => s.fileFormat
  | .reportCaller => s.reportCaller

/-- Settings with another one under a name. -/
def replace (s : Settings) : (n : SettingName) → Setting n.Value → Settings
  | .precision, x => { s with precision := x }
  | .durationFormat, x => { s with durationFormat := x }
  | .globalTime, x => { s with globalTime := x }
  | .format, x => { s with format := x }
  | .fileFormat, x => { s with fileFormat := x }
  | .reportCaller, x => { s with reportCaller := x }

/-- What is read for a setting. -/
def read (s : Settings) (n : SettingName) : n.Value := (s.setting n).value

/-- One call. -/
def perform (s : Settings) : (c : SettingCall) → SettingAnswer c.name.Value × Settings
  | ⟨.precision, span, override⟩ =>
      let ((v, applied), s) := s.setPrecision span override
      (⟨some v, applied⟩, s)
  | ⟨.durationFormat, f, override⟩ =>
      let (applied, s) := s.setDurationFormat f override
      (⟨none, applied⟩, s)
  | ⟨.globalTime, t, override⟩ =>
      let ((v, applied), s) := s.setGlobalTime t override
      (⟨some v, applied⟩, s)
  | ⟨.format, f, override⟩ =>
      let ((v, applied), s) := s.setFormat f override
      (⟨some v, applied⟩, s)
  | ⟨.fileFormat, f, override⟩ =>
      let ((v, applied), s) := s.setFileFormat f override
      (⟨some v, applied⟩, s)
  | ⟨.reportCaller, b, override⟩ =>
      let (applied, s) := s.setReportCaller b override
      (⟨none, applied⟩, s)

/-- Settings after some calls. -/
def after (s : Settings) (calls : List SettingCall) : Settings :=
  calls.foldl (fun s c => (s.perform c).2) s

/-! ## One call -/

/-- The precision is given like the other settings, except that the value answered is the one
that was given if this one is applied. -/
theorem setPrecision_eq (s : Settings) (span : Nat) (override : Bool) :
    s.setPrecision span override =
      ((if s.precision.admits override then span else s.precision.value,
          s.precision.admits override),
        { s with precision := s.precision.set (storedPrecision span) override }) := by
  unfold setPrecision Setting.set
  cases s.precision.admits override with
  | true => rfl
  | false => rfl

theorem setting_replace_self (s : Settings) (n : SettingName) (x : Setting n.Value) :
    (s.replace n x).setting n = x := by
  cases n <;> rfl

theorem setting_replace_other (s : Settings) {n m : SettingName} (hm : m ≠ n)
    (x : Setting n.Value) : (s.replace n x).setting m = s.setting m := by
  cases n <;> cases m <;> try rfl
  -- what is left are the six pairs of equal names
  all_goals exact absurd rfl hm

theorem unprotected_replace (s : Settings) (n : SettingName) (x : Setting n.Value) :
    (s.replace n x).displayZone = s.displayZone ∧ (s.replace n x).colorize = s.colorize := by
  cases n <;> exact ⟨rfl, rfl⟩

section OneCall

variable (s : Settings) (c : SettingCall)

/-- All six settings admit values by the same rule. -/
theorem applied_perform :
    (s.perform c).1.applied = (s.setting c.name).admits c.override := by
  obtain ⟨n, v, override⟩ := c
  cases n with
  | precision => exact congrArg (fun r => r.1.2) (s.setPrecision_eq v override)
  | _ => rfl

/-- A call sets its own setting, and nothing else. -/
theorem perform_eq_replace :
    (s.perform c).2 =
      s.replace c.name ((s.setting c.name).set (c.name.held c.value) c.override) := by
  obtain ⟨n, v, override⟩ := c
  cases n with
  | precision => exact congrArg Prod.snd (s.setPrecision_eq v override)
  | _ => rfl

/-- What is read after a call: the new value if it was applied, else what was read before. -/
theorem read_perform :
    (s.perform c).2.read c.name =
      if (s.perform c).1.applied then c.name.held c.value else s.read c.name := by
  rw [read, perform_eq_replace, setting_replace_self, applied_perform, Setting.set]
  split
  · rfl
  · rfl

/-- A setting that tells the value in force tells what is then read, unless it holds another
value than the one applied. -/
theorem inForce_perform
    (hheld : (s.perform c).1.applied = true → c.name.held c.value = c.value) :
    (s.perform c).1.inForce =
      if c.name.isAnswered then some ((s.perform c).2.read c.name) else none := by
  obtain ⟨n, v, override⟩ := c
  cases n with
  | precision =>
      have hanswer := congrArg (fun r => some r.1.1) (s.setPrecision_eq v override)
      have happlied : (s.perform ⟨.precision, v, override⟩).1.applied =
        s.precision.admits override := s.applied_perform ⟨.precision, v, override⟩
      rw [read_perform]
      rw [happlied] at hheld ⊢
      refine hanswer.trans ?_
      cases hadmits : s.precision.admits override with
      | true => exact congrArg some (hheld hadmits).symm
      | false => rfl
  | _ => rfl

end OneCall

/-! ## Runs -/

/-- A setting has a value after a run if it had one before or a call gave one. -/
theorem isSet_after (s : Settings) (calls : List SettingCall) (n : SettingName) :
    ((s.after calls).setting n).isSet = true ↔
      (s.setting n).isSet = true ∨ ∃ c ∈ calls, c.name = n := by
  induction calls generalizing s with
  | nil => simp [after]
  | cons c rest ih =>
      change (((s.perform c).2.after rest).setting n).isSet = true ↔ _
      rw [ih]
      by_cases hn : c.name = n
      · subst hn
        have hset : ((s.perform c).2.setting c.name).isSet = true := by
          rw [perform_eq_replace, setting_replace_self, Setting.set, Setting.admits]
          cases hset : (s.setting c.name).isSet <;> cases c.override <;> simp [hset]
        simp [hset]
      · rw [perform_eq_replace, setting_replace_other s (Ne.symm hn)]
        simp [hn]

/-- The configuration that the process starts with counts. -/
theorem isSet_ofConfig (config : Config) (now : Instant) (colorize : Bool) (n : SettingName) :
    ((ofConfig config now colorize).setting n).isSet = config.gives n := by
  have hoption : ∀ {α : Type} (default : α) (v : Option α),
      (Setting.ofOption default v).isSet = v.isSome := by
    intro α default v
    cases v with
    | none => rfl
    | some v => rfl
  cases n with
  | precision => exact (hoption _ _).trans Option.isSome_map
  | _ => exact hoption _ _

/-- The first value wins.  Whatever the process started with and whatever calls were made, the
next one is applied exactly if it overrides or neither the configuration nor an earlier call
gave a value for its setting.  If it is applied its value is read from then on, and else what
was read before; where the answer tells the value in force it is the one then read, unless the
setting holds another value than the one applied; and nothing else changes. -/
theorem first_value_wins (config : Config) (now : Instant) (colorize : Bool)
    (calls : List SettingCall) (c : SettingCall) :
    let s := (ofConfig config now colorize).after calls
    let answer := (s.perform c).1
    let s' := (s.perform c).2
    (answer.applied = true ↔
      c.override = true ∨ config.gives c.name = false ∧ ∀ d ∈ calls, d.name ≠ c.name) ∧
    s'.read c.name = (if answer.applied then c.name.held c.value else s.read c.name) ∧
    ((answer.applied = true → c.name.held c.value = c.value) →
      answer.inForce = if c.name.isAnswered then some (s'.read c.name) else none) ∧
    (∀ n, n ≠ c.name → s'.setting n = s.setting n) ∧
    s'.displayZone = s.displayZone ∧ s'.colorize = s.colorize := by
  intro s answer s'
  have hset : (s.setting c.name).isSet = false ↔
      config.gives c.name = false ∧ ∀ d ∈ calls, d.name ≠ c.name := by
    rw [← Bool.not_eq_true, isSet_after, isSet_ofConfig]
    simp
  have happlied : answer.applied = true ↔
      c.override = true ∨ config.gives c.name = false ∧ ∀ d ∈ calls, d.name ≠ c.name := by
    rw [← hset, s.applied_perform c, Setting.admits, Bool.or_eq_true, Bool.not_eq_true']
  have hreplace := s.perform_eq_replace c
  refine ⟨happlied, s.read_perform c, s.inForce_perform c, fun n hn => ?_, ?_⟩
  · exact (congrArg (fun r => r.setting n) hreplace).trans (setting_replace_other s hn _)
  · change (s.perform c).2.displayZone = _ ∧ (s.perform c).2.colorize = _
    rw [hreplace]
    exact unprotected_replace s c.name _

/-- A precision that does not fit into 64 bits is not read as it was given, and not even as the
call that gave it answered. -/
theorem precision_answered_uncut :
    let s := ofConfig .empty ⟨0, 0⟩ false
    let c : SettingCall := ⟨.precision, (18446744073709551616 : Nat), false⟩
    (s.perform c).1.applied = true ∧
      (s.perform c).1.inForce = some (18446744073709551616 : Nat) ∧
      (s.perform c).2.read .precision = (18446744073709551615 : Nat) ∧
      (s.perform c).2.read .precision ≠ c.value ∧
      (s.perform c).1.inForce ≠ some ((s.perform c).2.read .precision) := by
  intro s c
  have hinForce : (s.perform c).1.inForce = some (18446744073709551616 : Nat) := rfl
  have hread : (s.perform c).2.read .precision = (18446744073709551615 : Nat) := rfl
  have hne : (18446744073709551615 : Nat) ≠ 18446744073709551616 := by decide
  refine ⟨rfl, hinForce, hread, ?_, ?_⟩
  · rw [hread]
    exact hne
  · rw [hinForce, hread]
    exact fun heq => hne (Option.some.inj heq).symm

end Settings

end Hooklog
