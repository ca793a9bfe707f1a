import Hooklog.Proofs.Settings.FirstValue

/-!
# Configurations one after the other

A configuration gives values for some of the settings.  What several of them amount to is decided
for each setting alone: without override the first value counts unless the setting has one
already, and with override the last value counts.

* `Settings.apply_eq_offers` reads a configuration as six values that may be absent, offered to
  the settings one after the other.
* `Setting.offered_of_kept` and `Setting.offered_of_overridden` follow one setting along the
  values offered to it.
* `Settings.apply_composes` is the main statement; it also says which single configuration does
  what several do.
-/

namespace Hooklog

/-! ## One setting -/

namespace Setting

variable {α : Type}

/-- Setting after a value was offered that may be absent. -/
def offer (x : Setting α) (v : Option α) (override : Bool) : Setting α :=
  match v with
  | some v => x.set v override
  | none => x

/-- Setting after several values were offered. -/
def offered (x : Setting α) (values : List (Option α)) (override : Bool) : Setting α :=
  values.foldl (fun x v => x.offer v override) x

theorem offer_false_of_isSet {x : Setting α} (h : x.isSet = true) (v : Option α) :
    x.offer v false = x := by
  cases v with
  | none => rfl
  | some v =>
      have hrefused : ¬ x.admits false = true := by rw [admits, h]; decide
      exact if_neg hrefused

theorem offer_false_of_not_isSet {x : Setting α} (h : x.isSet = false) (v : α) :
    x.offer (some v) false = ⟨v, true⟩ := by
  have hadmitted : x.admits false = true := by rw [admits, h]; decide
  exact if_pos hadmitted

/-- Without override a setting keeps the value that it has, and else takes the first one. -/
theorem offered_of_kept (x : Setting α) (values : List (Option α)) :
    x.offered values false =
      if x.isSet then x
      else match values.findSome? id with
        | some v => ⟨v, true⟩
        | none => x := by
  induction values generalizing x with
  | nil => cases x.isSet <;> rfl
  | cons v rest ih =>
      have hnext : x.offered (v :: rest) false = (x.offer v false).offered rest false := rfl
      rw [hnext]
      cases hset : x.isSet with
      | true => rw [offer_false_of_isSet hset, ih, hset]; rfl
      | false =>
          cases v with
          | none => exact (ih x).trans (by rw [hset]; rfl)
          | some v => rw [offer_false_of_not_isSet hset, ih]; rfl

/-- With override a setting takes the last value. -/
theorem offered_of_overridden (x : Setting α) (values : List (Option α)) :
    x.offered values true =
      match values.reverse.findSome? id with
      | some v => ⟨v, true⟩
      | none => x := by
  induction values generalizing x with
  | nil => rfl
  | cons v rest ih =>
      have hnext : x.offered (v :: rest) true = (x.offer v true).offered rest true := rfl
      rw [hnext, ih, List.reverse_cons, List.findSome?_append]
      cases rest.reverse.findSome? id with
      | some later => rfl
      | none => cases v <;> rfl

/-- Two offers are one of the value that counts. -/
theorem offer_offer (x : Setting α) (v later : Option α) (override : Bool) :
    (x.offer v override).offer later override =
      x.offer (if override then later.or v else v.or later) override := by
  cases override with
  | true =>
      cases later with
      | none => rfl
      | some later => rfl
  | false =>
      cases v with
      | none => rfl
      | some v =>
          have hset : (x.offer (some v) false).isSet = true := by
            cases hx : x.isSet with
            | true => rw [offer_false_of_isSet hx, hx]
            | false => rw [offer_false_of_not_isSet hx]
          exact offer_false_of_isSet hset later

end Setting

/-! ## Configurations -/

namespace Config

/-- Value that a configuration holds for a setting. -/
def value? (c : Config) : (n : SettingName) → Option n.Value
  | .precision => c.precision
  | .durationFormat => c.durationFormat
  | .globalTime => c.baseTime
  | .format => c.format
  | .fileFormat => c.fileFormat
  | .reportCaller => c.reportCaller

/-- The values of a configuration, and those of another one where it holds none. -/
def orElse (c other : Config) : Config where
  format := c.format.or other.format
  fileFormat := c.fileFormat.or other.fileFormat
  reportCaller := c.reportCaller.or other.reportCaller
  precision := c.precision.or other.precision
  durationFormat := c.durationFormat.or other.durationFormat
  baseTime := c.baseTime.or other.baseTime

/-- Two configurations in one: an earlier value goes first, unless later ones override. -/
def merge (c later : Config) (override : Bool) : Config :=
  if override then later.orElse c else c.orElse later

theorem value?_orElse (c other : Config) (n : SettingName) :
    (c.orElse other).value? n = (c.value? n).or (other.value? n) := by
  cases n <;> rfl

theorem map_value?_merge (c later : Config) (override : Bool) (n : SettingName) :
    ((c.merge later override).value? n).map n.held =
      if override then ((later.value? n).map n.held).or ((c.value? n).map n.held)
      else ((c.value? n).map n.held).or ((later.value? n).map n.held) := by
  cases override with
  | true => exact (congrArg (Option.map n.held) (later.value?_orElse c n)).trans Option.map_or
  | false => exact (congrArg (Option.map n.held) (c.value?_orElse later n)).trans Option.map_or

/-- What the first configuration with a value for a setting makes the setting hold. -/
theorem findSome?_held (configs : List Config) (n : SettingName) :
    (configs.map fun c => (c.value? n).map n.held).findSome? id =
      (configs.findSome? fun c => c.value? n).map n.held := by
  rw [List.findSome?_map, List.map_findSome?]
  rfl

end Config

/-- The names of all settings, in the order in which a configuration gives their values. -/
def SettingName.all : List SettingName :=
  [.format, .fileFormat, .reportCaller, .precision, .durationFormat, .globalTime]

namespace Settings

/-- Give a value for a setting if there is one. -/
def offer (s : Settings) (n : SettingName) (v : Option n.Value) (override : Bool) : Settings :=
  match v with
  | some v => (s.perform ⟨n, v, override⟩).2
  | none => s

/-- Apply several configurations one after the other. -/
def applyAll (s : Settings) (configs : List Config) (override : Bool) : Settings :=
  configs.foldl (fun s c => s.apply c override) s

/-- A configuration gives the values that it holds one after the other. -/
theorem apply_eq_offers (s : Settings) (c : Config) (override : Bool) :
    s.apply c override =
      SettingName.all.foldl (fun s n => s.offer n (c.value? n) override) s := by
  obtain ⟨format, fileFormat, reportCaller, precision, durationFormat, baseTime⟩ := c
  cases format <;> cases fileFormat <;> cases reportCaller <;> cases precision <;>
    cases durationFormat <;> cases baseTime <;> rfl

theorem replace_setting (s : Settings) (n : SettingName) : s.replace n (s.setting n) = s := by
  cases n <;> rfl

/-- What is offered for a setting changes this setting only. -/
theorem offer_eq_replace (s : Settings) (n : SettingName) (v : Option n.Value)
    (override : Bool) :
    s.offer n v override = s.replace n ((s.setting n).offer (v.map n.held) override) := by
  cases v with
  | none => exact (s.replace_setting n).symm
  | some v => exact s.perform_eq_replace ⟨n, v, override⟩

/-- Offers for other settings leave a setting as it is. -/
theorem setting_foldl_offer_of_notMem (s : Settings) (c : Config) (override : Bool)
    {names : List SettingName} {n : SettingName} (h : n ∉ names) :
    (names.foldl (fun s n => s.offer n (c.value? n) override) s).setting n = s.setting n := by
  induction names generalizing s with
  | nil => rfl
  | cons m rest ih =>
      rw [List.mem_cons, not_or] at h
      obtain ⟨hm, hrest⟩ := h
      rw [List.foldl_cons, ih _ hrest, offer_eq_replace, setting_replace_other s hm]

/-- Among offers for settings of different names, a setting gets its own. -/
theorem setting_foldl_offer (s : Settings) (c : Config) (override : Bool)
    {names : List SettingName} (hnames : names.Nodup) {n : SettingName} (h : n ∈ names) :
    (names.foldl (fun s n => s.offer n (c.value? n) override) s).setting n =
      (s.setting n).offer ((c.value? n).map n.held) override := by
  induction names generalizing s with
  | nil => exact absurd h List.not_mem_nil
  | cons m rest ih =>
      obtain ⟨hm, hrest⟩ := List.nodup_cons.mp hnames
      rw [List.foldl_cons]
      by_cases hn : n = m
      · subst hn
        rw [setting_foldl_offer_of_notMem _ c override hm, offer_eq_replace,
          setting_replace_self]
      · have hlater : n ∈ rest := List.mem_of_ne_of_mem hn h
        rw [ih _ hrest hlater, offer_eq_replace, setting_replace_other s hn]

/-- One configuration offers its value to each setting. -/
theorem setting_apply (s : Settings) (c : Config) (override : Bool) (n : SettingName) :
    (s.apply c override).setting n =
      (s.setting n).offer ((c.value? n).map n.held) override := by
  have hnodup : SettingName.all.Nodup := by decide
  have hmem : n ∈ SettingName.all := by cases n <;> decide
  rw [apply_eq_offers]
  exact setting_foldl_offer s c override hnodup hmem

/-- A configuration leaves alone what is not protected. -/
theorem unprotected_apply (s : Settings) (c : Config) (override : Bool) :
    (s.apply c override).displayZone = s.displayZone ∧
      (s.apply c override).colorize = s.colorize := by
  rw [apply_eq_offers]
  generalize SettingName.all = names
  induction names generalizing s with
  | nil => exact ⟨rfl, rfl⟩
  | cons n rest ih =>
      obtain ⟨hzone, hcolorize⟩ :=
        s.unprotected_replace n ((s.setting n).offer ((c.value? n).map n.held) override)
      rw [← offer_eq_replace] at hzone hcolorize
      obtain ⟨hlaterZone, hlaterColorize⟩ := ih (s.offer n (c.value? n) override)
      exact ⟨hlaterZone.trans hzone, hlaterColorize.trans hcolorize⟩

/-! ## Several configurations -/

/-- Several configurations offer their values to each setting one after the other. -/
theorem setting_applyAll (s : Settings) (configs : List Config) (override : Bool)
    (n : SettingName) :
    (s.applyAll configs override).setting n =
      (s.setting n).offered (configs.map fun c => (c.value? n).map n.held) override := by
  induction configs generalizing s with
  | nil => rfl
  | cons c rest ih =>
      have hrest := ih (s.apply c override)
      rw [setting_apply] at hrest
      exact hrest

theorem unprotected_applyAll (s : Settings) (configs : List Config) (override : Bool) :
    (s.applyAll configs override).displayZone = s.displayZone ∧
      (s.applyAll configs override).colorize = s.colorize := by
  induction configs generalizing s with
  | nil => exact ⟨rfl, rfl⟩
  | cons c rest ih =>
      obtain ⟨hzone, hcolorize⟩ := s.unprotected_apply c override
      obtain ⟨hlaterZone, hlaterColorize⟩ := ih (s.apply c override)
      exact ⟨hlaterZone.trans hzone, hlaterColorize.trans hcolorize⟩

theorem eq_of_setting {s s' : Settings} (h : ∀ n, s.setting n = s'.setting n)
    (hzone : s.displayZone = s'.displayZone) (hcolorize : s.colorize = s'.colorize) :
    s = s' := by
  have hprecision : s.precision = s'.precision := h .precision
  have hdurationFormat : s.durationFormat = s'.durationFormat := h .durationFormat
  have hglobalTime : s.globalTime = s'.globalTime := h .globalTime
  have hformat : s.format = s'.format := h .format
  have hfileFormat : s.fileFormat = s'.fileFormat := h .fileFormat
  have hreportCaller : s.reportCaller = s'.reportCaller := h .reportCaller
  cases s
  cases s'
  simp_all

/-- Two configurations one after the other are one. -/
theorem apply_apply (s : Settings) (c later : Config) (override : Bool) :
    (s.apply c override).apply later override = s.apply (c.merge later override) override := by
  obtain ⟨hzone, hcolorize⟩ := s.unprotected_apply c override
  obtain ⟨hlaterZone, hlaterColorize⟩ := (s.apply c override).unprotected_apply later override
  obtain ⟨hmergedZone, hmergedColorize⟩ := s.unprotected_apply (c.merge later override) override
  refine eq_of_setting (fun n => ?_) ?_ ?_
  · rw [setting_apply, setting_apply, setting_apply, Setting.offer_offer,
      Config.map_value?_merge]
  · rw [hlaterZone, hzone, hmergedZone]
  · rw [hlaterColorize, hcolorize, hmergedColorize]

theorem applyAll_eq_apply (s : Settings) (c : Config) (configs : List Config)
    (override : Bool) :
    s.applyAll (c :: configs) override =
      s.apply (configs.foldl (fun c later => c.merge later override) c) override := by
  induction configs generalizing s c with
  | nil => rfl
  | cons later rest ih =>
      rw [List.foldl_cons, ← ih]
      exact congrArg (fun s => applyAll s rest override) (s.apply_apply c later override)

/-- Several configurations, one after the other, are decided for each setting alone.  Without
override a setting that has a value keeps it, and every other one takes the value of the first
configuration that holds one, as far as the setting can hold it; with override it takes that of
the last.  A setting for which no configuration holds a value stays as it is.  So the first of
the configurations, merged with the others field by field, does the same alone. -/
theorem apply_composes (s : Settings) (configs : List Config) :
    (∀ n, (s.applyAll configs false).setting n =
      if (s.setting n).isSet then s.setting n
      else match configs.findSome? fun c => c.value? n with
        | some v => ⟨n.held v, true⟩
        | none => s.setting n) ∧
    (∀ n, (s.applyAll configs true).setting n =
      match configs.reverse.findSome? fun c => c.value? n with
      | some v => ⟨n.held v, true⟩
      | none => s.setting n) ∧
    (∀ override, (s.applyAll configs override).displayZone = s.displayZone ∧
      (s.applyAll configs override).colorize = s.colorize) ∧
    (∀ c later override, (s.apply c override).apply later override =
      s.apply (c.merge later override) override) ∧
    ∀ c override, s.applyAll (c :: configs) override =
      s.apply (configs.foldl (fun c later => c.merge later override) c) override := by
  refine ⟨fun n => ?_, fun n => ?_, s.unprotected_applyAll configs, s.apply_apply,
    fun c => s.applyAll_eq_apply c configs⟩
  · rw [setting_applyAll, Setting.offered_of_kept, Config.findSome?_held]
    cases configs.findSome? fun c => c.value? n <;> rfl
  · rw [setting_applyAll, Setting.offered_of_overridden, ← List.map_reverse, Config.findSome?_held]
    cases configs.reverse.findSome? fun c => c.value? n <;> rfl

end Settings

end Hooklog
