import Hooklog.Proofs.Logger.Deliveries
import Hooklog.Proofs.Store.Reachable

/-!
# Two loggers on copies of destinations

One entry is delivered to some hooks, and in another store to hooks that share their destinations
or have copies of them.  The two stores are compared delivery by delivery.

* `Store.WritesMore` tells from the deliveries to the hooks themselves whether a copy writes a
  header where its destination writes none.
* `Store.Follows` relates the two stores on the way.  They differ in files only, and in these only
  once a copy has written such a header; from then on some file of the second store is longer.
* `Store.Follows.sameOutput_iff` says what this comes to: buffers and files hold the same in the
  end exactly if no copy has written a header alone.
-/

namespace Hooklog

open FileTree

/-- Every buffer and every file holds the same in two stores. -/
structure Store.SameOutput (s s' : Store) : Prop where
  buffer : ∀ name, s.buffers.content name = s'.buffers.content name
  file : ∀ l, s.files.content? l = s'.files.content? l

/-- The deliveries of an entry to some hooks, in order. -/
def Hook.deliveries (e : Entry) : List Hook → Store → List Delivery
  | [], _ => []
  | h :: rest, s => h.delivery s e :: deliveries e rest (s.deliver h.destination e).2

theorem Hook.entry_of_mem_deliveries {e : Entry} {hooks : List Hook} {s : Store} {d : Delivery}
    (h : d ∈ deliveries e hooks s) : d.entry = e := by
  induction hooks generalizing s with
  | nil => exact absurd h List.not_mem_nil
  | cons hook rest ih =>
      rcases List.mem_cons.mp h with rfl | h
      · rfl
      · exact ih h

/-! ## Headers that copies write alone -/

/-- Whether one of some deliveries to a destination has succeeded. -/
def Served (ds : List Delivery) (id : DestinationId) : Prop :=
  ∃ d ∈ ds, d.hook.destination = id ∧ d.result = .ok ()

theorem served_concat {ds : List Delivery} {d : Delivery} {id : DestinationId} :
    Served (ds ++ [d]) id ↔ Served ds id ∨ d.hook.destination = id ∧ d.result = .ok () := by
  simp only [Served, List.mem_append, List.mem_singleton, or_and_right, exists_or,
    exists_eq_left]

/-- A delivery that fails, or is made to another destination, serves none. -/
theorem served_concat_of_not {ds : List Delivery} {d : Delivery} {id : DestinationId}
    (h : ¬(d.hook.destination = id ∧ d.result = .ok ())) : Served (ds ++ [d]) id ↔ Served ds id :=
  served_concat.trans (or_iff_left h)

namespace Store

/-- Whether the copy of a destination heads its file in a delivery and the destination itself does
not, after some other deliveries. -/
def Reheads (s : Store) (before : List Delivery) (d : Delivery) : Prop :=
  d.result = .ok () ∧ ∃ f, s.destinations[d.hook.destination]? = some (.logFile f) ∧
    f.Reheads (f.target s.files.workingName d.entry.moduleName)
      (Served before d.hook.destination)

/-- Whether copies of the destinations write more headers in some deliveries. -/
def WritesMore (s : Store) (ds : List Delivery) : Prop :=
  ∃ before d, before ++ [d] <+: ds ∧ s.Reheads before d

theorem not_writesMore_nil (s : Store) : ¬s.WritesMore [] := by
  rintro ⟨before, d, hextends, -⟩
  exact absurd (List.prefix_nil.mp hextends) (by simp)

theorem writesMore_concat {s : Store} {ds : List Delivery} {d : Delivery} :
    s.WritesMore (ds ++ [d]) ↔ s.WritesMore ds ∨ s.Reheads ds d := by
  constructor
  · rintro ⟨before, d', hextends, hreheads⟩
    rcases List.prefix_concat_iff.mp hextends with hwhole | hextends
    · obtain ⟨rfl, hlast⟩ := List.append_inj' hwhole rfl
      obtain rfl : d' = d := List.singleton_inj.mp hlast
      exact .inr hreheads
    · exact .inl ⟨before, d', hextends, hreheads⟩
  · rintro (⟨before, d', hextends, hreheads⟩ | hreheads)
    · exact ⟨before, d', hextends.trans (List.prefix_append ds [d]), hreheads⟩
    · exact ⟨ds, d, List.prefix_rfl, hreheads⟩

/-- One more delivery, to a log file. -/
theorem reheads_logFile_iff {s : Store} {ds : List Delivery} {d : Delivery} {f : LogFile}
    (hf : s.destinations[d.hook.destination]? = some (.logFile f)) :
    s.Reheads ds d ↔ d.result = .ok () ∧
      f.Reheads (f.target s.files.workingName d.entry.moduleName)
        (Served ds d.hook.destination) := by
  rw [Reheads, hf]
  simp only [Option.some.injEq, Destination.logFile.injEq, exists_eq_left']

/-! ## Stores of the logger and of the derived one -/

/-- The second store is that of a derived logger and the first one that of the logger itself, after
some deliveries of an entry. -/
structure Follows (s₀ : Store) (e : Entry) (past : List Delivery) (s r : Store) : Prop where
  settings : r.settings = s.settings
  formatters : r.formatters = s.formatters
  buffers : r.buffers = s.buffers
  workingName : s.files.workingName = s₀.files.workingName
  covered : s.files.Covered r.files
  settled : s.Settled []
  shared : ∀ (id : DestinationId) (d : Destination), s₀.destinations[id]? = some d →
    (∀ f, d ≠ .logFile f) → ∃ d', s.destinations[id]? = some d' ∧
      r.destinations[id]? = some d' ∧ ∀ f, d' ≠ .logFile f
  logFile : ∀ (id : DestinationId) (f : LogFile), s₀.destinations[id]? = some (.logFile f) →
    ∃ f', s.destinations[id]? = some (.logFile f') ∧
      f.After (f.target s₀.files.workingName e.moduleName) (Served past id) f'
  same : ¬s₀.WritesMore past → r.files = s.files
  shorter : s₀.WritesMore past → ∃ l, s.files.ShorterAt r.files l

namespace Follows

variable {s₀ s r : Store} {e : Entry} {past : List Delivery}

/-- A delivery that fails, or is made to no log file, counts for nothing. -/
theorem note (h : Follows s₀ e past s r) {d : Delivery}
    (hd : d.result = .ok () → ∀ f, s₀.destinations[d.hook.destination]? ≠ some (.logFile f)) :
    Follows s₀ e (past ++ [d]) s r := by
  have hmore : s₀.WritesMore (past ++ [d]) ↔ s₀.WritesMore past := by
    rw [writesMore_concat, or_iff_left]
    rintro ⟨hok, f, hf, -⟩
    exact hd hok f hf
  refine { h with logFile := fun id f hf => ?_, same := ?_, shorter := ?_ }
  · obtain ⟨f', hf', hafter⟩ := h.logFile id f hf
    have hserved : Served (past ++ [d]) id ↔ Served past id := by
      refine served_concat_of_not ?_
      rintro ⟨rfl, hok⟩
      exact hd hok f hf
    exact ⟨f', hf', by rwa [propext hserved]⟩
  · rw [hmore]
    exact h.same
  · rw [hmore]
    exact h.shorter

theorem setFormatters (h : Follows s₀ e past s r) (formatters : List Formatter) :
    Follows s₀ e past { s with formatters := formatters } { r with formatters := formatters } :=
  { h with formatters := rfl, settled := h.settled.setRest _ _ _ _ }

theorem setBuffers (h : Follows s₀ e past s r) (buffers : Buffers) :
    Follows s₀ e past { s with buffers := buffers } { r with buffers := buffers } :=
  { h with buffers := rfl, settled := h.settled.setRest _ _ _ _ }

/-- A destination that both share is changed, and it is no log file before or after. -/
theorem setShared (h : Follows s₀ e past s r) {id : DestinationId} {d d' : Destination}
    (hd : s₀.destinations[id]? = some d) (hother : ∀ f, d ≠ .logFile f)
    (hother' : ∀ f, d' ≠ .logFile f) :
    Follows s₀ e past (s.setDestination id d') (r.setDestination id d') := by
  obtain ⟨old, hs, hr, -⟩ := h.shared id d hd hother
  refine { h with
    settled := h.settled.set (.refl s.files) id fun f hf => absurd hf (hother' f)
    shared := fun id' before hbefore hbefore' => ?_
    logFile := fun id' f hf => ?_ }
  · by_cases hid : id = id'
    · rw [← hid]
      exact ⟨d', List.getElem?_set_self (List.getElem?_eq_some_iff.mp hs).1,
        List.getElem?_set_self (List.getElem?_eq_some_iff.mp hr).1, hother'⟩
    · obtain ⟨after, hs', hr', hafter⟩ := h.shared id' before hbefore hbefore'
      exact ⟨after, (List.getElem?_set_ne hid).trans hs', (List.getElem?_set_ne hid).trans hr',
        hafter⟩
  · have hid : id ≠ id' := by
      rintro rfl
      exact hother f (Option.some.inj (hd.symm.trans hf))
    obtain ⟨f', hf', hafter⟩ := h.logFile id' f hf
    exact ⟨f', (List.getElem?_set_ne hid).trans hf', hafter⟩

end Follows

/-- Stores with the same settings and formatters have the same text of an entry. -/
theorem entryText_shared {s r : Store} (hsettings : r.settings = s.settings)
    (hformatters : r.formatters = s.formatters) (identity : String) (id : FormatterId)
    (e : Entry) :
    ∃ result formatters,
      s.entryText identity id e = (result, { s with formatters := formatters }) ∧
        r.entryText identity id e = (result, { r with formatters := formatters }) := by
  obtain ⟨settings, now, formatters, destinations, buffers, files⟩ := r
  obtain rfl : settings = s.settings := hsettings
  obtain rfl : formatters = s.formatters := hformatters
  have hline : ∃ result formatters,
      s.writeLine id e = (result, { s with formatters := formatters }) ∧
        Store.writeLine ⟨s.settings, now, s.formatters, destinations, buffers, files⟩ id e =
          (result, ⟨s.settings, now, formatters, destinations, buffers, files⟩) := by
    rw [writeLine, writeLine]
    cases s.formatters[id]? with
    | none => exact ⟨.ok "", s.formatters, rfl, rfl⟩
    | some f => exact ⟨_, s.formatters.set id _, rfl, rfl⟩
  rw [entryText, entryText]
  split
  · exact ⟨.ok e.message, s.formatters, rfl, rfl⟩
  · obtain ⟨result, formatters, hs, hr⟩ := hline
    rw [hs, hr]
    rcases result with (error | fault) | line
    · exact ⟨_, formatters, rfl, rfl⟩
    · exact ⟨_, formatters, rfl, rfl⟩
    · exact ⟨_, formatters, rfl, rfl⟩

namespace Follows

variable {s₀ s r : Store} {e : Entry} {past : List Delivery}

/-- An entry for a destination that both share. -/
theorem deliver_shared (h : Follows s₀ e past s r) {hook : Hook} {d : Destination}
    (hd : s₀.destinations[hook.destination]? = some d) (hother : ∀ f, d ≠ .logFile f) :
    Follows s₀ e (past ++ [hook.delivery s e]) (s.deliver hook.destination e).2
      (r.deliver hook.destination e).2 := by
  obtain ⟨d', hs, hr, hother'⟩ := h.shared _ d hd hother
  refine note ?_ fun _ f hf => hother f (Option.some.inj (hd.symm.trans hf))
  rw [deliver, deliver, hs, hr]
  cases d' with
  | logFile f => exact absurd rfl (hother' f)
  | console c =>
      obtain ⟨result, formatters, hline, hline'⟩ :=
        entryText_shared h.settings h.formatters Console.identity c.formatter e
      dsimp only
      rw [hline, hline']
      cases result with
      | error stop => exact h.setFormatters formatters
      | ok text =>
          dsimp only
          rw [writeStream, writeStream, h.buffers]
          exact (h.setFormatters formatters).setBuffers _
  | application a =>
      have hcounter (f : LogFile) :
          Destination.application { a with received := a.received + 1 } ≠ .logFile f := by simp
      have hcounted := h.setShared hd hother hcounter
      dsimp only
      rw [respond, respond]
      split
      · dsimp only
        rw [hcounted.buffers]
        exact hcounted.setBuffers _
      · exact hcounted
      · exact hcounted

/-- A text is appended by a log file destination, and by a copy of it. -/
theorem appendFile (h : Follows s₀ e past s r) {id copyId : DestinationId} {f f' : LogFile}
    (hf : s₀.destinations[id]? = some (.logFile f)) (hf' : s.destinations[id]? = some (.logFile f'))
    (hafter : f.After (f.target s₀.files.workingName e.moduleName) (Served past id) f')
    (hfresh : s₀.destinations.length ≤ copyId) {text : String} {d : Delivery}
    (hid : d.hook.destination = id) (hentry : d.entry = e)
    (hresult : d.result = (f'.append s.files s.zone e text).1.mapError .failed) :
    Follows s₀ e (past ++ [d]) (s.appendFile id f' e text).2
      (r.appendFile copyId f.copy e text).2 := by
  have hzone : r.zone = s.zone := by rw [zone, zone, h.settings]
  have hheld := h.settled.reopens id f' hf'
  have htarget : f'.target s.files.workingName e.moduleName =
      f.target s₀.files.workingName e.moduleName := by
    rw [hafter.target_eq, h.workingName]
  have hok : d.result = .ok () ↔ (f'.append s.files s.zone e text).1 = .ok () := by
    rw [hresult]
    cases (f'.append s.files s.zone e text).1 with
    | error error => exact iff_of_false (by simp [Except.mapError]) (by simp)
    | ok done => exact iff_of_true rfl rfl
  have hmore : s₀.WritesMore (past ++ [d]) ↔ s₀.WritesMore past ∨
      d.result = .ok () ∧
        f.Reheads (f.target s₀.files.workingName e.moduleName) (Served past id) := by
    subst hid hentry
    rw [writesMore_concat, reheads_logFile_iff hf]
  have hcopy := hafter.heads_copy_iff
  have hnot := hafter.not_reheads
  obtain ⟨headed, hclosed⟩ : ∃ headed, f.copy = f'.closed headed := ⟨_, hafter.closed_eq.symm⟩
  rw [hclosed] at hcopy ⊢
  rw [Store.appendFile, Store.appendFile, hzone]
  obtain ⟨-, hcovered, hshorter⟩ := @LogFile.append_covered f' s.zone s.files r.files hheld headed
    e text h.covered fun hheads => by rw [htarget] at hheads ⊢; exact hcopy.mpr (.inl hheads)
  have hkeeps := @LogFile.append_keeps f' s.zone s.files hheld e text
  refine ⟨h.settings, h.formatters, h.buffers, hkeeps.workingName.trans h.workingName, hcovered,
    ?_, fun id' d' hd' hother => ?_, fun id' g hg => ?_, fun hsame => ?_, fun hdiffers => ?_⟩
  · refine h.settled.set hkeeps id fun g hg file hfile => ?_
    obtain rfl := Destination.logFile.inj hg
    exact f'.append_reopens hheld e text hfile
  · have hne : id ≠ id' := by
      rintro rfl
      exact hother f (Option.some.inj (hd'.symm.trans hf))
    have hne' : copyId ≠ id' :=
      Nat.ne_of_gt (Nat.lt_of_lt_of_le (List.getElem?_eq_some_iff.mp hd').1 hfresh)
    obtain ⟨d'', hs, hr, hother'⟩ := h.shared id' d' hd' hother
    exact ⟨d'', (List.getElem?_set_ne hne).trans hs, (List.getElem?_set_ne hne').trans hr, hother'⟩
  · by_cases hne : id = id'
    · subst hne
      obtain rfl := Destination.logFile.inj (Option.some.inj (hf.symm.trans hg))
      refine ⟨_, List.getElem?_set_self (List.getElem?_eq_some_iff.mp hf').1, ?_⟩
      have htook := hafter.append s.zone hheld htarget text
      rwa [← hok, ← propext (served_concat.trans (or_congr Iff.rfl (and_iff_right hid)))] at htook
    · obtain ⟨g', hg', hgafter⟩ := h.logFile id' g hg
      refine ⟨g', (List.getElem?_set_ne hne).trans hg', ?_⟩
      have hserved : Served (past ++ [d]) id' ↔ Served past id' :=
        served_concat_of_not fun hd => hne (hid.symm.trans hd.1)
      rwa [propext hserved]
  · rw [hmore, not_or] at hsame
    change ((f'.closed headed).append r.files s.zone e text).2.2 =
      (f'.append s.files s.zone e text).2.2
    rw [h.same hsame.1]
    refine LogFile.append_closed hheld headed e text fun happended => ?_
    rw [htarget, Bool.eq_iff_iff, hcopy, or_iff_left]
    exact fun hreheads => hsame.2 ⟨hok.mpr happended, hreheads⟩
  · rcases hmore.mp hdiffers with hbefore | ⟨hsucceeds, hreheads⟩
    · obtain ⟨l, hl⟩ := h.shorter hbefore
      exact ⟨l, hshorter l hl⟩
    · refine LogFile.append_shorter hheld headed e text h.covered (hok.mp hsucceeds) ?_ ?_
      · rw [htarget, Bool.eq_false_iff]
        exact fun hheads => hnot hheads hreheads
      · rw [htarget]
        exact hcopy.mpr (.inr hreheads)

/-- An entry for a log file, and for the copy of its destination. -/
theorem deliver_logFile (h : Follows s₀ e past s r) {hook copy : Hook} {f : LogFile}
    (hf : s₀.destinations[hook.destination]? = some (.logFile f))
    (hfresh : s₀.destinations.length ≤ copy.destination)
    (hcopy : r.destinations[copy.destination]? = some (.logFile f.copy)) :
    Follows s₀ e (past ++ [hook.delivery s e]) (s.deliver hook.destination e).2
      (r.deliver copy.destination e).2 := by
  obtain ⟨f', hf', hafter⟩ := h.logFile _ f hf
  obtain ⟨result, formatters, hline, hline'⟩ :=
    entryText_shared h.settings h.formatters f.identity f.formatter e
  have hlined : s.entryText f'.identity f'.formatter e =
      (result, { s with formatters := formatters }) := by
    obtain ⟨⟨opened, rfl⟩, -, -⟩ := hafter
    exact hline
  have hcopied : r.entryText f.copy.identity f.copy.formatter e =
      (result, { r with formatters := formatters }) := hline'
  rw [Hook.delivery, deliver, deliver, hf', hcopy]
  dsimp only
  rw [hlined, hcopied]
  cases result with
  | error stop => exact (h.setFormatters formatters).note fun hok => absurd hok (by simp)
  | ok text => exact (h.setFormatters formatters).appendFile hf hf' hafter hfresh rfl rfl rfl

end Follows

end Store

/-! ## Hooks of the logger and of the derived one -/

/-- The second hooks are the first ones in a derived logger: each is on the same destination, or
on the copy of one that is a log file.  Copies have names of their own, from a bound on. -/
inductive Hook.Copied (s₀ r : Store) : Nat → List Hook → List Hook → Prop where
  | nil (bound : Nat) : Copied s₀ r bound [] []
  | shared {bound : Nat} {h copy : Hook} {hooks copies : List Hook} {d : Destination} :
      s₀.destinations[h.destination]? = some d → (∀ f, d ≠ .logFile f) →
      copy.level = h.level → copy.destination = h.destination →
      Copied s₀ r bound hooks copies → Copied s₀ r bound (h :: hooks) (copy :: copies)
  | logFile {bound : Nat} {h copy : Hook} {hooks copies : List Hook} {f : LogFile} :
      s₀.destinations[h.destination]? = some (.logFile f) → copy.level = h.level →
      bound ≤ copy.destination → r.destinations[copy.destination]? = some (.logFile f.copy) →
      Copied s₀ r (copy.destination + 1) hooks copies →
      Copied s₀ r bound (h :: hooks) (copy :: copies)

theorem getElem?_of_isPrefix {α : Type} {l l' : List α} (h : l <+: l') {i : Nat} {x : α}
    (hx : l[i]? = some x) : l'[i]? = some x := by
  obtain ⟨rest, rfl⟩ := h
  rw [List.getElem?_append_left (List.getElem?_eq_some_iff.mp hx).1]
  exact hx

namespace Hook.Copied

variable {s₀ r r' : Store} {bound bound' : Nat} {hooks copies : List Hook}

theorem mono (h : Copied s₀ r bound hooks copies) (hbound : bound' ≤ bound) :
    Copied s₀ r bound' hooks copies := by
  induction h generalizing bound' with
  | nil bound => exact .nil bound'
  | shared hd hother hlevel hdestination hrest ih =>
      exact .shared hd hother hlevel hdestination (ih hbound)
  | logFile hf hlevel hfresh hcopy hrest ih =>
      exact .logFile hf hlevel (Nat.le_trans hbound hfresh) hcopy hrest

/-- Changes of destinations below the bound concern no copy. -/
theorem congr (h : Copied s₀ r bound hooks copies)
    (hr : ∀ id, bound ≤ id → r'.destinations[id]? = r.destinations[id]?) :
    Copied s₀ r' bound hooks copies := by
  induction h with
  | nil bound => exact .nil bound
  | shared hd hother hlevel hdestination hrest ih =>
      exact .shared hd hother hlevel hdestination (ih hr)
  | logFile hf hlevel hfresh hcopy hrest ih =>
      refine .logFile hf hlevel hfresh ((hr _ hfresh).trans hcopy) (ih fun id hid => ?_)
      exact hr id (Nat.le_trans hfresh (Nat.le_of_succ_le hid))

/-- Hooks and their copies accept the same levels. -/
theorem filter (h : Copied s₀ r bound hooks copies) (hr : s₀.destinations <+: r.destinations)
    (level : Level) :
    Copied s₀ r bound (hooks.filter fun h => h.accepts s₀ level)
      (copies.filter fun h => h.accepts r level) := by
  induction h with
  | nil bound => exact .nil bound
  | @shared bound h copy hooks copies d hd hother hlevel hdestination hrest ih =>
      have haccepts : copy.accepts r level = h.accepts s₀ level := by
        have hd' : r.destinations[copy.destination]? = some d := by
          rw [hdestination]
          exact getElem?_of_isPrefix hr hd
        rw [accepts, accepts, Hook.filter, Hook.filter, hd, hd', hlevel]
      rw [List.filter_cons, List.filter_cons, haccepts]
      split
      · exact .shared hd hother hlevel hdestination ih
      · exact ih
  | @logFile bound h copy hooks copies f hf hlevel hfresh hcopy hrest ih =>
      have haccepts : copy.accepts r level = h.accepts s₀ level := by
        rw [accepts, accepts, Hook.filter, Hook.filter, hf, hcopy, hlevel]
        rfl
      rw [List.filter_cons, List.filter_cons, haccepts]
      split
      · exact .logFile hf hlevel hfresh hcopy ih
      · exact ih.mono (Nat.le_succ_of_le hfresh)

end Hook.Copied

namespace Store.Follows

variable {s₀ s r : Store} {e : Entry} {past : List Delivery}

/-- Nothing has been delivered, and the derived logger has its copies. -/
theorem start {hooks : List Hook} (hsettled : s₀.Settled hooks) (e : Entry)
    {destinations : List Destination} (hextends : s₀.destinations <+: destinations) :
    Follows s₀ e [] s₀ { s₀ with destinations := destinations } := by
  refine ⟨rfl, rfl, rfl, rfl, .refl _, ⟨List.forall_mem_nil _, hsettled.reopens⟩,
    fun id d hd hother => ⟨d, hd, getElem?_of_isPrefix hextends hd, hother⟩,
    fun id f hf => ⟨f, hf, .refl f _ ?_⟩, fun _ => rfl,
    fun hmore => absurd hmore s₀.not_writesMore_nil⟩
  rintro ⟨d, hd, -⟩
  exact absurd hd List.not_mem_nil

/-- An entry for some hooks, and for their copies. -/
theorem fireAll {bound : Nat} {hooks copies : List Hook} (h : Follows s₀ e past s r)
    (hcopied : Hook.Copied s₀ r bound hooks copies) (hbound : s₀.destinations.length ≤ bound) :
    Follows s₀ e (past ++ Hook.deliveries e hooks s) (Hook.fireAll e hooks s).2
      (Hook.fireAll e copies r).2 := by
  -- along the hooks; the copies that are still to be served have not changed
  induction hooks generalizing past s r bound copies with
  | nil =>
      cases hcopied
      rw [Hook.deliveries, List.append_nil]
      exact h
  | cons hook rest ih =>
      have hsplit : past ++ Hook.deliveries e (hook :: rest) s =
          past ++ [hook.delivery s e] ++
            Hook.deliveries e rest (s.deliver hook.destination e).2 := by
        rw [List.append_assoc]
        rfl
      rw [hsplit, Hook.fireAll_store]
      cases hcopied with
      | @shared _ _ copy _ copies d hd hother hlevel hdestination hrest =>
          have hlow : hook.destination < bound :=
            Nat.lt_of_lt_of_le (List.getElem?_eq_some_iff.mp hd).1 hbound
          rw [Hook.fireAll_store, hdestination]
          exact ih (h.deliver_shared hd hother)
            (hrest.congr fun id hid =>
              deliver_destination_ne e (Nat.ne_of_gt (Nat.lt_of_lt_of_le hlow hid)))
            hbound
      | @logFile _ _ copy _ copies f hf hlevel hfresh hcopy hrest =>
          have hmade := Nat.le_trans hbound hfresh
          rw [Hook.fireAll_store]
          exact ih (h.deliver_logFile hf hmade hcopy)
            (hrest.congr fun id hid => deliver_destination_ne e (Nat.ne_of_gt hid))
            (Nat.le_succ_of_le hmade)

/-- The two leave the same unless a copy has written a header that its destination did not. -/
theorem sameOutput_iff (h : Follows s₀ e past s r) : s.SameOutput r ↔ ¬s₀.WritesMore past := by
  constructor
  · intro hsame hmore
    obtain ⟨l, content, content', hl, hl', hlength⟩ := h.shorter hmore
    rw [hsame.file l, hl'] at hl
    rw [Option.some.inj hl] at hlength
    exact Nat.lt_irrefl _ hlength
  · intro hnone
    refine ⟨fun name => ?_, fun l => ?_⟩
    · rw [h.buffers]
    · rw [h.same hnone]

end Store.Follows

end Hooklog
