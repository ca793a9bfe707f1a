import Hooklog.Proofs.Logger.Deliveries
import Hooklog.Proofs.Logger.Runs
import Hooklog.Proofs.Store.Twins

/-!
# Isolation of hooks

What a hook receives does not depend on the other hooks of its logger, as long as they share no
part with it and their files keep out of the way of its own: over a run of direct calls its
outlets get the same bytes as if it were the only hook (`run_isolated`).

The proof follows two runs side by side, that of the logger and that of the logger with the one
hook.  `Shadowed` relates them: the stores are twins for the destination of the hook.  A dispatch
of the first logger serves hooks before it, the hook itself and hooks after it; only the one in
the middle is served in the second run as well.
-/

namespace Hooklog

/-- What is at an outlet. -/
def Store.bytesAt (s : Store) : Outlet → Text.Bytes
  | .buffer name => s.buffers.content name
  | .file l => (s.files.content? l).getD []

/-- Whether a call hands one message to the hooks, without the catcher. -/
def Call.IsDirect : Call → Prop
  | .log .. => True
  | .logFields .. => True
  | .print .. => True
  | _ => False

namespace Hook

/-- Whether deliveries of the entries of a module to a hook may put bytes into an outlet. -/
def WritesTo (h : Hook) (moduleName : String) (s : Store) (o : Outlet) : Prop :=
  ∃ d, s.destinations[h.destination]? = some d ∧ d.WritesTo s.files moduleName o

/-- The destination, the formatter and the outlets of a hook are not those of another one. -/
structure Unshared (moduleName : String) (s : Store) (h other : Hook) : Prop where
  destination : other.destination ≠ h.destination
  parts : ∀ d d', s.destinations[h.destination]? = some d →
    s.destinations[other.destination]? = some d' → d.Unshared s.files moduleName d'

/-- Another hook keeps out of the way of one. -/
def Undisturbed (moduleName : String) (s : Store) (h other : Hook) : Prop :=
  ∀ d d', s.destinations[h.destination]? = some d →
    s.destinations[other.destination]? = some d' → d.Undisturbed s.files moduleName d'

section Continued

variable {moduleName : String} {s s' : Store} {h other : Hook}
  (hcontinues : s.Continues moduleName s')

include hcontinues

theorem Unshared.continues (hunshared : h.Unshared moduleName s other) :
    h.Unshared moduleName s' other := by
  refine ⟨hunshared.destination, fun d₁ d₁' hd₁ hd₁' => ?_⟩
  obtain ⟨d, hd, hdc⟩ := hcontinues.exists_before hd₁
  obtain ⟨d', hd', hdc'⟩ := hcontinues.exists_before hd₁'
  have hparts := hunshared.parts d d' hd hd'
  constructor
  · rw [hdc.formatter?, hdc'.formatter?]
    exact hparts.formatter
  · intro o
    rw [Destination.writesTo_congr hcontinues.workingName hcontinues.working,
      Destination.writesTo_congr hcontinues.workingName hcontinues.working, hdc.writesTo,
      hdc'.writesTo]
    exact hparts.outlet o

theorem Undisturbed.continues (hundisturbed : h.Undisturbed moduleName s other) :
    h.Undisturbed moduleName s' other := by
  intro d₁ d₁' hd₁ hd₁'
  obtain ⟨d, hd, hdc⟩ := hcontinues.exists_before hd₁
  obtain ⟨d', hd', hdc'⟩ := hcontinues.exists_before hd₁'
  have hparts := hundisturbed d d' hd hd'
  have hname := hcontinues.workingName
  have hworking := hcontinues.working
  have hway : d₁.way s'.files moduleName = d.way s.files moduleName := by
    rw [Destination.way_congr hname hworking, hdc.way]
  have hway' : d₁'.way s'.files moduleName = d'.way s.files moduleName := by
    rw [Destination.way_congr hname hworking, hdc'.way]
  constructor
  · rw [Destination.place?_congr hname hworking, hdc'.place?, hway]
    exact hparts.place
  · rw [Destination.place?_congr hname hworking, hdc.place?, hway']
    exact hparts.way
  · rw [Destination.climbs_congr hname, hdc.climbs, hway, hway']
    intro hclimbs l hl' hl
    exact hcontinues.directory l (hparts.climbs hclimbs l hl' hl)

end Continued

/-! ## Several deliveries -/

theorem fireAll_append (e : Entry) (hooks more : List Hook) (s : Store) :
    (fireAll e (hooks ++ more) s).2 = (fireAll e more (fireAll e hooks s).2).2 := by
  induction hooks generalizing s with
  | nil => rfl
  | cons g rest ih =>
      rw [List.cons_append, fireAll_cons, fireAll_cons]
      exact ih _

theorem continues_fireAll (e : Entry) (hooks : List Hook) (s : Store) :
    s.Continues e.moduleName (fireAll e hooks s).2 := by
  induction hooks generalizing s with
  | nil => exact .refl s
  | cons g rest ih =>
      rw [fireAll_cons]
      exact (Store.continues_deliver e).trans (ih _)

/-- Serving others leaves twins for a hook that they neither share anything with nor disturb. -/
theorem twins_fireAll {e : Entry} {h : Hook} {hooks : List Hook} {s s₀ : Store}
    (htwins : Store.Twins e.moduleName h.destination s s₀)
    (hunshared : ∀ g ∈ hooks, h.Unshared e.moduleName s g)
    (hundisturbed : ∀ g ∈ hooks, h.Undisturbed e.moduleName s g) :
    Store.Twins e.moduleName h.destination (fireAll e hooks s).2 s₀ := by
  -- along the hooks; that they do not touch `h` carries over to the store left by each of them
  induction hooks generalizing s with
  | nil => exact htwins
  | cons g rest ih =>
      rw [fireAll_cons]
      obtain ⟨hg, hrest⟩ := List.forall_mem_cons.mp hunshared
      obtain ⟨hg', hrest'⟩ := List.forall_mem_cons.mp hundisturbed
      have hcontinues : s.Continues e.moduleName (s.deliver g.destination e).2 :=
        Store.continues_deliver e
      refine ih ?_ (fun g' hmem => (hrest g' hmem).continues hcontinues)
        (fun g' hmem => (hrest' g' hmem).continues hcontinues)
      cases hd' : s.destinations[g.destination]? with
      | none =>
          rw [Store.deliver_absent e hd']
          exact htwins
      | some d' =>
          exact htwins.other (Store.confined_deliver e hd') hg.destination
            (fun d hd => hg.parts d d' hd hd') (fun d hd => hg' d d' hd hd')

/-- Serving the hook itself in both stores leaves twins. -/
theorem twins_fireAll_self {e : Entry} {h : Hook} {hooks : List Hook} {s s₀ : Store}
    (htwins : Store.Twins e.moduleName h.destination s s₀) (hself : ∀ g ∈ hooks, g = h) :
    Store.Twins e.moduleName h.destination (fireAll e hooks s).2 (fireAll e hooks s₀).2 := by
  induction hooks generalizing s s₀ with
  | nil => exact htwins
  | cons g rest ih =>
      obtain ⟨rfl, hrest⟩ := List.forall_mem_cons.mp hself
      rw [fireAll_cons, fireAll_cons]
      exact ih htwins.deliver hrest

/-- So does serving it among others that are served in the first store only. -/
theorem twins_fireAll_among {e : Entry} {h : Hook} {before own after : List Hook} {s s₀ : Store}
    (htwins : Store.Twins e.moduleName h.destination s s₀) (hself : ∀ g ∈ own, g = h)
    (hunshared : ∀ g, g ∈ before ∨ g ∈ after → h.Unshared e.moduleName s g)
    (hundisturbed : ∀ g, g ∈ before ∨ g ∈ after → h.Undisturbed e.moduleName s g) :
    Store.Twins e.moduleName h.destination (fireAll e (before ++ own ++ after) s).2
      (fireAll e own s₀).2 := by
  rw [fireAll_append]
  have hcontinues := continues_fireAll e (before ++ own) s
  refine twins_fireAll ?_ (fun g hg => (hunshared g (Or.inr hg)).continues hcontinues)
    (fun g hg => (hundisturbed g (Or.inr hg)).continues hcontinues)
  rw [fireAll_append]
  exact twins_fireAll_self (twins_fireAll htwins (fun g hg => hunshared g (Or.inl hg))
    fun g hg => hundisturbed g (Or.inl hg)) hself

end Hook

namespace Store.Twins

variable {moduleName : String} {s s₀ : Store}

/-- Twins hold the same at every outlet of the destination. -/
theorem bytesAt {id : DestinationId} {d : Destination} {o : Outlet}
    (h : Twins moduleName id s s₀) (hd : s.destinations[id]? = some d)
    (ho : d.WritesTo s.files moduleName o) : s.bytesAt o = s₀.bytesAt o := by
  cases o with
  | buffer name => exact h.buffer d name hd ho
  | file l =>
      cases d with
      | logFile f =>
          have halike := h.file f hd
          have hplace : f.place? s.files moduleName = some l := ho
          rw [LogFile.Alike, hplace] at halike
          have hnode := halike.get?_place
          rw [Store.bytesAt, Store.bytesAt, FileTree.content?, FileTree.content?, hnode]
      | console c => exact absurd ho (by simp [Destination.WritesTo, Destination.place?])
      | application a => exact absurd ho (by simp [Destination.WritesTo, Destination.place?])

theorem accepts {h : Hook} (htwins : Twins moduleName h.destination s s₀) (level : Level) :
    h.accepts s₀ level = h.accepts s level := by
  rw [Hook.accepts, Hook.accepts, Hook.filter, Hook.filter, htwins.destination]

end Store.Twins

namespace Logger

/-- The same logger with one hook only. -/
def only (l : Logger) (name : String) (h : Hook) : Logger :=
  { l with hooks := SortedMap.empty.insert name h }

/-- Hooks stand before and behind the one of a name, under other names. -/
theorem exists_values_eq {l : Logger} {name : String} {h : Hook}
    (hh : l.hooks.get? name = some h) :
    ∃ before after, l.hooks.values = before ++ h :: after ∧
      ∀ g, g ∈ before ∨ g ∈ after → ∃ p ∈ l.hooks.toList, p.1 ≠ name ∧ p.2 = g := by
  obtain ⟨before, after, hlist⟩ := List.append_of_mem (SortedMap.mem_of_get? hh)
  refine ⟨before.map Prod.snd, after.map Prod.snd, ?_, ?_⟩
  · rw [SortedMap.values, hlist, List.map_append, List.map_cons]
  · have hsorted := l.hooks.sorted
    rw [hlist, List.pairwise_append, List.pairwise_cons] at hsorted
    obtain ⟨-, ⟨hafter, -⟩, hbefore⟩ := hsorted
    rintro g (hg | hg)
    · obtain ⟨p, hp, rfl⟩ := List.mem_map.mp hg
      have hless := hbefore p hp (name, h) List.mem_cons_self
      refine ⟨p, ?_, fun heq => ?_, rfl⟩
      · rw [hlist]
        exact List.mem_append_left _ hp
      · rw [heq] at hless
        exact Std.lt_irrefl hless
    · obtain ⟨p, hp, rfl⟩ := List.mem_map.mp hg
      have hless := hafter p hp
      refine ⟨p, ?_, fun heq => ?_, rfl⟩
      · rw [hlist]
        exact List.mem_append_right _ (List.mem_cons_of_mem _ hp)
      · rw [heq] at hless
        exact Std.lt_irrefl hless

/-- The second logger has only one hook of the first, which the other hooks neither share
anything with nor disturb; and the stores are twins for this hook. -/
structure Shadowed (name : String) (h : Hook) (l l₀ : Logger) (s s₀ : Store) : Prop where
  hook : l.hooks.get? name = some h
  frozen : l.time.isSome = true
  same : ∃ noted, l₀ = (l.only name h).noting noted
  twins : Store.Twins l.moduleName h.destination s s₀
  unshared : ∀ p ∈ l.hooks.toList, p.1 ≠ name → h.Unshared l.moduleName s p.2
  undisturbed : ∀ p ∈ l.hooks.toList, p.1 ≠ name → h.Undisturbed l.moduleName s p.2

namespace Shadowed

variable {name : String} {h : Hook} {l l₀ : Logger} {s s₀ : Store}

/-- With a time of its own a logger makes the same entry whatever time it is. -/
theorem entry_eq (hs : Shadowed name h l l₀ s s₀) (level : Level) (message : String)
    (fields : Fields) (caller : Option Caller) :
    l₀.entry s₀ level message fields caller = l.entry s level message fields caller := by
  obtain ⟨noted, rfl⟩ := hs.same
  obtain ⟨t, ht⟩ := Option.isSome_iff_exists.mp hs.frozen
  change { l.entry s₀ level message fields caller with time := l.time.getD s₀.now } = _
  rw [entry, entry, ht]
  rfl

/-- The second logger serves the hook, if it accepts the level. -/
theorem accepting_eq (hs : Shadowed name h l l₀ s s₀) (level : Level) :
    l₀.accepting s₀ level = [h].filter fun g => g.accepts s level := by
  obtain ⟨noted, rfl⟩ := hs.same
  refine List.filter_congr fun g hg => ?_
  rw [List.mem_singleton.mp hg, hs.twins.accepts]

/-- A dispatch serves the hook in both stores, and the others around it in the first. -/
theorem dispatch (hs : Shadowed name h l l₀ s s₀) (level : Level) (message : String)
    (fields : Fields) (caller : Option Caller) :
    Shadowed name h (l.dispatch s level message fields caller).2.1
        (l₀.dispatch s₀ level message fields caller).2.1
        (l.dispatch s level message fields caller).2.2
        (l₀.dispatch s₀ level message fields caller).2.2 ∧
      s.Continues l.moduleName (l.dispatch s level message fields caller).2.2 := by
  obtain ⟨before, after, hvalues, hothers⟩ := exists_values_eq hs.hook
  have haccepting : l.accepting s level =
      before.filter (fun g => g.accepts s level) ++ [h].filter (fun g => g.accepts s level) ++
        after.filter fun g => g.accepts s level := by
    rw [accepting, hvalues, List.append_cons, List.filter_append, List.filter_append]
  have hother : ∀ g, g ∈ before.filter (fun g => g.accepts s level) ∨
      g ∈ after.filter (fun g => g.accepts s level) →
      ∃ p ∈ l.hooks.toList, p.1 ≠ name ∧ p.2 = g := fun g hg =>
    hothers g (hg.imp (fun hg => (List.mem_filter.mp hg).1) fun hg => (List.mem_filter.mp hg).1)
  have hcontinues : s.Continues l.moduleName (l.dispatch s level message fields caller).2.2 :=
    Hook.continues_fireAll (l.entry s level message fields caller) (l.accepting s level) s
  have htwins : Store.Twins (l.entry s level message fields caller).moduleName h.destination s s₀ :=
    hs.twins
  refine ⟨⟨hs.hook, hs.frozen, ?_, ?_, ?_, ?_⟩, hcontinues⟩
  · obtain ⟨noted, rfl⟩ := hs.same
    exact ⟨_, rfl⟩
  · rw [Logger.dispatch, Logger.dispatch, hs.entry_eq, hs.accepting_eq, haccepting]
    refine Hook.twins_fireAll_among htwins ?_ ?_ ?_
    · intro g hg
      exact List.mem_singleton.mp (List.mem_filter.mp hg).1
    · intro g hg
      obtain ⟨p, hp, hne, rfl⟩ := hother g hg
      exact hs.unshared p hp hne
    · intro g hg
      obtain ⟨p, hp, hne, rfl⟩ := hother g hg
      exact hs.undisturbed p hp hne
  · intro p hp hne
    exact (hs.unshared p hp hne).continues hcontinues
  · intro p hp hne
    exact (hs.undisturbed p hp hne).continues hcontinues

/-- A direct call is a dispatch, and the same one for both loggers. -/
theorem perform (hs : Shadowed name h l l₀ s s₀) {c : Call} (hc : c.IsDirect) :
    Shadowed name h (l.perform s c).2.1 (l₀.perform s₀ c).2.1 (l.perform s c).2.2
        (l₀.perform s₀ c).2.2 ∧
      s.Continues l.moduleName (l.perform s c).2.2 ∧
      (l.perform s c).2.1.moduleName = l.moduleName := by
  obtain ⟨noted, hsame⟩ := hs.same
  have hreported : ∀ caller, l₀.reported caller = l.reported caller := by
    intro caller
    rw [hsame]
    rfl
  have hlevel : l₀.printLevel = l.printLevel := by rw [hsame]; rfl
  cases c with
  | log caller level message =>
      rw [Logger.perform, Logger.perform, log, log, logFields, logFields, hreported]
      obtain ⟨hnext, hcontinues⟩ := hs.dispatch level message .empty (l.reported caller)
      exact ⟨hnext, hcontinues, rfl⟩
  | logFields caller level fields message =>
      rw [Logger.perform, Logger.perform, logFields, logFields, hreported]
      obtain ⟨hnext, hcontinues⟩ := hs.dispatch level message fields (l.reported caller)
      exact ⟨hnext, hcontinues, rfl⟩
  | print caller message =>
      rw [Logger.perform, Logger.perform, print, print, log, log, logFields, logFields, hreported,
        hlevel]
      obtain ⟨hnext, hcontinues⟩ := hs.dispatch l.printLevel message .empty (l.reported caller)
      exact ⟨hnext, hcontinues, rfl⟩
  | _ => exact hc.elim

/-- The second logger shadows the first one to the end of a run. -/
theorem run (hs : Shadowed name h l l₀ s s₀) {calls : List Call}
    (hcalls : ∀ c ∈ calls, c.IsDirect) :
    Store.Twins l.moduleName h.destination (l.run s calls).2.2 (l₀.run s₀ calls).2.2 ∧
      s.Continues l.moduleName (l.run s calls).2.2 := by
  induction calls generalizing l l₀ s s₀ with
  | nil => exact ⟨hs.twins, .refl s⟩
  | cons c rest ih =>
      obtain ⟨hc, hrest⟩ := List.forall_mem_cons.mp hcalls
      obtain ⟨hnext, hcontinues, hmodule⟩ := hs.perform hc
      obtain ⟨htwins, hcontinues'⟩ := ih hnext hrest
      rw [hmodule] at htwins hcontinues'
      exact ⟨htwins, hcontinues.trans hcontinues'⟩

end Shadowed

/-! ## Whole runs -/

/-- Whatever direct calls are made on a logger, the outlets of one of its hooks get the same
bytes as if it were the only hook, also when it is alone at another time. -/
def Isolates (l : Logger) (s : Store) (name : String) (h : Hook) : Prop :=
  ∀ calls : List Call, (∀ c ∈ calls, c.IsDirect) → ∀ (now : Instant) (o : Outlet),
    h.WritesTo l.moduleName s o →
    (l.run s calls).2.2.bytesAt o = ((l.only name h).run { s with now := now } calls).2.2.bytesAt o

/-- A logger with a time of its own isolates every hook that shares no part with the others and
whose file they do not stand in the way of. -/
theorem run_isolated {l : Logger} {s : Store} {name : String} {h : Hook}
    (hh : l.hooks.get? name = some h) (htime : l.time.isSome = true) (hwf : s.files.WellFormed)
    (hunshared : ∀ p ∈ l.hooks.toList, p.1 ≠ name → h.Unshared l.moduleName s p.2)
    (hundisturbed : ∀ p ∈ l.hooks.toList, p.1 ≠ name → h.Undisturbed l.moduleName s p.2) :
    l.Isolates s name h := by
  intro calls hcalls now o ho
  have hstart : Shadowed name h l (l.only name h) s { s with now := now } :=
    ⟨hh, htime, ⟨l.errors, rfl⟩,
      ⟨rfl, rfl, fun _ _ _ _ => rfl, fun _ _ _ _ => rfl, fun _ _ => .refl _ _ _, hwf, hwf⟩,
      hunshared, hundisturbed⟩
  obtain ⟨htwins, hcontinues⟩ := hstart.run hcalls
  obtain ⟨d, hd, hwrites⟩ := ho
  obtain ⟨d', hd', hdc⟩ := hcontinues.kept _ d hd
  refine htwins.bytesAt hd' ?_
  rw [Destination.writesTo_congr hcontinues.workingName hcontinues.working, hdc.writesTo]
  exact hwrites

/-! ## Two log files -/

/-- Store with two log files that are not open yet, each with its own formatter of messages. -/
def filesStore (files : FileTree) (first second : String) : Store :=
  let formatter : Formatter := .text (.new false ["%msg%"] ⟨0, 0⟩)
  { Store.new (.ofConfig .empty ⟨0, 0⟩ false) ⟨0, 0⟩ "work" with
    formatters := [formatter, formatter]
    destinations := [.logFile (.new first false 0), .logFile (.new second false 1)]
    files := files }

/-- Hook on the first file, for all levels. -/
def firstFile : Hook := ⟨"first", .trace, 0⟩

/-- Hook on the second file, for errors. -/
def secondFile : Hook := ⟨"second", .error, 1⟩

/-- Logger of the two files with a time of its own. -/
def filesLogger : Logger :=
  { withHooks (.ofConfig .empty ⟨0, 0⟩ false) "" [firstFile, secondFile] with
    time := some ⟨0, 0⟩ }

/-- A message for the first file only, and one for both. -/
def filesCalls : List Call := [.log ⟨"", "", 0⟩ .info "one", .log ⟨"", "", 0⟩ .error "two"]

theorem filesCalls_direct : ∀ c ∈ filesCalls, c.IsDirect :=
  List.forall_mem_cons.mpr ⟨trivial, List.forall_mem_singleton.mpr trivial⟩

theorem eq_firstFile {p : String × Hook} (hp : p ∈ filesLogger.hooks.toList)
    (hne : p.1 ≠ "second") : p.2 = firstFile := by
  have hlist : filesLogger.hooks.toList = [("first", firstFile), ("second", secondFile)] := by
    decide +kernel
  rw [hlist] at hp
  rcases List.mem_cons.mp hp with rfl | hp
  · rfl
  · exact absurd (congrArg Prod.fst (List.mem_singleton.mp hp)) hne

/-- Two log files at different places share nothing. -/
theorem unshared_filesStore {files : FileTree} {first second : String}
    (hplaces : (LogFile.new first false 0).place? files "" ≠
      (LogFile.new second false 1).place? files "") :
    ∀ p ∈ filesLogger.hooks.toList, p.1 ≠ "second" →
      secondFile.Unshared filesLogger.moduleName (filesStore files first second) p.2 := by
  intro p hp hne
  rw [eq_firstFile hp hne]
  refine ⟨by decide, fun d d' hd hd' => ?_⟩
  obtain rfl : Destination.logFile (.new second false 1) = d := Option.some.inj hd
  obtain rfl : Destination.logFile (.new first false 0) = d' := Option.some.inj hd'
  constructor
  · rintro i hi hi'
    exact absurd (Option.some.inj (hi.trans hi'.symm)) Nat.zero_ne_one
  · rintro (name | l) hl hl'
    · exact hl
    · exact hplaces (hl.trans hl'.symm)

theorem run_isolated_beside :
    let s := filesStore (.ofWorking "work") "logs/a.log" "logs/b.log"
    filesLogger.hooks.get? "second" = some secondFile ∧ filesLogger.time.isSome = true ∧
      s.files.WellFormed ∧
      (∀ p ∈ filesLogger.hooks.toList, p.1 ≠ "second" →
        secondFile.Unshared filesLogger.moduleName s p.2) ∧
      (∀ p ∈ filesLogger.hooks.toList, p.1 ≠ "second" →
        secondFile.Undisturbed filesLogger.moduleName s p.2) ∧
      (filesLogger.run s filesCalls).2.2.bytesAt (.file ["b.log", "logs", "work"]) =
        Text.bytesOf "# 1970/01/01 00:00:00.000\ntwo\n" ∧
      filesLogger.Isolates s "second" secondFile := by
  intro s
  have hh : filesLogger.hooks.get? "second" = some secondFile := by decide +kernel
  have hwf : s.files.WellFormed := .ofWorking "work"
  have hunshared : ∀ p ∈ filesLogger.hooks.toList, p.1 ≠ "second" →
      secondFile.Unshared filesLogger.moduleName s p.2 := unshared_filesStore (by decide +kernel)
  have hundisturbed : ∀ p ∈ filesLogger.hooks.toList, p.1 ≠ "second" →
      secondFile.Undisturbed filesLogger.moduleName s p.2 := by
    intro p hp hne
    rw [eq_firstFile hp hne]
    intro d d' hd hd'
    obtain rfl : Destination.logFile (.new "logs/b.log" false 1) = d := Option.some.inj hd
    obtain rfl : Destination.logFile (.new "logs/a.log" false 0) = d' := Option.some.inj hd'
    have hplace : (Destination.logFile (.new "logs/b.log" false 1)).place? s.files "" =
        some ["b.log", "logs", "work"] := by decide +kernel
    have hplace' : (Destination.logFile (.new "logs/a.log" false 0)).place? s.files "" =
        some ["a.log", "logs", "work"] := by decide +kernel
    refine ⟨fun l hl => ?_, fun l hl => ?_, fun hclimbs => ?_⟩
    · obtain rfl := Option.some.inj (hplace'.symm.trans hl)
      decide +kernel
    · obtain rfl := Option.some.inj (hplace.symm.trans hl)
      decide +kernel
    · have hsteps : ".." ∉ (Path.ofText "logs/b.log").steps := by decide +kernel
      exact absurd hclimbs hsteps
  exact ⟨hh, rfl, hwf, hunshared, hundisturbed, by decide +kernel,
    run_isolated hh rfl hwf hunshared hundisturbed⟩

/-- Hooks on files at different places need not be isolated.  If one file stands where the path
of the other goes on, this other one cannot be created.  And if a path steps up from a directory
that does not exist, then an older file at its end is found, and separated by an empty line, only
after another hook has created this directory. -/
theorem not_isolated_on_path :
    let blocked := filesStore (.ofWorking "work") "x" "x/y.log"
    let climbing := filesStore
      ((FileTree.ofWorking "work").put ["f.log", "work"] (.file (Text.bytesOf "old\n")))
      "d/g.log" "d/../f.log"
    filesLogger.hooks.get? "second" = some secondFile ∧ filesLogger.time.isSome = true ∧
      (∀ s, s = blocked ∨ s = climbing → s.files.WellFormed ∧
        ∀ p ∈ filesLogger.hooks.toList, p.1 ≠ "second" →
          secondFile.Unshared filesLogger.moduleName s p.2) ∧
      ¬ filesLogger.Isolates blocked "second" secondFile ∧
      ¬ filesLogger.Isolates climbing "second" secondFile := by
  intro blocked climbing
  have hblocked : blocked.files.WellFormed ∧
      ∀ p ∈ filesLogger.hooks.toList, p.1 ≠ "second" →
        secondFile.Unshared filesLogger.moduleName blocked p.2 :=
    ⟨.ofWorking "work", unshared_filesStore (by decide +kernel)⟩
  have hclimbing : climbing.files.WellFormed ∧
      ∀ p ∈ filesLogger.hooks.toList, p.1 ≠ "second" →
        secondFile.Unshared filesLogger.moduleName climbing p.2 :=
    ⟨(FileTree.WellFormed.ofWorking "work").put (by decide +kernel) (by decide +kernel),
      unshared_filesStore (by decide +kernel)⟩
  refine ⟨by decide +kernel, rfl, ?_, fun hisolates => ?_, fun hisolates => ?_⟩
  · rintro s (rfl | rfl)
    · exact hblocked
    · exact hclimbing
  · have hplace : (Destination.logFile (.new "x/y.log" false 1)).place? blocked.files "" =
        some ["y.log", "x", "work"] := by decide +kernel
    have hequal := hisolates filesCalls filesCalls_direct ⟨0, 0⟩ (.file ["y.log", "x", "work"])
      ⟨_, rfl, hplace⟩
    exact absurd hequal (by decide +kernel)
  · have hplace : (Destination.logFile (.new "d/../f.log" false 1)).place? climbing.files "" =
        some ["f.log", "work"] := by decide +kernel
    have hequal := hisolates filesCalls filesCalls_direct ⟨0, 0⟩ (.file ["f.log", "work"])
      ⟨_, rfl, hplace⟩
    exact absurd hequal (by decide +kernel)

end Logger

end Hooklog
