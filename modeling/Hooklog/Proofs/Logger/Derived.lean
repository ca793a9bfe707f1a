import Hooklog.Proofs.Logger.Following
import Hooklog.Proofs.Logger.Reachable

/-!
# What a derived logger delivers

A derived logger shares the consoles and applications of another one, and appends to log files
through copies of its destinations.  An entry leaves the same behind whether it is logged by the
one or by the other, but for headers: `Logger.derived_same_output_iff` says that the two differ
exactly if a copy writes a header that the destination itself does not write.  This happens to a
destination that was told of the header of one file and holds another one open, and to one that
two hooks share.
-/

namespace Hooklog

namespace Logger

/-- Hooks are derived into copies, which have the names after those that there are. -/
theorem copied_derivedHooks {s₀ : Store} {hooks : List (String × Hook)}
    (hstand : ∀ p ∈ hooks, p.2.destination < s₀.destinations.length)
    {destinations : List Destination} (hextends : s₀.destinations <+: destinations) :
    let derived := derivedHooks hooks { s₀ with destinations := destinations }
    derived.1.map Prod.fst = hooks.map Prod.fst ∧
      (∃ more, destinations <+: more ∧ derived.2 = { s₀ with destinations := more }) ∧
      Hook.Copied s₀ derived.2 destinations.length (hooks.map Prod.snd)
        (derived.1.map Prod.snd) := by
  induction hooks generalizing destinations with
  | nil => exact ⟨rfl, ⟨destinations, List.prefix_rfl, rfl⟩, .nil _⟩
  | cons p rest ih =>
      obtain ⟨name, h⟩ := p
      obtain ⟨hlow, hrest⟩ := List.forall_mem_cons.mp hstand
      obtain ⟨d, hd⟩ : ∃ d, s₀.destinations[h.destination]? = some d :=
        ⟨_, List.getElem?_eq_getElem hlow⟩
      have hd' : destinations[h.destination]? = some d := getElem?_of_isPrefix hextends hd
      by_cases hfile : ∃ f, d = .logFile f
      · obtain ⟨f, rfl⟩ := hfile
        -- The copy gets the first free name, and the hooks after it later ones.
        have hderive : h.derive { s₀ with destinations := destinations } =
            ({ h with destination := destinations.length },
              { s₀ with destinations := destinations ++ [.logFile f.copy] }) := by
          rw [Hook.derive, Store.derive, hd']
          rfl
        obtain ⟨hnames, ⟨more, hmore, hstore⟩, hcopied⟩ :=
          ih hrest (hextends.trans (List.prefix_append destinations [.logFile f.copy]))
        rw [derivedHooks, hderive]
        refine ⟨congrArg (name :: ·) hnames,
          ⟨more, (List.prefix_append _ _).trans hmore, hstore⟩,
          .logFile hd rfl (Nat.le_refl _) ?_ ?_⟩
        · change (derivedHooks rest _).2.destinations[destinations.length]? = _
          rw [hstore]
          exact getElem?_of_isPrefix hmore List.getElem?_concat_length
        · rw [List.length_append] at hcopied
          exact hcopied
      · have hderive : h.derive { s₀ with destinations := destinations } =
            (h, { s₀ with destinations := destinations }) := by
          rw [Hook.derive, Store.derive, hd']
          cases d with
          | logFile f => exact absurd ⟨f, rfl⟩ hfile
          | console c => rfl
          | application a => rfl
        obtain ⟨hnames, hstore, hcopied⟩ := ih hrest hextends
        rw [derivedHooks, hderive]
        exact ⟨congrArg (name :: ·) hnames, hstore,
          .shared hd (fun f hf => hfile ⟨f, hf⟩) rfl rfl hcopied⟩

/-- Whether a derived logger writes a header with an entry that the logger itself does not
write. -/
def WritesMore (l : Logger) (s : Store) (level : Level) (message : String) (fields : Fields) :
    Prop :=
  s.WritesMore
    (Hook.deliveries (l.entry s level message fields none) (l.accepting s level) s)

/-- A derived logger whose entries have the same fields delivers what the logger delivers, but for
headers. -/
theorem dispatch_derive_iff {l : Logger} {s : Store} (hl : l.Reachable s) {own more fields : Fields}
    (hfields : own.merge more = l.fields.merge fields) (level : Level) (message : String) :
    (l.dispatch s level message fields none).2.2.SameOutput
        ((l.derive s l.moduleName own).1.dispatch (l.derive s l.moduleName own).2 level message
          more none).2.2 ↔
      ¬l.WritesMore s level message fields := by
  obtain ⟨hooks, hreachable, hmem⟩ := hl
  have hsettled := hreachable.settled
  have hstand : ∀ p ∈ l.hooks.toList, p.2.destination < s.destinations.length :=
    fun p hp => hsettled.bound p.2 (hmem p.2 (List.mem_map_of_mem hp))
  obtain ⟨hnames, ⟨destinations, hextends, hstore⟩, hcopied⟩ :=
    copied_derivedHooks hstand List.prefix_rfl
  change (derivedHooks l.hooks.toList s).1.map Prod.fst = _ at hnames
  change (derivedHooks l.hooks.toList s).2 = _ at hstore
  change Hook.Copied s (derivedHooks l.hooks.toList s).2 s.destinations.length _
    ((derivedHooks l.hooks.toList s).1.map Prod.snd) at hcopied
  have hsorted : (derivedHooks l.hooks.toList s).1.Pairwise fun a b => a.1 < b.1 := by
    rw [← List.pairwise_map, hnames, List.pairwise_map]
    exact l.hooks.sorted
  have hvalues : (l.derive s l.moduleName own).1.hooks.values =
      (derivedHooks l.hooks.toList s).1.map Prod.snd :=
    congrArg (List.map Prod.snd) (SortedMap.toList_ofList hsorted)
  have hderived : (l.derive s l.moduleName own).2 = { s with destinations := destinations } :=
    hstore
  have hentry : (l.derive s l.moduleName own).1.entry (l.derive s l.moduleName own).2 level
      message more none = l.entry s level message fields none := by
    rw [hderived, entry, entry, ← hfields]
    rfl
  have haccepted := (hcopied.filter (by rw [hstore]; exact hextends) level)
  have hfollows := (Store.Follows.start hsettled (l.entry s level message fields none)
    hextends).fireAll (hstore ▸ haccepted) (Nat.le_refl _)
  rw [dispatch, dispatch, hentry, accepting, accepting, hvalues, hderived]
  exact hfollows.sameOutput_iff

/-- Derived loggers deliver what the logger itself would.  For a logger that does not report
callers, an entry leaves the same in all buffers and files whether it is logged by the logger or by
a copy of it, and whether its fields are given with the entry or to a derived logger, unless
copies write more headers; and if they do, some file differs. -/
theorem derived_same_output_iff {l : Logger} {s : Store} (hl : l.Reachable s)
    (hcaller : l.reportsCaller = false) (caller caller' : Caller) (level : Level)
    (message : String) (fields : Fields) :
    ((l.log s caller level message).2.SameOutput
        ((l.copy s none).1.log (l.copy s none).2 caller' level message).2 ↔
      ¬l.WritesMore s level message .empty) ∧
    ((l.logFields s caller level fields message).2.SameOutput
        ((l.withFields s fields).1.log (l.withFields s fields).2 caller' level message).2 ↔
      ¬l.WritesMore s level message fields) := by
  have hown : l.reported caller = none := by
    rw [reported, hcaller]
    rfl
  have hderived (own : Fields) : (l.derive s l.moduleName own).1.reported caller' = none := by
    rw [reported]
    exact if_neg (ne_true_of_eq_false hcaller)
  constructor
  · have hsame := dispatch_derive_iff hl (Eq.refl (l.fields.merge .empty)) level message
    rw [log, logFields, hown, log, logFields, copy, Option.getD_none, hderived]
    exact hsame
  · have hfields : (l.fields.merge fields).merge .empty = l.fields.merge fields := rfl
    have hsame := dispatch_derive_iff hl hfields level message
    rw [logFields, hown, log, logFields, withFields, hderived]
    exact hsame

/-! ## A directory of log files -/

/-- Whether a destination would not write a header for a module, or was told that it has one. -/
def isHeaded (workingName moduleName : String) : Destination → Bool
  | .logFile f => !f.writesHeader || f.copy.headed = some (f.target workingName moduleName)
  | _ => true

/-- Copies write no header where the destinations have written or were told of it. -/
theorem not_writesMore_of_isHeaded {l : Logger} {s : Store}
    (h : s.destinations.all (isHeaded s.files.workingName l.moduleName) = true) (level : Level)
    (message : String) (fields : Fields) : ¬l.WritesMore s level message fields := by
  rintro ⟨before, d, hextends, -, f, hf, hwrites, hcopy, -⟩
  have hmem : d ∈ Hook.deliveries (l.entry s level message fields none) (l.accepting s level) s :=
    hextends.subset (List.mem_append_right before List.mem_cons_self)
  have hmodule : d.entry.moduleName = l.moduleName := by
    rw [Hook.entry_of_mem_deliveries hmem]
    rfl
  have hheaded := List.all_eq_true.mp h _ (List.mem_of_getElem? hf)
  rw [isHeaded, hwrites, Bool.not_true, Bool.false_or, ← hmodule] at hheaded
  exact hcopy (of_decide_eq_true hheaded)

/-- A store with a directory of log files and a hook on it. -/
def directoryHook : Hook × Store :=
  Hook.logFile (.new (.ofConfig .empty ⟨0, 0⟩ false) ⟨0, 0⟩ "work") "logs" true true .trace none

def directoryLogger : Logger :=
  { withHooks (.ofConfig .empty ⟨0, 0⟩ false) "a" [directoryHook.1] with time := some ⟨0, 0⟩ }

/-- The logger has written a line to the file of its module. -/
def openedLogger : Logger × Store :=
  (directoryLogger.run directoryHook.2 [.print ⟨"", "", 0⟩ "one\n"]).2

theorem reachable_openedLogger : openedLogger.1.Reachable openedLogger.2 := by
  have hdirectory : directoryLogger.Reachable directoryHook.2 := by
    refine ⟨[directoryHook.1], .logFile _ _ _ _ _ (.new _ _ _), fun h hmem => ?_⟩
    exact hmem
  exact hdirectory.run _

/-- The file of the module is open, and a copy writes no header. -/
theorem derived_same_output_opened :
    openedLogger.1.Reachable openedLogger.2 ∧ openedLogger.1.reportsCaller = false ∧
      (openedLogger.1.log openedLogger.2 ⟨"", "", 0⟩ .print "two\n").2.SameOutput
        ((openedLogger.1.copy openedLogger.2 none).1.log (openedLogger.1.copy openedLogger.2 none).2
          ⟨"", "", 0⟩ .print "two\n").2 := by
  have hcaller : openedLogger.1.reportsCaller = false := by decide +kernel
  obtain ⟨hiff, -⟩ := derived_same_output_iff reachable_openedLogger hcaller ⟨"", "", 0⟩
    ⟨"", "", 0⟩ .print "two\n" .empty
  exact ⟨reachable_openedLogger, hcaller,
    hiff.mpr (not_writesMore_of_isHeaded (by decide +kernel) _ _ _)⟩

/-- A copy of the logger that has written to the file of another module and is back at its own. -/
def returnedLogger : Logger × Store :=
  let (copied, s) := openedLogger.1.copy openedLogger.2 none
  let (_, moved, s) := { copied with moduleName := "b" }.run s [.print ⟨"", "", 0⟩ "two\n"]
  ({ moved with moduleName := "a" }, s)

theorem reachable_returnedLogger : returnedLogger.1.Reachable returnedLogger.2 := by
  have hcopied := (reachable_openedLogger.derive openedLogger.1.moduleName
    openedLogger.1.fields).1
  have hmoved := Reachable.run (l := { (openedLogger.1.copy openedLogger.2 none).1 with
    moduleName := "b" }) (hcopied.congr rfl) [.print ⟨"", "", 0⟩ "two\n"]
  exact hmoved.congr rfl

/-- The copy was told of the header in the file of its module, and a copy of it is told of the file
held open instead. -/
theorem copy_writes_more :
    let own := returnedLogger.1.log returnedLogger.2 ⟨"", "", 0⟩ .print "three\n"
    let derived := returnedLogger.1.copy returnedLogger.2 none
    let other := derived.1.log derived.2 ⟨"", "", 0⟩ .print "three\n"
    returnedLogger.1.Reachable returnedLogger.2 ∧
      returnedLogger.1.time = some ⟨0, 0⟩ ∧ returnedLogger.1.reportsCaller = false ∧
      own.2.files.content? ["a.log", "logs", "work"] =
        some (Text.bytesOf "# 1970/01/01 00:00:00.000\none\nthree\n") ∧
      other.2.files.content? ["a.log", "logs", "work"] =
        some (Text.bytesOf
          "# 1970/01/01 00:00:00.000\none\n\n# 1970/01/01 00:00:00.000\nthree\n") ∧
      ¬own.2.SameOutput other.2 := by
  intro own derived other
  have hown : own.2.files.content? ["a.log", "logs", "work"] =
      some (Text.bytesOf "# 1970/01/01 00:00:00.000\none\nthree\n") := by decide +kernel
  have hother : other.2.files.content? ["a.log", "logs", "work"] =
      some (Text.bytesOf
        "# 1970/01/01 00:00:00.000\none\n\n# 1970/01/01 00:00:00.000\nthree\n") := by
    decide +kernel
  refine ⟨reachable_returnedLogger, by decide +kernel, by decide +kernel, hown, hother,
    fun hsame => ?_⟩
  have heq := hown.symm.trans ((hsame.file _).trans hother)
  exact absurd heq (by decide +kernel)

end Logger

end Hooklog
