import Hooklog.Proofs.Destination.LogFile
import Hooklog.Hook

/-!
# What a delivery changes

A delivery changes the destination that it is made to, the formatter of that destination, the
buffers and the file that the destination writes to, and the directories on the way to this
file.  `Store.Confined` says so, and `confined_deliver` that it holds of every delivery.  Of the
destination a delivery changes only what it remembers: which file it holds open, or how many
entries it has received.  So what it may write to never changes; this is
`Destination.Continues`.
-/

namespace Hooklog

open FileTree

/-! ## Streams -/

/-- Buffer that a sink puts bytes into, if it takes any. -/
def Sink.buffer? : Sink → Option String
  | .buffer name => some name
  | .limited _ name => some name
  | .failing _ => none
  | .panicking _ => none

/-- What a sink takes of the bytes of a call. -/
def Sink.taken (bytes : Text.Bytes) : Sink → Text.Bytes
  | .buffer _ => bytes
  | .limited most _ => bytes.take most
  | .failing _ => []
  | .panicking _ => []

theorem Buffers.content_append (b : Buffers) (name name' : String) (bytes : Text.Bytes) :
    (b.append name bytes).content name' =
      b.content name' ++ if name = name' then bytes else [] := by
  rw [content, append, SortedMap.get?_insert]
  split
  · rename_i hname
    rw [← hname]
    rfl
  · exact (List.append_nil _).symm

namespace Stream

/-- What a sink takes is added to its buffer. -/
theorem content_write (stream : Stream) (bytes : Text.Bytes) (b : Buffers) (name : String) :
    (stream.write bytes b).2.content name = b.content name ++
      if stream.sink.buffer? = some name then stream.sink.taken bytes else [] := by
  rw [write]
  cases stream.sink with
  | buffer name' =>
      simp only [Sink.buffer?, Option.some.injEq]
      exact Buffers.content_append b name' name bytes
  | limited most name' =>
      simp only [Sink.buffer?, Option.some.injEq]
      exact Buffers.content_append b name' name (bytes.take most)
  | failing text => exact (List.append_nil _).symm
  | panicking text => exact (List.append_nil _).symm

theorem writeText_buffers (stream : Stream) (identity text : String) (b : Buffers) :
    (stream.writeText identity text b).2 = (stream.write (Text.bytesOf text) b).2 := by
  rw [writeText]
  split
  · rename_i heq
    rw [heq]
    split <;> rfl
  · rename_i heq
    rw [heq]
  · rename_i heq
    rw [heq]

end Stream

/-! ## What a destination may write to -/

/-- Where the bytes of deliveries end up. -/
inductive Outlet where
  | buffer (name : String)
  | file (place : Location)

namespace Destination

variable (t : FileTree) (moduleName : String)

/-- Whether deliveries may put bytes into a buffer. -/
def FillsBuffer (name : String) : Destination → Prop
  | .console c => c.log.sink.buffer? = some name ∨ c.out.sink.buffer? = some name
  | .logFile _ => False
  | .application a => ∃ n e text, a.respond n e = .writes name text

/-- Place of the file that takes the entries of a module, if there is one. -/
def place? : Destination → Option Location
  | .logFile f => f.place? t moduleName
  | _ => none

/-- Places on the way to the file that takes the entries of a module. -/
def way : Destination → List Location
  | .logFile f => f.way t moduleName
  | _ => []

/-- Whether the path of this file steps up to a parent. -/
def Climbs : Destination → Prop
  | .logFile f => ".." ∈ (f.target t.workingName moduleName).steps
  | _ => False

/-- Whether deliveries of the entries of a module may put bytes into an outlet. -/
def WritesTo (d : Destination) : Outlet → Prop
  | .buffer name => d.FillsBuffer name
  | .file l => d.place? t moduleName = some l

/-- The second destination is what the first one becomes as it receives entries of a module. -/
inductive Continues : Destination → Destination → Prop where
  | console (c : Console) : Continues (.console c) (.console c)
  | logFile {f : LogFile} {opened : Option OpenFile} :
      ({ f with opened := opened } : LogFile).place? t moduleName = f.place? t moduleName →
      Continues (.logFile f) (.logFile { f with opened := opened })
  | application (a : Application) (received : Nat) :
      Continues (.application a) (.application { a with received := received })

namespace Continues

variable {t moduleName} {d d' d'' : Destination}

theorem refl (d : Destination) : d.Continues t moduleName d := by
  cases d with
  | console c => exact .console c
  | logFile f =>
      have hsame : ({ f with opened := f.opened } : LogFile).place? t moduleName =
          f.place? t moduleName := rfl
      exact .logFile hsame
  | application a => exact .application a a.received

theorem trans (h : d.Continues t moduleName d') (h' : d'.Continues t moduleName d'') :
    d.Continues t moduleName d'' := by
  cases h with
  | console c => exact h'
  | logFile hplace =>
      cases h' with
      | logFile hplace' => exact .logFile (hplace'.trans hplace)
  | application a n =>
      cases h' with
      | application _ m => exact .application a m

theorem filter (h : d.Continues t moduleName d') (level : Level) :
    d'.filter level = d.filter level := by
  cases h <;> rfl

theorem formatter? (h : d.Continues t moduleName d') : d'.formatter? = d.formatter? := by
  cases h <;> rfl

theorem way (h : d.Continues t moduleName d') : d'.way t moduleName = d.way t moduleName := by
  cases h <;> rfl

theorem climbs (h : d.Continues t moduleName d') :
    d'.Climbs t moduleName ↔ d.Climbs t moduleName := by
  cases h <;> rfl

theorem place? (h : d.Continues t moduleName d') :
    d'.place? t moduleName = d.place? t moduleName := by
  cases h with
  | logFile hplace => exact hplace
  | _ => rfl

theorem writesTo (h : d.Continues t moduleName d') (o : Outlet) :
    d'.WritesTo t moduleName o ↔ d.WritesTo t moduleName o := by
  cases o with
  | buffer name => cases h <;> rfl
  | file l => rw [WritesTo, WritesTo, h.place?]

end Continues

section Congruence

variable {t t' : FileTree} {moduleName} (hname : t'.workingName = t.workingName)
  (hworking : t'.working = t.working)

include hname hworking

theorem place?_congr (d : Destination) : d.place? t' moduleName = d.place? t moduleName := by
  cases d with
  | logFile f => exact f.place?_congr hname hworking moduleName
  | _ => rfl

theorem way_congr (d : Destination) : d.way t' moduleName = d.way t moduleName := by
  cases d with
  | logFile f => exact f.way_congr hname hworking moduleName
  | _ => rfl

theorem writesTo_congr (d : Destination) (o : Outlet) :
    d.WritesTo t' moduleName o ↔ d.WritesTo t moduleName o := by
  cases o with
  | buffer name => exact Iff.rfl
  | file l => rw [WritesTo, WritesTo, d.place?_congr hname hworking]

theorem continues_congr {d d' : Destination} (h : d.Continues t' moduleName d') :
    d.Continues t moduleName d' := by
  cases h with
  | console c => exact .console c
  | logFile hplace =>
      rw [LogFile.place?_congr _ hname hworking, LogFile.place?_congr _ hname hworking] at hplace
      exact .logFile hplace
  | application a n => exact .application a n

omit hworking in
theorem climbs_congr (d : Destination) : d.Climbs t' moduleName ↔ d.Climbs t moduleName := by
  cases d with
  | logFile f => rw [Climbs, Climbs, hname]
  | _ => rfl

end Congruence

end Destination

namespace Store

/-! ## What a delivery leaves as it is -/

/-- The second store is what the first one becomes as its destinations receive entries of a
module. -/
structure Continues (moduleName : String) (s s' : Store) : Prop where
  settings : s'.settings = s.settings
  workingName : s'.files.workingName = s.files.workingName
  working : s'.files.working = s.files.working
  directory : ∀ l, s.files.isDirectory l = true → s'.files.isDirectory l = true
  kept : ∀ (id : DestinationId) (d : Destination), s.destinations[id]? = some d →
    ∃ d', s'.destinations[id]? = some d' ∧ d.Continues s.files moduleName d'
  absent : ∀ id : DestinationId, s.destinations[id]? = none → s'.destinations[id]? = none

namespace Continues

variable {moduleName : String} {s s' s'' : Store}

theorem refl (s : Store) : s.Continues moduleName s :=
  ⟨rfl, rfl, rfl, fun _ hl => hl, fun _ d hd => ⟨d, hd, .refl d⟩, fun _ hnone => hnone⟩

theorem trans (h : s.Continues moduleName s') (h' : s'.Continues moduleName s'') :
    s.Continues moduleName s'' := by
  refine ⟨h'.settings.trans h.settings, h'.workingName.trans h.workingName,
    h'.working.trans h.working, fun l hl => h'.directory l (h.directory l hl),
    fun id d hd => ?_, fun id hnone => h'.absent id (h.absent id hnone)⟩
  obtain ⟨d', hd', hcontinues⟩ := h.kept id d hd
  obtain ⟨d'', hd'', hcontinues'⟩ := h'.kept id d' hd'
  exact ⟨d'', hd'',
    hcontinues.trans (Destination.continues_congr h.workingName h.working hcontinues')⟩

/-- A destination of the second store is what one of the first has become. -/
theorem exists_before (h : s.Continues moduleName s') {id : DestinationId} {d' : Destination}
    (hd' : s'.destinations[id]? = some d') :
    ∃ d, s.destinations[id]? = some d ∧ d.Continues s.files moduleName d' := by
  cases hd : s.destinations[id]? with
  | none =>
      rw [h.absent id hd] at hd'
      exact absurd hd' (by simp)
  | some d =>
      obtain ⟨d'', hd'', hcontinues⟩ := h.kept id d hd
      obtain rfl : d'' = d' := Option.some.inj (hd''.symm.trans hd')
      exact ⟨d, rfl, hcontinues⟩

theorem accepts (h : s.Continues moduleName s') (hook : Hook) (level : Level) :
    hook.accepts s' level = hook.accepts s level := by
  rw [Hook.accepts, Hook.accepts, Hook.filter, Hook.filter]
  cases hd : s.destinations[hook.destination]? with
  | none => rw [h.absent _ hd]
  | some d =>
      obtain ⟨d', hd', hcontinues⟩ := h.kept _ d hd
      rw [hd']
      dsimp only
      rw [hcontinues.filter]

end Continues

/-- What changes from one store to the other belongs to the destination of a name, in its first
form, or to what it may touch with entries of a module. -/
structure Confined (moduleName : String) (id : DestinationId) (d : Destination) (s s' : Store) :
    Prop where
  continues : s.Continues moduleName s'
  wellFormed : s.files.WellFormed → s'.files.WellFormed
  destination : ∀ other, other ≠ id → s'.destinations[other]? = s.destinations[other]?
  formatter : ∀ i, d.formatter? ≠ some i → s'.formatters[i]? = s.formatters[i]?
  buffer : ∀ name, ¬ d.FillsBuffer name → s'.buffers.content name = s.buffers.content name
  files : s.files.Grows s'.files (d.way s.files moduleName) (d.place? s.files moduleName)

/-- A formatter that writes a line changes only itself. -/
theorem writeLine_store (s : Store) (id : FormatterId) (e : Entry) :
    ∃ formatters, (s.writeLine id e).2 = { s with formatters := formatters } ∧
      ∀ i, i ≠ id → formatters[i]? = s.formatters[i]? := by
  unfold writeLine
  split
  · exact ⟨s.formatters, rfl, fun _ _ => rfl⟩
  · rename_i f hf
    exact ⟨_, rfl, fun i hi => List.getElem?_set_ne hi.symm⟩

theorem entryText_store (s : Store) (identity : String) (id : FormatterId) (e : Entry) :
    ∃ formatters, (s.entryText identity id e).2 = { s with formatters := formatters } ∧
      ∀ i, i ≠ id → formatters[i]? = s.formatters[i]? := by
  unfold entryText
  split
  · exact ⟨s.formatters, rfl, fun _ _ => rfl⟩
  · have hline := s.writeLine_store id e
    split
    all_goals
      rename_i heq
      rwa [heq] at hline

theorem writeStream_store (s : Store) (stream : Stream) (text : String) :
    ∃ buffers, (s.writeStream stream text).2 = { s with buffers := buffers } ∧
      ∀ name, buffers.content name = s.buffers.content name ++
        if stream.sink.buffer? = some name then stream.sink.taken (Text.bytesOf text) else [] := by
  refine ⟨(stream.writeText Console.identity text s.buffers).2, rfl, fun name => ?_⟩
  rw [Stream.writeText_buffers, Stream.content_write]

/-- A store in which only the parts of one destination have changed. -/
theorem Confined.of_parts {moduleName : String} {id : DestinationId} {d : Destination}
    {s : Store} {formatters : List Formatter} {destinations : List Destination}
    {buffers : Buffers} {files : FileTree} (hd : s.destinations[id]? = some d)
    (hself : ∃ d', destinations[id]? = some d' ∧ d.Continues s.files moduleName d')
    (hother : ∀ other, other ≠ id → destinations[other]? = s.destinations[other]?)
    (hformatter : ∀ i, d.formatter? ≠ some i → formatters[i]? = s.formatters[i]?)
    (hbuffer : ∀ name, ¬ d.FillsBuffer name → buffers.content name = s.buffers.content name)
    (hfiles : s.files.Grows files (d.way s.files moduleName) (d.place? s.files moduleName))
    (hwf : s.files.WellFormed → files.WellFormed) :
    s.Confined moduleName id d
      { s with
        formatters := formatters
        destinations := destinations
        buffers := buffers
        files := files } := by
  refine ⟨⟨rfl, hfiles.workingName, hfiles.working, hfiles.directory, fun other d' hd' => ?_,
    fun other hnone => ?_⟩, hwf, hother, hformatter, hbuffer, hfiles⟩
  · by_cases heq : other = id
    · obtain rfl : d = d' := Option.some.inj (hd.symm.trans (heq ▸ hd'))
      rw [heq]
      exact hself
    · exact ⟨d', (hother other heq).trans hd', .refl d'⟩
  · have hne : other ≠ id := by
      rintro rfl
      rw [hnone] at hd
      exact absurd hd (by simp)
    exact (hother other hne).trans hnone

section Deliveries

variable {s : Store} {id : DestinationId} (e : Entry)

/-- Writing the text of an entry changes the formatter of the destination only. -/
theorem entryText_formatters {d : Destination} {i : FormatterId} (hi : d.formatter? = some i)
    (s : Store) (identity : String) :
    ∃ formatters, (s.entryText identity i e).2 = { s with formatters := formatters } ∧
      ∀ j, d.formatter? ≠ some j → formatters[j]? = s.formatters[j]? := by
  obtain ⟨formatters, hstore, hother⟩ := s.entryText_store identity i e
  refine ⟨formatters, hstore, fun j hj => hother j ?_⟩
  rintro rfl
  exact hj hi

theorem confined_console {c : Console} (hd : s.destinations[id]? = some (.console c)) :
    s.Confined e.moduleName id (.console c) (s.deliver id e).2 := by
  have hself : ∃ d', s.destinations[id]? = some d' ∧
      (Destination.console c).Continues s.files e.moduleName d' := ⟨_, hd, .refl _⟩
  obtain ⟨formatters, hstore, hformatter⟩ :=
    entryText_formatters (d := .console c) e rfl s Console.identity
  rw [deliver, hd]
  dsimp only
  split
  · rename_i heq
    rw [heq] at hstore
    dsimp only at hstore ⊢
    rw [hstore]
    exact Confined.of_parts hd hself (fun _ _ => rfl) hformatter (fun _ _ => rfl)
      (Grows.refl _ _ _) fun hwf => hwf
  · rename_i text s' heq
    rw [heq] at hstore
    dsimp only at hstore
    rw [hstore]
    obtain ⟨buffers, hstore', hbuffer⟩ := writeStream_store
      { s with formatters := formatters } (if e.level.isPrint then c.out else c.log) text
    rw [hstore']
    refine Confined.of_parts hd hself (fun _ _ => rfl) hformatter (fun name hname => ?_)
      (Grows.refl _ _ _) fun hwf => hwf
    rw [hbuffer name, if_neg ?_, List.append_nil]
    split
    · exact fun hout => hname (Or.inr hout)
    · exact fun hlog => hname (Or.inl hlog)

theorem confined_logFile {f : LogFile} (hd : s.destinations[id]? = some (.logFile f)) :
    s.Confined e.moduleName id (.logFile f) (s.deliver id e).2 := by
  have hself : ∃ d', s.destinations[id]? = some d' ∧
      (Destination.logFile f).Continues s.files e.moduleName d' := ⟨_, hd, .refl _⟩
  obtain ⟨formatters, hstore, hformatter⟩ :=
    entryText_formatters (d := .logFile f) e rfl s f.identity
  rw [deliver, hd]
  dsimp only
  split
  · rename_i heq
    rw [heq] at hstore
    dsimp only at hstore ⊢
    rw [hstore]
    exact Confined.of_parts hd hself (fun _ _ => rfl) hformatter (fun _ _ => rfl)
      (Grows.refl _ _ _) fun hwf => hwf
  · rename_i text s' heq
    rw [heq] at hstore
    dsimp only at hstore
    rw [hstore]
    -- Zone and tree of files are those from before the line was written.
    obtain ⟨opened, hopened, hplace⟩ := f.append_opened s.zone s.files e text
    refine Confined.of_parts hd ⟨_, List.getElem?_set_self (List.getElem?_eq_some_iff.mp hd).1, ?_⟩
      (fun other hne => List.getElem?_set_ne hne.symm) hformatter (fun _ _ => rfl)
      (f.append_grows s.zone s.files e text)
      fun hwf => f.append_wellFormed s.zone hwf e text
    change (Destination.logFile f).Continues s.files e.moduleName
      (.logFile (f.append s.files s.zone e text).2.1)
    rw [hopened]
    exact .logFile hplace

theorem confined_application {a : Application}
    (hd : s.destinations[id]? = some (.application a)) :
    s.Confined e.moduleName id (.application a) (s.deliver id e).2 := by
  have hself : ∃ d', (s.destinations.set id
      (.application { a with received := a.received + 1 }))[id]? = some d' ∧
      (Destination.application a).Continues s.files e.moduleName d' :=
    ⟨_, List.getElem?_set_self (List.getElem?_eq_some_iff.mp hd).1, .application a _⟩
  have hother : ∀ other, other ≠ id → (s.destinations.set id
      (.application { a with received := a.received + 1 }))[other]? = s.destinations[other]? :=
    fun other hne => List.getElem?_set_ne hne.symm
  rw [deliver, hd]
  dsimp only
  rw [respond]
  split
  · rename_i buffer text hwrites
    refine Confined.of_parts hd hself hother (fun _ _ => rfl) (fun name hname => ?_)
      (Grows.refl _ _ _) fun hwf => hwf
    have hne : buffer ≠ name := fun heq => hname ⟨a.received, e, text, heq ▸ hwrites⟩
    rw [Buffers.content_append, if_neg hne, List.append_nil]
    rfl
  · exact Confined.of_parts hd hself hother (fun _ _ => rfl) (fun _ _ => rfl)
      (Grows.refl _ _ _) fun hwf => hwf
  · exact Confined.of_parts hd hself hother (fun _ _ => rfl) (fun _ _ => rfl)
      (Grows.refl _ _ _) fun hwf => hwf

/-- A delivery changes only what belongs to its destination. -/
theorem confined_deliver {d : Destination} (hd : s.destinations[id]? = some d) :
    s.Confined e.moduleName id d (s.deliver id e).2 := by
  cases d with
  | console c => exact confined_console e hd
  | logFile f => exact confined_logFile e hd
  | application a => exact confined_application e hd

/-- Without a destination a delivery changes nothing. -/
theorem deliver_absent (hnone : s.destinations[id]? = none) : s.deliver id e = (.ok (), s) := by
  rw [deliver, hnone]

theorem deliver_destination_ne {other : DestinationId} (hne : other ≠ id) :
    (s.deliver id e).2.destinations[other]? = s.destinations[other]? := by
  cases hd : s.destinations[id]? with
  | none => rw [deliver_absent e hd]
  | some d => exact (confined_deliver e hd).destination other hne

theorem continues_deliver : s.Continues e.moduleName (s.deliver id e).2 := by
  cases hd : s.destinations[id]? with
  | none =>
      rw [deliver_absent e hd]
      exact .refl s
  | some d => exact (confined_deliver e hd).continues

end Deliveries

end Store

end Hooklog
