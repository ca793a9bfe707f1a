import Hooklog.Proofs.Store.Confinement

/-!
# Stores that are twins for a destination

Two stores are twins for a destination if deliveries to it cannot tell them apart: it remembers
the same in both, its formatter is the same, its buffers hold the same, and its trees of files
are alike along its path.  The same delivery leaves twins behind (`Twins.deliver`), and so does
a delivery of the first store to another destination that shares nothing with this one and keeps
out of its way (`Twins.other`).
-/

namespace Hooklog

/-! ## Destinations that do not touch each other -/

/-- The outlets and the formatter of a destination are not those of another one. -/
structure Destination.Unshared (t : FileTree) (moduleName : String) (d other : Destination) :
    Prop where
  formatter : ∀ i, other.formatter? = some i → d.formatter? ≠ some i
  outlet : ∀ o, other.WritesTo t moduleName o → ¬ d.WritesTo t moduleName o

/-- Another destination keeps out of the way of one: neither file stands on the way to the other
one, and if the path of this one steps up to a parent, there are directories wherever the ways
meet. -/
structure Destination.Undisturbed (t : FileTree) (moduleName : String) (d other : Destination) :
    Prop where
  place : ∀ l, other.place? t moduleName = some l → l ∉ d.way t moduleName
  way : ∀ l, d.place? t moduleName = some l → l ∉ other.way t moduleName
  climbs : d.Climbs t moduleName →
    ∀ l ∈ other.way t moduleName, l ∈ d.way t moduleName → t.isDirectory l = true

namespace Store

/-- Two stores that deliveries of the entries of a module to a destination cannot tell apart. -/
structure Twins (moduleName : String) (id : DestinationId) (s s₀ : Store) : Prop where
  settings : s.settings = s₀.settings
  destination : s.destinations[id]? = s₀.destinations[id]?
  formatter : ∀ d i, s.destinations[id]? = some d → d.formatter? = some i →
    s.formatters[i]? = s₀.formatters[i]?
  buffer : ∀ d name, s.destinations[id]? = some d → d.FillsBuffer name →
    s.buffers.content name = s₀.buffers.content name
  file : ∀ f, s.destinations[id]? = some (.logFile f) → f.Alike moduleName s.files s₀.files
  wellFormed : s.files.WellFormed
  wellFormed₀ : s₀.files.WellFormed

section Lines

variable {s s₀ : Store} (hsettings : s.settings = s₀.settings) {id : FormatterId}
  (hformatter : s.formatters[id]? = s₀.formatters[id]?) (e : Entry)

include hsettings hformatter

theorem writeLine_congr :
    (s.writeLine id e).1 = (s₀.writeLine id e).1 ∧
      (s.writeLine id e).2.formatters[id]? = (s₀.writeLine id e).2.formatters[id]? := by
  rw [writeLine, writeLine, ← hformatter, ← hsettings]
  cases hf : s.formatters[id]? with
  | none => exact ⟨rfl, hformatter⟩
  | some f =>
      refine ⟨rfl, ?_⟩
      have hbound := (List.getElem?_eq_some_iff.mp hf).1
      have hbound₀ := (List.getElem?_eq_some_iff.mp (hformatter.symm.trans hf)).1
      exact (List.getElem?_set_self hbound).trans (List.getElem?_set_self hbound₀).symm

theorem entryText_congr (identity : String) :
    (s.entryText identity id e).1 = (s₀.entryText identity id e).1 ∧
      (s.entryText identity id e).2.formatters[id]? =
        (s₀.entryText identity id e).2.formatters[id]? := by
  rw [entryText, entryText]
  split
  · exact ⟨rfl, hformatter⟩
  · obtain ⟨hline, hstore⟩ := writeLine_congr hsettings hformatter e
    generalize s.writeLine id e = r at *
    generalize s₀.writeLine id e = r₀ at *
    obtain ⟨line, s'⟩ := r
    obtain ⟨line₀, s₀'⟩ := r₀
    dsimp only at hline hstore
    subst hline
    rcases line with (error | fault) | text
    · exact ⟨rfl, hstore⟩
    · exact ⟨rfl, hstore⟩
    · exact ⟨rfl, hstore⟩

end Lines

namespace Twins

variable {s s₀ : Store} {id : DestinationId} {e : Entry}

/-- Writing the line of an entry leaves twins: of the stores only the formatters change. -/
theorem entryText (h : Twins e.moduleName id s s₀) {d : Destination}
    (hd : s.destinations[id]? = some d) {i : FormatterId} (hi : d.formatter? = some i)
    (identity : String) :
    (s.entryText identity i e).1 = (s₀.entryText identity i e).1 ∧
      Twins e.moduleName id (s.entryText identity i e).2 (s₀.entryText identity i e).2 := by
  obtain ⟨hresult, hformatter⟩ :=
    entryText_congr h.settings (h.formatter d i hd hi) e identity
  obtain ⟨formatters, hstore, -⟩ := s.entryText_store identity i e
  obtain ⟨formatters₀, hstore₀, -⟩ := s₀.entryText_store identity i e
  rw [hstore, hstore₀] at hformatter
  refine ⟨hresult, ?_⟩
  rw [hstore, hstore₀]
  refine { h with formatter := ?_ }
  intro d' i' hd' hi'
  obtain rfl : d = d' := Option.some.inj (hd.symm.trans hd')
  obtain rfl : i = i' := Option.some.inj (hi.symm.trans hi')
  exact hformatter

/-- Writing to a stream leaves twins: what the sink takes is the same. -/
theorem writeStream {moduleName : String} (h : Twins moduleName id s s₀) (stream : Stream)
    (text : String) :
    Twins moduleName id (s.writeStream stream text).2 (s₀.writeStream stream text).2 := by
  obtain ⟨buffers, hstore, hcontent⟩ := s.writeStream_store stream text
  obtain ⟨buffers₀, hstore₀, hcontent₀⟩ := s₀.writeStream_store stream text
  rw [hstore, hstore₀]
  refine { h with buffer := ?_ }
  intro d name hd hname
  change buffers.content name = buffers₀.content name
  rw [hcontent name, hcontent₀ name, h.buffer d name hd hname]

/-- Appending to the log file of twins leaves twins. -/
theorem appendFile (h : Twins e.moduleName id s s₀) {f : LogFile}
    (hd : s.destinations[id]? = some (.logFile f)) (text : String) :
    Twins e.moduleName id (s.appendFile id f e text).2 (s₀.appendFile id f e text).2 := by
  have hd₀ := h.destination.symm.trans hd
  have hzone : s₀.zone = s.zone := by rw [zone, zone, h.settings]
  obtain ⟨hfile, halike⟩ := (h.file f hd).append s.zone h.wellFormed h.wellFormed₀ text
  obtain ⟨opened, hopened, -⟩ := f.append_opened s.zone s.files e text
  rw [Store.appendFile, Store.appendFile, hzone]
  have hself : (s.destinations.set id (.logFile (f.append s.files s.zone e text).2.1))[id]? =
      some (.logFile (f.append s.files s.zone e text).2.1) :=
    List.getElem?_set_self (List.getElem?_eq_some_iff.mp hd).1
  have hself₀ : (s₀.destinations.set id (.logFile (f.append s₀.files s.zone e text).2.1))[id]? =
      some (.logFile (f.append s.files s.zone e text).2.1) := by
    rw [List.getElem?_set_self (List.getElem?_eq_some_iff.mp hd₀).1, hfile]
  refine ⟨h.settings, hself.trans hself₀.symm, ?_, ?_, ?_,
    f.append_wellFormed s.zone h.wellFormed e text,
    f.append_wellFormed s.zone h.wellFormed₀ e text⟩
  · intro d i hd' hi
    obtain rfl := Option.some.inj (hself.symm.trans hd')
    refine h.formatter _ i hd ?_
    rwa [hopened] at hi
  · intro d name hd' hname
    obtain rfl := Option.some.inj (hself.symm.trans hd')
    exact hname.elim
  · intro f' hf'
    obtain rfl := Destination.logFile.inj (Option.some.inj (hself.symm.trans hf'))
    exact halike

theorem deliver_console (h : Twins e.moduleName id s s₀) {c : Console}
    (hd : s.destinations[id]? = some (.console c)) :
    Twins e.moduleName id (s.deliver id e).2 (s₀.deliver id e).2 := by
  have hd₀ := h.destination.symm.trans hd
  obtain ⟨hresult, htwins⟩ := h.entryText hd rfl Console.identity
  rw [Store.deliver, Store.deliver, hd, hd₀]
  dsimp only
  generalize s.entryText Console.identity c.formatter e = r at *
  generalize s₀.entryText Console.identity c.formatter e = r₀ at *
  obtain ⟨result, s'⟩ := r
  obtain ⟨result₀, s₀'⟩ := r₀
  dsimp only at hresult htwins
  subst hresult
  cases result with
  | error stop => exact htwins
  | ok text => exact htwins.writeStream _ text

theorem deliver_logFile (h : Twins e.moduleName id s s₀) {f : LogFile}
    (hd : s.destinations[id]? = some (.logFile f)) :
    Twins e.moduleName id (s.deliver id e).2 (s₀.deliver id e).2 := by
  have hd₀ := h.destination.symm.trans hd
  obtain ⟨hresult, htwins⟩ := h.entryText hd rfl f.identity
  obtain ⟨formatters, hstore, -⟩ := s.entryText_store f.identity f.formatter e
  have hkept : (s.entryText f.identity f.formatter e).2.destinations[id]? = some (.logFile f) := by
    rw [hstore]
    exact hd
  rw [Store.deliver, Store.deliver, hd, hd₀]
  dsimp only
  generalize s.entryText f.identity f.formatter e = r at *
  generalize s₀.entryText f.identity f.formatter e = r₀ at *
  obtain ⟨result, s'⟩ := r
  obtain ⟨result₀, s₀'⟩ := r₀
  dsimp only at hresult htwins
  subst hresult
  cases result with
  | error stop => exact htwins
  | ok text => exact htwins.appendFile hkept text

theorem deliver_application (h : Twins e.moduleName id s s₀) {a : Application}
    (hd : s.destinations[id]? = some (.application a)) :
    Twins e.moduleName id (s.deliver id e).2 (s₀.deliver id e).2 := by
  have hd₀ := h.destination.symm.trans hd
  -- The application counts the entry in both stores, whatever it answers.
  have hcounted : Twins e.moduleName id
      (s.setDestination id (.application { a with received := a.received + 1 }))
      (s₀.setDestination id (.application { a with received := a.received + 1 })) := by
    have hself : (s.setDestination id
        (.application { a with received := a.received + 1 })).destinations[id]? =
        some (.application { a with received := a.received + 1 }) :=
      List.getElem?_set_self (List.getElem?_eq_some_iff.mp hd).1
    have hself₀ : (s₀.setDestination id
        (.application { a with received := a.received + 1 })).destinations[id]? =
        some (.application { a with received := a.received + 1 }) :=
      List.getElem?_set_self (List.getElem?_eq_some_iff.mp hd₀).1
    refine ⟨h.settings, hself.trans hself₀.symm, ?_, ?_, ?_, h.wellFormed, h.wellFormed₀⟩
    · intro d i hd' hi
      obtain rfl := Option.some.inj (hself.symm.trans hd')
      exact absurd hi (by simp [Destination.formatter?])
    · intro d name hd' hname
      obtain rfl := Option.some.inj (hself.symm.trans hd')
      exact h.buffer _ name hd hname
    · intro f hf
      exact absurd (Option.some.inj (hself.symm.trans hf)) (by simp)
  rw [Store.deliver, Store.deliver, hd, hd₀]
  dsimp only
  rw [respond, respond]
  split
  · rename_i buffer text hwrites
    refine { hcounted with buffer := ?_ }
    intro d name hd' hname
    change (Buffers.append _ buffer _).content name = (Buffers.append _ buffer _).content name
    rw [Buffers.content_append, Buffers.content_append, hcounted.buffer d name hd' hname]
  · exact hcounted
  · exact hcounted

/-- The same delivery to the destination of twins leaves twins. -/
theorem deliver (h : Twins e.moduleName id s s₀) :
    Twins e.moduleName id (s.deliver id e).2 (s₀.deliver id e).2 := by
  cases hd : s.destinations[id]? with
  | none =>
      rw [deliver_absent e hd, deliver_absent e (h.destination.symm.trans hd)]
      exact h
  | some d =>
      cases d with
      | console c => exact h.deliver_console hd
      | logFile f => exact h.deliver_logFile hd
      | application a => exact h.deliver_application hd

/-- What a delivery to another destination does to the first of twins leaves them twins. -/
theorem other {moduleName : String} {id' : DestinationId} {s' : Store} {d' : Destination}
    (h : Twins moduleName id s s₀) (hconfined : s.Confined moduleName id' d' s')
    (hne : id' ≠ id)
    (hunshared : ∀ d, s.destinations[id]? = some d → d.Unshared s.files moduleName d')
    (hundisturbed : ∀ d, s.destinations[id]? = some d → d.Undisturbed s.files moduleName d') :
    Twins moduleName id s' s₀ := by
  have hself : s'.destinations[id]? = s.destinations[id]? :=
    hconfined.destination id hne.symm
  refine ⟨hconfined.continues.settings.trans h.settings, hself.trans h.destination,
    fun d i hd hi => ?_, fun d name hd hname => ?_, fun f hf => ?_,
    hconfined.wellFormed h.wellFormed, h.wellFormed₀⟩
  · rw [hself] at hd
    rw [hconfined.formatter i fun hi' => (hunshared d hd).formatter i hi' hi]
    exact h.formatter d i hd hi
  · rw [hself] at hd
    rw [hconfined.buffer name fun hname' => (hunshared d hd).outlet (.buffer name) hname' hname]
    exact h.buffer d name hd hname
  · rw [hself] at hf
    have hgrows := hconfined.files
    have happart := hunshared _ hf
    have hclear := hundisturbed _ hf
    rw [LogFile.Alike, LogFile.place?_congr _ hgrows.workingName hgrows.working,
      hgrows.workingName]
    exact (h.file f hf).grows hgrows
      (fun l hl => ⟨happart.outlet (.file l) hl, hclear.place l hl⟩)
      (fun l hl => hclear.way l hl) hclear.climbs

end Twins

end Store

end Hooklog
