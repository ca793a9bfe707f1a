import Hooklog.Proofs.Destination.Contents
import Hooklog.Proofs.Store.Confinement

/-!
# Log files and the history of their entries

Entries go to log files through destinations that take turns, hold files open, and are copied for
derived loggers at any time.  The content of every file can be told from the history of these
calls alone: `performFiles_content` says that it is the old content followed by the texts of the
entries for this file, in their order, each with the header that was due before it.

The history knows which file a destination holds open, the one of its last entry, and which file
it was told has a header when it was copied.  It also knows which directories stand, those of
the start and those on the way to an entry, and this is needed in one case only: a path that
steps up from a directory that does not exist yet leads to no content.
-/

namespace Hooklog

open FileTree

/-! ## Histories -/

/-- A call that concerns log files: an entry for a destination, or the copy of a destination for
a derived logger. -/
inductive FileCall where
  | append (id : DestinationId) (e : Entry)
  | copy (id : DestinationId)

/-- An entry that was appended to a log file. -/
structure Appended where
  destination : DestinationId
  /-- Path of the file that takes the entry. -/
  path : Path
  time : Instant
  /-- Whether the destination writes headers. -/
  heads : Bool
  text : String
  deriving DecidableEq

/-- What happened to log files and their destinations. -/
inductive FileEvent where
  | appended (a : Appended)
  | copied (source copy : DestinationId)
  deriving DecidableEq

/-- Paths of the files that entries were appended to. -/
def appendedPaths (past : List FileEvent) : List Path :=
  past.filterMap fun
    | .appended a => some a.path
    | .copied _ _ => none

/-- Path of the file that a destination holds open, the latest event being the first one. -/
def heldOpen (id : DestinationId) : List FileEvent → Option Path
  | [] => none
  | .appended a :: past => if a.destination = id then some a.path else heldOpen id past
  | .copied _ copy :: past => if copy = id then none else heldOpen id past

/-- Path of the file that has a header according to what a destination was told when it was
copied: the file that the other one held open then, or that it had been told of itself. -/
def toldHeaded (id : DestinationId) : List FileEvent → Option Path
  | [] => none
  | .appended _ :: past => toldHeaded id past
  | .copied source copy :: past =>
      if copy = id then (heldOpen source past).or (toldHeaded source past)
      else toldHeaded id past

/-- Header before an entry: none if its destination does not write headers, holds the file open
already or was told that it has one. -/
def Appended.header (a : Appended) (past : List FileEvent) (zone : Zone) (hadContent : Bool) :
    String :=
  if heldOpen a.destination past ≠ some a.path &&
      (a.heads && toldHeaded a.destination past ≠ some a.path) then
    LogFile.header hadContent a.time zone
  else ""

/-- Content of the file at a place after a history.  A header is set off by a blank line if there
is content before it and `clear` tells that it is seen under the path. -/
def contentAfter (t : FileTree) (zone : Zone) (clear : List FileEvent → Path → Bool)
    (l : Location) : List FileEvent → Option Text.Bytes
  | [] => t.content? l
  | .copied _ _ :: past => contentAfter t zone clear l past
  | .appended a :: past =>
      let before := contentAfter t zone clear l past
      if t.named? a.path = some l then
        some (before.getD [] ++
          Text.bytesOf (a.header past zone (clear past a.path && !(before.getD []).isEmpty)) ++
          Text.bytesOf a.text)
      else before

/-- Whether a directory stands at a place after a history: it did at the start, or it is on the
way to an entry. -/
def standsAfter (t : FileTree) (w : Location) : List FileEvent → Bool
  | [] => t.isDirectory w
  | .copied _ _ :: past => standsAfter t w past
  | .appended a :: past => standsAfter t w past || decide (w ∈ t.way a.path)

theorem standsAfter_of_isDirectory {t : FileTree} {w : Location} (h : t.isDirectory w = true)
    (past : List FileEvent) : standsAfter t w past = true := by
  induction past with
  | nil => exact h
  | cons event past ih =>
      cases event with
      | appended a => exact Bool.or_eq_true_iff.mpr (Or.inl ih)
      | copied source copy => exact ih

/-- Whether the way of a path stands after a history. -/
def wayStands (t : FileTree) (past : List FileEvent) (p : Path) : Bool :=
  (t.way p).all fun w => standsAfter t w past

namespace Store

/-- Text of an entry for a log file: raw text as it is, all else as a line of the formatter. -/
def textOf? (s : Store) (id : FormatterId) (e : Entry) : Option String :=
  if e.level.isPrint then some e.message else (s.writeLine id e).1.toOption

/-- What a call does to log files, if it does anything. -/
def event? (s : Store) : FileCall → Option FileEvent
  | .append id e =>
      match s.destinations[id]? with
      | some (.logFile f) =>
          (s.textOf? f.formatter e).map fun text => .appended {
            destination := id
            path := f.target s.files.workingName e.moduleName
            time := e.time
            heads := f.writesHeader
            text := text }
      | _ => none
  | .copy id =>
      match s.destinations[id]? with
      | some (.logFile _) => some (.copied id s.destinations.length)
      | _ => none

/-- Store after a call. -/
def performFile (s : Store) : FileCall → Store
  | .append id e => (s.deliver id e).2
  | .copy id => (s.derive id).2

/-- Store after some calls. -/
def performFiles (s : Store) (calls : List FileCall) : Store := calls.foldl performFile s

/-- Events of some calls, the latest one first, before those that have already happened. -/
def history (s : Store) (past : List FileEvent) : List FileCall → List FileEvent
  | [] => past
  | call :: rest => (s.performFile call).history ((s.event? call).toList ++ past) rest

/-- Whether the operations on files succeed in a call: an entry that has a text is appended. -/
def succeeds (s : Store) : FileCall → Bool
  | .append id e => (s.event? (.append id e)).isNone || (s.deliver id e).1.isOk
  | .copy _ => true

/-- Whether the operations on files succeed in all calls. -/
def works (s : Store) : List FileCall → Bool
  | [] => true
  | call :: rest => s.succeeds call && (s.performFile call).works rest

end Store

/-! ## What a store has of its history -/

/-- A path that never steps up, or does so from directories that stand. -/
def FileTree.Plain (t : FileTree) (p : Path) : Prop :=
  ".." ∉ p.steps ∨ ∀ w ∈ t.way p, t.isDirectory w = true

/-- What a destination remembers of a history. -/
structure LogFile.Remembers (f : LogFile) (id : DestinationId) (past : List FileEvent)
    (t : FileTree) : Prop where
  opened : f.opened.map OpenFile.path = heldOpen id past
  headed : f.headed = toldHeaded id past
  stands : ∀ file, f.opened = some file → file.Stands t

namespace Store

/-- A store in which a history has happened since another one. -/
structure Recorded (s₀ : Store) (past : List FileEvent) (s : Store) : Prop where
  settings : s.settings = s₀.settings
  working : s.files.working = s₀.files.working
  wellFormed : s.files.WellFormed
  directory : ∀ w, s.files.isDirectory w = standsAfter s₀.files w past
  content : ∀ l, s.files.content? l =
    contentAfter s₀.files s₀.zone (wayStands s₀.files) l past
  plain : (∀ p ∈ appendedPaths past, s₀.files.Plain p) →
    ∀ l, s.files.content? l = contentAfter s₀.files s₀.zone (fun _ _ => true) l past
  remembers : ∀ (id : DestinationId) (f : LogFile), s.destinations[id]? = some (.logFile f) →
    f.Remembers id past s.files

namespace Recorded

variable {s₀ s : Store} {past : List FileEvent}

/-- Nothing has happened if no destination has opened a file or was told of one. -/
theorem start (hwf : s.files.WellFormed)
    (hfresh : ∀ (id : DestinationId) (f : LogFile), s.destinations[id]? = some (.logFile f) →
      f.opened = none ∧ f.headed = none) : s.Recorded [] s := by
  refine ⟨rfl, rfl, hwf, fun _ => rfl, fun _ => rfl, fun _ _ => rfl, fun id f hf => ?_⟩
  obtain ⟨hopened, hheaded⟩ := hfresh id f hf
  refine ⟨?_, hheaded, fun file hfile => ?_⟩
  · rw [hopened]
    rfl
  · rw [hopened] at hfile
    exact absurd hfile (by simp)

/-! ## Calls without an event -/

theorem setFormatters (h : s₀.Recorded past s) (formatters : List Formatter) :
    s₀.Recorded past { s with formatters := formatters } :=
  ⟨h.settings, h.working, h.wellFormed, h.directory, h.content, h.plain, h.remembers⟩

/-- A delivery to a destination that is no log file changes no files. -/
theorem deliver_other (h : s₀.Recorded past s) {id : DestinationId} {d : Destination}
    (hd : s.destinations[id]? = some d) (hother : ∀ f, d ≠ .logFile f) (e : Entry) :
    s₀.Recorded past (s.deliver id e).2 := by
  have hconfined := confined_deliver e hd
  have hapart : d.way s.files e.moduleName = [] ∧ d.place? s.files e.moduleName = none := by
    cases d with
    | logFile f => exact absurd rfl (hother f)
    | console c => exact ⟨rfl, rfl⟩
    | application a => exact ⟨rfl, rfl⟩
  have hnode : ∀ l, (s.deliver id e).2.files.nodes.get? l = s.files.nodes.get? l := by
    intro l
    rcases hconfined.files.node l with heq | ⟨hmem, -⟩ | hplace
    · exact heq
    · rw [hapart.1] at hmem
      exact absurd hmem List.not_mem_nil
    · rw [hapart.2] at hplace
      exact absurd hplace (by simp)
  have hcontent := fun l => content?_congr (hnode l)
  have hdirectory := fun l => isDirectory_congr (hnode l)
  refine ⟨hconfined.continues.settings.trans h.settings, hconfined.files.working.trans h.working,
    hconfined.wellFormed h.wellFormed, fun w => (hdirectory w).trans (h.directory w),
    fun l => (hcontent l).trans (h.content l), fun hplain l => (hcontent l).trans (h.plain hplain l),
    fun id' f hf => ?_⟩
  have hbefore : s.destinations[id']? = some (.logFile f) := by
    by_cases hid : id' = id
    · obtain ⟨d', hd', hcontinues⟩ := hconfined.continues.kept id d hd
      rw [hid, hd'] at hf
      obtain rfl := Option.some.inj hf
      cases hcontinues with
      | logFile hplace => exact absurd rfl (hother _)
    · rwa [hconfined.destination id' hid] at hf
  have hremembers := h.remembers id' f hbefore
  refine ⟨hremembers.opened, hremembers.headed, fun file hfile => ?_⟩
  refine (hremembers.stands file hfile).kept hconfined.files.working (fun l hl => ?_)
    fun w hw => ?_
  · rwa [hcontent]
  · rwa [hdirectory]

/-! ## Copies -/

/-- A copy has opened nothing and was told what the other destination holds open. -/
theorem copy (h : s₀.Recorded past s) {id : DestinationId} {f : LogFile}
    (hf : s.destinations[id]? = some (.logFile f)) :
    s₀.Recorded (.copied id s.destinations.length :: past)
      (s.addDestination (.logFile f.copy)).2 := by
  refine ⟨h.settings, h.working, h.wellFormed, h.directory, h.content, h.plain,
    fun id' f' hf' => ?_⟩
  -- The copy gets the first free name, which no earlier destination bears.
  rcases Nat.lt_or_ge id' s.destinations.length with hlt | hge
  · have hold : s.destinations[id']? = some (.logFile f') := by
      rwa [addDestination, List.getElem?_append_left hlt] at hf'
    have hne : s.destinations.length ≠ id' := (Nat.ne_of_lt hlt).symm
    obtain ⟨hopened, hheaded, hstands⟩ := h.remembers id' f' hold
    exact ⟨hopened.trans (if_neg hne).symm, hheaded.trans (if_neg hne).symm, hstands⟩
  · have hnew : id' = s.destinations.length ∧ f' = f.copy := by
      rw [addDestination, List.getElem?_append_right hge, List.getElem?_singleton] at hf'
      split at hf'
      · rename_i hzero
        exact ⟨Nat.le_antisymm (Nat.le_of_sub_eq_zero hzero) hge,
          (Destination.logFile.inj (Option.some.inj hf')).symm⟩
      · exact absurd hf' (by simp)
    obtain ⟨rfl, rfl⟩ := hnew
    obtain ⟨hopened, hheaded, -⟩ := h.remembers id f hf
    refine ⟨(if_pos rfl).symm, ?_, fun file hfile => absurd hfile (by simp [LogFile.copy])⟩
    rw [toldHeaded, if_pos rfl, ← hopened, ← hheaded, LogFile.copy]
    cases f.opened <;> rfl

/-! ## Entries -/

/-- What a destination finds in a file that it opens is what the history tells. -/
theorem finds_eq (h : s₀.Recorded past s) (p : Path) (l : Location) :
    LogFile.finds s.files p l =
      (wayStands s₀.files past p && !((s.files.content? l).getD []).isEmpty) := by
  have hall : (s.files.way p).all s.files.isDirectory = wayStands s₀.files past p := by
    rw [way_congr h.working]
    exact congrArg (List.all _) (funext h.directory)
  rw [LogFile.finds, hall]

/-- In a file at the end of a plain path content is found whenever there is some. -/
theorem finds_plain (h : s₀.Recorded past s) {p : Path} (hp : s₀.files.Plain p) {l : Location}
    (hnamed : s.files.named? p = some l) :
    LogFile.finds s.files p l = !((s.files.content? l).getD []).isEmpty := by
  have hway : ∀ content, s.files.content? l = some content →
      ∀ w ∈ s.files.way p, s.files.isDirectory w = true := by
    intro content hcontent
    -- Above a file there are directories, and a path that never climbs stays above its file.
    rcases hp with hsteps | hstands
    · exact h.wellFormed.isDirectory_of_content? hnamed hsteps (by rw [hcontent]; rfl)
    · intro w hw
      rw [way_congr h.working] at hw
      rw [h.directory]
      exact standsAfter_of_isDirectory (hstands w hw) past
  rw [LogFile.finds]
  cases hcontent : s.files.content? l with
  | none => exact Bool.and_false _
  | some content =>
      rw [List.all_eq_true.mpr (hway content hcontent), Bool.true_and]

/-- What destinations remember after an entry: that of the entry holds its file open. -/
theorem remembers_append (h : s₀.Recorded past s) {a : Appended} {f : LogFile}
    (hf : s.destinations[a.destination]? = some (.logFile f)) {e : Entry} {text : String}
    {file : OpenFile} (happends : f.Appends s.zone s.files e text file) (hpath : file.path = a.path)
    (id : DestinationId) (f' : LogFile)
    (hf' : (s.appendFile a.destination f e text).2.destinations[id]? = some (.logFile f')) :
    f'.Remembers id (.appended a :: past) (f.append s.files s.zone e text).2.2 := by
  -- Only the destination of the entry has changed, and that one holds the file of the entry open.
  by_cases hid : id = a.destination
  · have hself : (s.appendFile a.destination f e text).2.destinations[a.destination]? =
        some (.logFile (f.append s.files s.zone e text).2.1) :=
      List.getElem?_set_self (List.getElem?_eq_some_iff.mp hf).1
    rw [hid, hself, happends.opened] at hf'
    obtain rfl := Destination.logFile.inj (Option.some.inj hf')
    rw [hid]
    refine ⟨?_, (h.remembers a.destination f hf).headed, fun file' hfile' => ?_⟩
    · rw [heldOpen, if_pos rfl, ← hpath]
      rfl
    · obtain rfl := Option.some.inj hfile'
      exact happends.stands
  · have hother : s.destinations[id]? = some (.logFile f') :=
      (List.getElem?_set_ne (Ne.symm hid)).symm.trans hf'
    obtain ⟨hopened, hheaded, hstands⟩ := h.remembers id f' hother
    exact ⟨hopened.trans (if_neg (Ne.symm hid)).symm, hheaded,
      fun file' hfile' => happends.stands_other (hstands file' hfile')⟩

/-- An appended entry has its own file grow by its header and its text. -/
theorem append (h : s₀.Recorded past s) {a : Appended} {f : LogFile}
    (hf : s.destinations[a.destination]? = some (.logFile f)) {e : Entry}
    (hpath : f.target s.files.workingName e.moduleName = a.path) (htime : e.time = a.time)
    (hheads : f.writesHeader = a.heads)
    (hok : (f.append s.files s.zone e a.text).1 = .ok ()) :
    s₀.Recorded (.appended a :: past) (s.appendFile a.destination f e a.text).2 := by
  have hremembers := h.remembers a.destination f hf
  obtain ⟨file, happends⟩ := LogFile.exists_appends h.wellFormed hremembers.stands hok
  have hgrows := f.append_grows s.zone s.files e a.text
  have hfile := happends.path.trans hpath
  have hzone : s.zone = s₀.zone := by rw [zone, zone, h.settings]
  have hheader : ∀ hadContent, f.dueHeader s.zone file.path e.time hadContent =
      a.header past s₀.zone hadContent := by
    intro hadContent
    rw [LogFile.dueHeader, Appended.header, hremembers.opened, hremembers.headed, hzone, hfile,
      htime, hheads]
  have hplace : ∀ l, (s₀.files.named? a.path = some l) = (file.location = l) := by
    intro l
    rw [← named?_congr h.working, ← hfile, happends.named, Option.some.injEq]
  refine ⟨h.settings, hgrows.working.trans h.working,
    f.append_wellFormed s.zone h.wellFormed e a.text, fun w => ?_, fun l => ?_,
    fun hplain l => ?_, h.remembers_append hf happends hfile⟩
  · change (f.append s.files s.zone e a.text).2.2.isDirectory w =
      (standsAfter s₀.files w past || decide (w ∈ s₀.files.way a.path))
    rw [Bool.eq_iff_iff, happends.directory w, ← h.directory w, ← way_congr h.working, hfile,
      Bool.or_eq_true, decide_eq_true_eq]
  · change (f.append s.files s.zone e a.text).2.2.content? l = _
    rw [contentAfter, ← h.content l, happends.content l, h.finds_eq, hheader, hfile]
    simp only [hplace]
  · change (f.append s.files s.zone e a.text).2.2.content? l = _
    rw [contentAfter, ← h.plain (fun q hq => hplain q (List.mem_cons_of_mem _ hq)) l,
      happends.content l]
    simp only [hplace]
    split
    · rename_i hl
      have hplain' : s₀.files.Plain file.path := hfile ▸ hplain _ List.mem_cons_self
      rw [hheader, h.finds_plain hplain' (hl ▸ happends.named)]
      rfl
    · rfl

theorem entryText_toOption (s : Store) (identity : String) (id : FormatterId) (e : Entry) :
    (s.entryText identity id e).1.toOption = s.textOf? id e := by
  rw [entryText, textOf?]
  split
  · rfl
  · generalize s.writeLine id e = r
    obtain ⟨result, s'⟩ := r
    rcases result with (error | fault) | line
    · rfl
    · rfl
    · rfl

/-- A delivery to a log file appends the entry, unless it has no text. -/
theorem deliver_logFile (h : s₀.Recorded past s) {id : DestinationId} {f : LogFile}
    (hf : s.destinations[id]? = some (.logFile f)) {e : Entry}
    (hsucceeds : s.succeeds (.append id e) = true) :
    s₀.Recorded ((s.event? (.append id e)).toList ++ past) (s.deliver id e).2 := by
  obtain ⟨formatters, hstore, -⟩ := s.entryText_store f.identity f.formatter e
  have htext := entryText_toOption s f.identity f.formatter e
  rw [succeeds, event?, deliver, hf] at hsucceeds
  rw [event?, deliver, hf]
  dsimp only at hsucceeds ⊢
  generalize s.entryText f.identity f.formatter e = r at *
  obtain ⟨result, s'⟩ := r
  dsimp only at hstore htext hsucceeds ⊢
  subst hstore
  cases result with
  | error stop =>
      rw [← htext]
      exact h.setFormatters formatters
  | ok text =>
      -- The entry has a text, so that the call succeeds only if this text was appended.
      rw [← htext] at hsucceeds ⊢
      have hok : (f.append s.files s.zone e text).1 = .ok () := by
        have hanswer :
            ((f.append s.files s.zone e text).1.mapError Stop.failed).isOk = true := hsucceeds
        cases hresult : (f.append s.files s.zone e text).1 with
        | ok => rfl
        | error error =>
            rw [hresult] at hanswer
            exact absurd hanswer Bool.false_ne_true
      exact (h.setFormatters formatters).append
        (a := ⟨id, f.target s.files.workingName e.moduleName, e.time, f.writesHeader, text⟩)
        hf rfl rfl rfl hok

/-- A call leaves a store in which its event has happened besides. -/
theorem perform (h : s₀.Recorded past s) {call : FileCall} (hsucceeds : s.succeeds call = true) :
    s₀.Recorded ((s.event? call).toList ++ past) (s.performFile call) := by
  cases call with
  | append id e =>
      change s₀.Recorded _ (s.deliver id e).2
      cases hd : s.destinations[id]? with
      | none =>
          rw [deliver_absent e hd, event?, hd]
          exact h
      | some d =>
          cases d with
          | logFile f => exact h.deliver_logFile hd hsucceeds
          | console c =>
              rw [event?, hd]
              exact h.deliver_other hd (by simp) e
          | application a =>
              rw [event?, hd]
              exact h.deliver_other hd (by simp) e
  | copy id =>
      change s₀.Recorded _ (s.derive id).2
      rw [derive, event?]
      cases hd : s.destinations[id]? with
      | none => exact h
      | some d =>
          cases d with
          | logFile f => exact h.copy hd
          | console c => exact h
          | application a => exact h

theorem run (h : s₀.Recorded past s) {calls : List FileCall} (hworks : s.works calls = true) :
    s₀.Recorded (s.history past calls) (s.performFiles calls) := by
  -- along the calls; each puts its event in front of the past
  induction calls generalizing s past with
  | nil => exact h
  | cons call rest ih =>
      obtain ⟨hsucceeds, hrest⟩ := Bool.and_eq_true_iff.mp hworks
      exact ih (h.perform hsucceeds) hrest

end Recorded

/-- Log files hold every entry once, in order.  Whatever calls are made, the content of each file
is its old content followed by the texts of the entries for this file in their order, each with
the header that was due; a header is set off by a blank line if the file had content and the way
of its path stood.  On paths that are plain the way makes no difference. -/
theorem performFiles_content {s : Store} {calls : List FileCall} (hwf : s.files.WellFormed)
    (hfresh : ∀ (id : DestinationId) (f : LogFile), s.destinations[id]? = some (.logFile f) →
      f.opened = none ∧ f.headed = none)
    (hworks : s.works calls = true) :
    (∀ l, (s.performFiles calls).files.content? l =
      contentAfter s.files s.zone (wayStands s.files) l (s.history [] calls)) ∧
    ((∀ p ∈ appendedPaths (s.history [] calls), s.files.Plain p) →
      ∀ l, (s.performFiles calls).files.content? l =
        contentAfter s.files s.zone (fun _ _ => true) l (s.history [] calls)) ∧
    ∀ (id : DestinationId) (f : LogFile),
      (s.performFiles calls).destinations[id]? = some (.logFile f) →
      f.opened.map OpenFile.path = heldOpen id (s.history [] calls) ∧
        f.headed = toldHeaded id (s.history [] calls) := by
  have hrecorded := (Recorded.start hwf hfresh).run hworks
  refine ⟨hrecorded.content, hrecorded.plain, fun id f hf => ?_⟩
  have hremembers := hrecorded.remembers id f hf
  exact ⟨hremembers.opened, hremembers.headed⟩

/-! ## An old file -/

/-- Store with an old file, the log file of a path, and a directory of log files. -/
def oldFileStore (path : String) : Store :=
  { Store.new (.ofConfig .empty ⟨0, 0⟩ false) ⟨0, 0⟩ "work" with
    formatters := [.text (.new false ["%msg%"] ⟨0, 0⟩)]
    destinations := [.logFile (.new path false 0), .logFile (.new "logs" true 0)]
    files :=
      (FileTree.ofWorking "work").put ["app.log", "work"] (.file (Text.bytesOf "old\n")) }

theorem wellFormed_oldFileStore (path : String) : (oldFileStore path).files.WellFormed :=
  (WellFormed.ofWorking "work").put (by decide +kernel) (by decide +kernel)

theorem fresh_oldFileStore (path : String) (id : DestinationId) (f : LogFile)
    (hf : (oldFileStore path).destinations[id]? = some (.logFile f)) :
    f.opened = none ∧ f.headed = none := by
  have hmem := List.mem_of_getElem? hf
  rcases List.mem_cons.mp hmem with heq | hmem
  · rw [Destination.logFile.inj heq]
    exact ⟨rfl, rfl⟩
  · rw [Destination.logFile.inj (List.mem_singleton.mp hmem)]
    exact ⟨rfl, rfl⟩

/-- An entry of a module. -/
def moduleEntry (level : Level) (message moduleName : String) : Entry :=
  ⟨level, message, ⟨0, 0⟩, moduleName, .empty, none⟩

/-- A log file and its copy write to the old file, and files of modules take turns. -/
def turns : List FileCall :=
  [.append 0 (moduleEntry .info "one" "m"), .copy 0, .append 2 (moduleEntry .print "two " "m"),
    .append 1 (moduleEntry .info "first" "a"), .append 1 (moduleEntry .info "second" "b:c"),
    .append 1 (moduleEntry .info "third" "a"), .append 0 (moduleEntry .info "three" "m")]

theorem performFiles_content_turns :
    let s := oldFileStore "app.log"
    s.files.WellFormed ∧
      (∀ (id : DestinationId) (f : LogFile), s.destinations[id]? = some (.logFile f) →
        f.opened = none ∧ f.headed = none) ∧
      s.works turns = true ∧
      (∀ p ∈ appendedPaths (s.history [] turns), s.files.Plain p) ∧
      contentAfter s.files s.zone (fun _ _ => true) ["app.log", "work"] (s.history [] turns) =
        some (Text.bytesOf "old\n\n# 1970/01/01 00:00:00.000\none\ntwo three\n") ∧
      contentAfter s.files s.zone (fun _ _ => true) ["a.log", "logs", "work"]
          (s.history [] turns) =
        some (Text.bytesOf ("# 1970/01/01 00:00:00.000\nfirst\n" ++
          "\n# 1970/01/01 00:00:00.000\nthird\n")) ∧
      ∀ l, (s.performFiles turns).files.content? l =
        contentAfter s.files s.zone (fun _ _ => true) l (s.history [] turns) := by
  intro s
  have hworks : s.works turns = true := by decide +kernel
  have hsteps : ∀ p ∈ appendedPaths (s.history [] turns), ".." ∉ p.steps := by decide +kernel
  have hplain : ∀ p ∈ appendedPaths (s.history [] turns), s.files.Plain p := fun p hp =>
    Or.inl (hsteps p hp)
  exact ⟨wellFormed_oldFileStore _, fresh_oldFileStore _, hworks, hplain, by decide +kernel,
    by decide +kernel,
    (performFiles_content (wellFormed_oldFileStore _) (fresh_oldFileStore _) hworks).2.1 hplain⟩

/-- A blank line is missing where a path steps up from a directory that does not exist: the old
content at its end is not found, although it is there when the header is written. -/
theorem no_blank_line_after_missing_directory :
    let s := oldFileStore "new/../app.log"
    let calls := [FileCall.append 0 (moduleEntry .info "one" "m")]
    s.files.WellFormed ∧
      (∀ (id : DestinationId) (f : LogFile), s.destinations[id]? = some (.logFile f) →
        f.opened = none ∧ f.headed = none) ∧
      s.works calls = true ∧
      s.files.content? ["app.log", "work"] = some (Text.bytesOf "old\n") ∧
      (s.performFiles calls).files.content? ["app.log", "work"] =
        some (Text.bytesOf "old\n# 1970/01/01 00:00:00.000\none\n") ∧
      contentAfter s.files s.zone (fun _ _ => true) ["app.log", "work"] (s.history [] calls) =
        some (Text.bytesOf "old\n\n# 1970/01/01 00:00:00.000\none\n") ∧
      (s.performFiles calls).files.content? ["app.log", "work"] ≠
        contentAfter s.files s.zone (fun _ _ => true) ["app.log", "work"]
          (s.history [] calls) := by
  intro s calls
  exact ⟨wellFormed_oldFileStore _, fresh_oldFileStore _, by decide +kernel, by decide +kernel,
    by decide +kernel, by decide +kernel, by decide +kernel⟩

end Store

end Hooklog
