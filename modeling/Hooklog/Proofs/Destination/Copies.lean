import Hooklog.Proofs.Destination.Contents
import Hooklog.Proofs.FileTree.Covering
import Hooklog.Proofs.Text.Encoding

/-!
# Copies of log file destinations

A derived logger appends to the files of another one through copies of its destinations.  A copy
holds no file open.  It opens its file at the first entry, and all that it knows of headers is the
one path that it was told of.

* `OpenFile.Reopens` says that opening a file again that is held open leads to the same file and
  changes nothing.  So an entry does the same through a file held open as through one that is
  opened for it, but for the header (`LogFile.append_eq`).
* `LogFile.append_covered` compares an entry for a destination with the same entry for a copy of
  it.  If the copy writes each header that the destination writes, its file is never shorter, and
  it is longer as soon as the copy writes one more.
-/

namespace Hooklog

open FileTree

namespace FileTree

theorem createFrom_of_stands {t : FileTree} {l : Location} {steps : List String}
    (hnames : steps.all isName = true) (hway : ∀ w ∈ passed l steps, t.isDirectory w = true) :
    t.createFrom l steps = (true, t) := by
  induction steps generalizing l with
  | nil => rfl
  | cons step rest ih =>
      obtain ⟨hname, hnames⟩ := Bool.and_eq_true_iff.mp hnames
      obtain ⟨hstep, hrest⟩ := List.forall_mem_cons.mp hway
      rw [createFrom, hname, hstep]
      exact ih hnames hrest

/-- No directory is missing on a clear way. -/
theorem createParent_of_isClear {t : FileTree} {p : Path} (h : t.isClear p = true) :
    t.createParent p = (true, t) := by
  obtain ⟨hnames, hway⟩ := Bool.and_eq_true_iff.mp h
  have hparent := p.isPrefix_parentSteps
  rw [createParent_eq]
  refine createFrom_of_stands (List.all_eq_true.mpr fun step hstep => ?_) fun w hw => ?_
  · exact List.all_eq_true.mp hnames step (hparent.subset hstep)
  · exact List.all_eq_true.mp hway w (passed_subset hparent hw)

end FileTree

/-! ## Files that can be opened again -/

/-- A file held open is found at its path. -/
structure OpenFile.Reopens (file : OpenFile) (t : FileTree) : Prop where
  located : t.locate? file.path = some file.location
  exists_content : (t.content? file.location).isSome = true

theorem OpenFile.Reopens.kept {file : OpenFile} {t t' : FileTree} (h : file.Reopens t)
    (hkeeps : t.Keeps t') : file.Reopens t' :=
  ⟨hkeeps.locate? h.located, hkeeps.file _ h.exists_content⟩

namespace LogFile

/-- Open the file of a path without writing to it. -/
def openPlain (f : LogFile) (t : FileTree) (p : Path) : Except LogError OpenFile × FileTree :=
  match t.createParent p with
  | (false, t) => (.error (f.stepFailure .creatingDirectory (p.parent?.getD p)), t)
  | (true, t) =>
      match t.openFile? p with
      | none => (.error (f.stepFailure .openingFile p), t)
      | some (l, t) => (.ok ⟨p, l⟩, t)

/-- Whether a header is due in the file of a path. -/
def heads (f : LogFile) (p : Path) : Bool :=
  f.opened.map OpenFile.path ≠ some p && (f.writesHeader && f.headed ≠ some p)

theorem heads_iff {f : LogFile} {p : Path} :
    f.heads p = true ↔ f.opened.map OpenFile.path ≠ some p ∧ f.writesHeader = true ∧
      f.headed ≠ some p := by
  rw [heads, Bool.and_eq_true_iff, Bool.and_eq_true_iff, decide_eq_true_eq, decide_eq_true_eq]

section Plain

variable (f : LogFile) (zone : Zone) {t : FileTree} {p : Path}

theorem openPlain_keeps (t : FileTree) (p : Path) : t.Keeps (f.openPlain t p).2 := by
  have hparent := Keeps.createParent t p
  unfold openPlain
  split
  · rename_i t₁ hcreated
    rwa [hcreated] at hparent
  · rename_i t₁ hcreated
    rw [hcreated] at hparent
    split
    · exact hparent
    · rename_i l t₂ hopen
      exact hparent.trans (Keeps.openFile? hopen)

theorem openPlain_ok {file : OpenFile} (h : (f.openPlain t p).1 = .ok file) :
    file.path = p ∧ file.Reopens (f.openPlain t p).2 := by
  unfold openPlain at h ⊢
  split at h
  · exact absurd h (by simp)
  · rename_i t₁ hcreated
    split at h
    · exact absurd h (by simp)
    · rename_i l t₂ hopen
      obtain rfl := Except.ok.inj h
      refine ⟨rfl, (Keeps.openFile? hopen).locate? (openFile?_cases hopen).1, ?_⟩
      rw [content?_openFile? hopen, if_pos rfl]
      rfl

/-- Opening a file again that is held open leads to it and changes nothing. -/
theorem openPlain_reopens {file : OpenFile} (h : file.Reopens t) :
    f.openPlain t file.path = (.ok file, t) := by
  have hclear : t.isClear file.path = true := by
    have hlocated := h.located
    rw [locate?_eq] at hlocated
    split at hlocated
    · assumption
    · exact absurd hlocated (by simp)
  obtain ⟨content, hcontent⟩ := Option.isSome_iff_exists.mp h.exists_content
  have hopen : t.openFile? file.path = some (file.location, t) := by
    rw [openFile?, h.located]
    dsimp only
    rw [exists_get?_of_content? hcontent]
  rw [openPlain, createParent_of_isClear hclear]
  dsimp only
  rw [hopen]

theorem openTarget_eq (t : FileTree) (p : Path) (time : Instant) :
    f.openTarget t zone p time =
      match f.openPlain t p with
      | (.error error, t₁) => (.error error, t₁)
      | (.ok file, t₁) =>
          (.ok file,
            if f.writesHeader && f.headed ≠ some p then
              t₁.append file.location (Text.bytesOf (header (t.hasContent p) time zone))
            else t₁) := by
  rw [openTarget, openPlain]
  rcases t.createParent p with ⟨created, t₁⟩
  cases created with
  | false => rfl
  | true =>
      dsimp only
      cases t₁.openFile? p with
      | none => rfl
      | some opened =>
          dsimp only
          split <;> rfl

end Plain

section Appending

variable {f : LogFile} {zone : Zone} {t : FileTree}

/-- A file is ready as if it had been opened, whether it is held open or not; only the header
depends on that. -/
theorem ready_eq (hheld : ∀ held, f.opened = some held → held.Reopens t) (p : Path)
    (time : Instant) :
    f.ready t zone p time =
      match f.openPlain t p with
      | (.error error, t₁) => (.error error, t₁)
      | (.ok file, t₁) =>
          (.ok file, t₁.append file.location
            (Text.bytesOf (f.dueHeader zone p time (t.hasContent p)))) := by
  rcases f.ready_held_or_opened zone t p time with
    ⟨held, hopened, hpath, hready⟩ | ⟨hclosed, hready⟩
  · have hnone : f.dueHeader zone p time (t.hasContent p) = "" := by
      rw [dueHeader, hopened, Option.map_some, hpath]
      simp
    rw [hready, hnone, ← hpath, f.openPlain_reopens (hheld held hopened)]
    exact congrArg (Prod.mk _) (append_nil t held.location).symm
  · rw [hready, openTarget_eq, dueHeader, decide_eq_true hclosed, Bool.true_and]
    rcases f.openPlain t p with ⟨error | file, t₁⟩
    · rfl
    · dsimp only
      split
      · rfl
      · exact congrArg (Prod.mk _) (append_nil t₁ file.location).symm

/-- An entry is appended after the header that is due. -/
theorem append_eq (hheld : ∀ held, f.opened = some held → held.Reopens t) (e : Entry)
    (text : String) {p : Path} (hp : f.target t.workingName e.moduleName = p) :
    f.append t zone e text =
      match f.openPlain t p with
      | (.error error, t₁) => (.error error, { f with opened := none }, t₁)
      | (.ok file, t₁) =>
          (.ok (), { f with opened := some file },
            (t₁.append file.location
              (Text.bytesOf (f.dueHeader zone p e.time (t.hasContent p)))).append file.location
              (Text.bytesOf text)) := by
  rw [append, hp, ready_eq hheld]
  rcases f.openPlain t p with ⟨error | file, t₁⟩
  · rfl
  · rfl

theorem append_keeps (hheld : ∀ held, f.opened = some held → held.Reopens t) (e : Entry)
    (text : String) : t.Keeps (f.append t zone e text).2.2 := by
  have hplain := f.openPlain_keeps t (f.target t.workingName e.moduleName)
  rw [append_eq hheld e text rfl]
  generalize f.openPlain t (f.target t.workingName e.moduleName) = result at *
  obtain ⟨error | file, t₁⟩ := result
  · exact hplain
  · exact (hplain.trans (Keeps.append t₁ _ _)).trans (Keeps.append _ _ _)

/-- The file that an entry was appended to can be opened again. -/
theorem append_reopens (hheld : ∀ held, f.opened = some held → held.Reopens t) (e : Entry)
    (text : String) {file : OpenFile} (h : (f.append t zone e text).2.1.opened = some file) :
    file.Reopens (f.append t zone e text).2.2 := by
  have hopened := @openPlain_ok f t (f.target t.workingName e.moduleName)
  rw [append_eq hheld e text rfl] at h ⊢
  generalize f.openPlain t (f.target t.workingName e.moduleName) = result at *
  obtain ⟨error | file', t₁⟩ := result
  · exact absurd h (by simp)
  · obtain rfl := Option.some.inj h
    exact ((hopened rfl).2.kept (Keeps.append t₁ _ _)).kept (Keeps.append _ _ _)

end Appending

/-! ## An entry for a destination and for a copy -/

/-- The same destination without an open file, told of a header. -/
def closed (f : LogFile) (headed : Option Path) : LogFile :=
  { f with
    headed := headed
    opened := none }

section Headers

variable {f g : LogFile} {p : Path} {hadContent hadContent' : Bool}

theorem dueHeader_eq (f : LogFile) (zone : Zone) (p : Path) (time : Instant) (hadContent : Bool) :
    f.dueHeader zone p time hadContent =
      if f.heads p then header hadContent time zone else "" := rfl

theorem length_header_le (h : hadContent = true → hadContent' = true) (time : Instant)
    (zone : Zone) :
    (Text.bytesOf (header hadContent time zone)).length ≤
      (Text.bytesOf (header hadContent' time zone)).length := by
  cases hadContent with
  | true =>
      obtain rfl := h rfl
      exact Nat.le_refl _
  | false =>
      simp only [header, Text.bytesOf_append, List.length_append]
      have hnone : (Text.bytesOf (if false = true then "\n" else "")).length = 0 := by decide
      omega

theorem length_dueHeader_le (zone : Zone) (time : Instant)
    (hheads : f.heads p = true → g.heads p = true) (h : hadContent = true → hadContent' = true) :
    (Text.bytesOf (f.dueHeader zone p time hadContent)).length ≤
      (Text.bytesOf (g.dueHeader zone p time hadContent')).length := by
  rw [dueHeader_eq, dueHeader_eq]
  split
  · rename_i hf
    rw [if_pos (hheads hf)]
    exact length_header_le h time zone
  · exact Nat.zero_le _

theorem length_dueHeader_lt (zone : Zone) (time : Instant) (hf : f.heads p = false)
    (hg : g.heads p = true) :
    (Text.bytesOf (f.dueHeader zone p time hadContent)).length <
      (Text.bytesOf (g.dueHeader zone p time hadContent')).length := by
  rw [dueHeader_eq, dueHeader_eq, hf, hg, if_neg Bool.false_ne_true, if_pos rfl, header]
  simp only [Text.bytesOf_append, List.length_append]
  have hmark : (Text.bytesOf "").length < (Text.bytesOf "# ").length := by decide
  omega

end Headers

section Comparing

variable {f : LogFile} {zone : Zone} {t t' : FileTree}

/-- Files are opened alike in covered trees. -/
theorem openPlain_covered (f : LogFile) (h : t.Covered t') (p : Path) :
    (f.openPlain t' p).1 = (f.openPlain t p).1 ∧
      (f.openPlain t p).2.Covered (f.openPlain t' p).2 ∧
      ∀ l, t.ShorterAt t' l → (f.openPlain t p).2.ShorterAt (f.openPlain t' p).2 l := by
  obtain ⟨hflag, hparent⟩ := h.createParent p
  have hshorter : ∀ l, t.ShorterAt t' l → (t.createParent p).2.ShorterAt (t'.createParent p).2 l :=
    fun l hl => hl.congr (content?_createParent t p l) (content?_createParent t' p l)
  rw [openPlain, openPlain]
  generalize t.createParent p = created at *
  generalize t'.createParent p = created' at *
  obtain ⟨flag, t₁⟩ := created
  obtain ⟨flag', t₁'⟩ := created'
  dsimp only at hflag hparent hshorter
  subst hflag
  cases flag' with
  | false => exact ⟨rfl, hparent, hshorter⟩
  | true =>
      dsimp only
      rcases hparent.openFile? p with ⟨hnone, hnone'⟩ | ⟨l, t₂, t₂', hopen, hopen', hcovered⟩
      · rw [hnone, hnone']
        exact ⟨rfl, hparent, hshorter⟩
      · rw [hopen, hopen']
        refine ⟨rfl, hcovered, fun l' hl' => ?_⟩
        obtain ⟨content, content', hcontent, hcontent', hlength⟩ := hshorter l' hl'
        rw [ShorterAt, content?_openFile? hopen, content?_openFile? hopen', hcontent, hcontent']
        refine ⟨content, content', ?_, ?_, hlength⟩
        · exact ite_self _
        · exact ite_self _

/-- An entry for a copy is appended after the header that is due for the copy. -/
theorem append_closed_eq (f : LogFile) (headed : Option Path) (e : Entry) (text : String)
    {p : Path} (hp : f.target t.workingName e.moduleName = p) :
    (f.closed headed).append t zone e text =
      match f.openPlain t p with
      | (.error error, t₁) => (.error error, f.closed headed, t₁)
      | (.ok file, t₁) =>
          (.ok (), { f.closed headed with opened := some file },
            (t₁.append file.location (Text.bytesOf
              ((f.closed headed).dueHeader zone p e.time (t.hasContent p)))).append file.location
              (Text.bytesOf text)) :=
  append_eq (fun _ hnone => absurd hnone (by simp [closed])) e text hp

variable (hheld : ∀ held, f.opened = some held → held.Reopens t) (headed : Option Path)
  (e : Entry) (text : String)

include hheld

/-- An entry for a copy ends as it ends for the destination.  Where the copy writes each header
that the destination writes, no file is shorter for it, and one that was longer stays so. -/
theorem append_covered (h : t.Covered t')
    (hheads : f.heads (f.target t.workingName e.moduleName) = true →
      (f.closed headed).heads (f.target t.workingName e.moduleName) = true) :
    ((f.closed headed).append t' zone e text).1 = (f.append t zone e text).1 ∧
      (f.append t zone e text).2.2.Covered ((f.closed headed).append t' zone e text).2.2 ∧
      ∀ l, t.ShorterAt t' l →
        (f.append t zone e text).2.2.ShorterAt
          ((f.closed headed).append t' zone e text).2.2 l := by
  obtain ⟨hresult, hcovered, hshorter⟩ :=
    f.openPlain_covered h (f.target t.workingName e.moduleName)
  have htarget : f.target t'.workingName e.moduleName = f.target t.workingName e.moduleName := by
    rw [h.workingName]
  rw [append_eq hheld e text rfl, append_closed_eq f headed e text htarget]
  generalize f.target t.workingName e.moduleName = p at *
  generalize f.openPlain t p = own at *
  generalize f.openPlain t' p = other at *
  obtain ⟨result, t₁⟩ := own
  obtain ⟨result', t₁'⟩ := other
  dsimp only at hresult hcovered hshorter
  subst hresult
  cases result' with
  | error error => exact ⟨rfl, hcovered, hshorter⟩
  | ok file =>
      have hlength := length_dueHeader_le zone e.time hheads
        (h.hasContent (p := p))
      exact ⟨rfl, (hcovered.append _ hlength).append _ (Nat.le_refl _),
        fun l hl => ((hshorter l hl).append hlength _).append (Nat.le_refl _) _⟩

/-- A header that only the copy writes makes its file longer. -/
theorem append_shorter (h : t.Covered t') (hok : (f.append t zone e text).1 = .ok ())
    (hheads : f.heads (f.target t.workingName e.moduleName) = false)
    (hcopy : (f.closed headed).heads (f.target t.workingName e.moduleName) = true) :
    ∃ l, (f.append t zone e text).2.2.ShorterAt
      ((f.closed headed).append t' zone e text).2.2 l := by
  obtain ⟨hresult, hcovered, -⟩ :=
    f.openPlain_covered h (f.target t.workingName e.moduleName)
  have htarget : f.target t'.workingName e.moduleName = f.target t.workingName e.moduleName := by
    rw [h.workingName]
  have hstands := @openPlain_ok f t (f.target t.workingName e.moduleName)
  rw [append_eq hheld e text rfl] at hok ⊢
  rw [append_closed_eq f headed e text htarget]
  generalize f.target t.workingName e.moduleName = p at *
  generalize f.openPlain t p = own at *
  generalize f.openPlain t' p = other at *
  obtain ⟨result, t₁⟩ := own
  obtain ⟨result', t₁'⟩ := other
  dsimp only at hresult hcovered hstands
  subst hresult
  cases result' with
  | error error => exact absurd hok (by simp)
  | ok file =>
      have hlength := @length_dueHeader_lt f (f.closed headed) p (t.hasContent p)
        (t'.hasContent p) zone e.time hheads hcopy
      exact ⟨file.location, (ShorterAt.of_append hcovered (hstands rfl).2.exists_content
        hlength).append (Nat.le_refl _) _⟩

/-- Where no header is written but by both, an entry for a copy changes the tree as one for the
destination does. -/
theorem append_closed
    (hheads : (f.append t zone e text).1 = .ok () →
      (f.closed headed).heads (f.target t.workingName e.moduleName) =
        f.heads (f.target t.workingName e.moduleName)) :
    ((f.closed headed).append t zone e text).2.2 = (f.append t zone e text).2.2 := by
  rw [append_eq hheld e text rfl] at hheads ⊢
  rw [append_closed_eq f headed e text rfl]
  generalize f.openPlain t (f.target t.workingName e.moduleName) = result at *
  obtain ⟨error | file, t₁⟩ := result
  · rfl
  · have hheader : (f.closed headed).dueHeader zone (f.target t.workingName e.moduleName) e.time
        (t.hasContent (f.target t.workingName e.moduleName)) =
        f.dueHeader zone (f.target t.workingName e.moduleName) e.time
          (t.hasContent (f.target t.workingName e.moduleName)) := by
      rw [dueHeader_eq, dueHeader_eq, hheads rfl]
    dsimp only
    rw [hheader]

end Comparing

/-! ## Headers that only a copy writes -/

theorem copy_headed (f : LogFile) :
    f.copy.headed = (f.opened.map OpenFile.path).or f.headed := by
  rw [copy]
  cases f.opened <;> rfl

/-- Whether a copy of a destination writes a header for a path and the destination does not, which
was told that the file has one or `taken` an entry for it since. -/
def Reheads (f : LogFile) (p : Path) (taken : Prop) : Prop :=
  f.writesHeader = true ∧ f.copy.headed ≠ some p ∧ (f.headed = some p ∨ taken)

/-- The second destination is what the first one has become with entries for a path; `taken` tells
whether it could append one of them. -/
structure After (f : LogFile) (p : Path) (taken : Prop) (f' : LogFile) : Prop where
  rest : ∃ opened, f' = { f with opened := opened }
  held : taken → f'.opened.map OpenFile.path = some p
  kept : ¬taken → f'.opened = f.opened ∨
    f'.opened = none ∧ f.opened.map OpenFile.path ≠ some p

namespace After

variable {f f' : LogFile} {p : Path} {taken : Prop}

theorem refl (f : LogFile) (p : Path) {taken : Prop} (h : ¬taken) : f.After p taken f :=
  ⟨⟨f.opened, rfl⟩, fun htaken => absurd htaken h, fun _ => .inl rfl⟩

theorem closed_eq (h : f.After p taken f') : f'.closed f.copy.headed = f.copy := by
  obtain ⟨⟨opened, rfl⟩, -, -⟩ := h
  rfl

theorem target_eq (h : f.After p taken f') (workingName moduleName : String) :
    f'.target workingName moduleName = f.target workingName moduleName := by
  obtain ⟨⟨opened, rfl⟩, -, -⟩ := h
  rfl

/-- A copy writes the headers that the destination writes, and those that it writes alone. -/
theorem heads_copy_iff (h : f.After p taken f') :
    f.copy.heads p = true ↔ f'.heads p = true ∨ f.Reheads p taken := by
  obtain ⟨⟨opened, rfl⟩, hheld, hkept⟩ := h
  have hclosed : f.copy.opened.map OpenFile.path ≠ some p := by simp [copy]
  rw [heads_iff, heads_iff, Reheads]
  by_cases htaken : taken
  · constructor
    · rintro ⟨-, hwrites, hcopy⟩
      exact .inr ⟨hwrites, hcopy, .inr htaken⟩
    · rintro (⟨hopened, -⟩ | ⟨hwrites, hcopy, -⟩)
      · exact absurd (hheld htaken) hopened
      · exact ⟨hclosed, hwrites, hcopy⟩
  · -- Without an entry taken, what is held open is what was, unless opening has failed.
    have hopened : opened.map OpenFile.path ≠ some p ↔ f.opened.map OpenFile.path ≠ some p := by
      rcases hkept htaken with rfl | ⟨rfl, hother⟩
      · exact Iff.rfl
      · exact iff_of_true (by simp) hother
    constructor
    · rintro ⟨-, hwrites, hcopy⟩
      by_cases hheaded : f.headed = some p
      · exact .inr ⟨hwrites, hcopy, .inl hheaded⟩
      · refine .inl ⟨hopened.mpr fun hpath => hcopy ?_, hwrites, hheaded⟩
        rw [copy_headed, hpath, Option.some_or]
    · rintro (⟨hother, hwrites, hheaded⟩ | ⟨hwrites, hcopy, -⟩)
      · refine ⟨hclosed, hwrites, ?_⟩
        have hpath := hopened.mp hother
        rw [copy_headed]
        cases hfile : f.opened with
        | none => exact hheaded
        | some file =>
            rw [hfile] at hpath
            exact hpath
      · exact ⟨hclosed, hwrites, hcopy⟩

theorem append (zone : Zone) {t : FileTree} (h : f.After p taken f')
    (hheld : ∀ held, f'.opened = some held → held.Reopens t) {e : Entry}
    (hp : f'.target t.workingName e.moduleName = p) (text : String) :
    f.After p (taken ∨ (f'.append t zone e text).1 = .ok ()) (f'.append t zone e text).2.1 := by
  obtain ⟨⟨opened, rfl⟩, hold, hkept⟩ := h
  have hpath := @LogFile.openPlain_ok { f with opened := opened } t p
  have hreopens : ∀ held, opened = some held → held.path = p →
      LogFile.openPlain { f with opened := opened } t p = (.ok held, t) :=
    fun held hopened hheldPath => hheldPath ▸ LogFile.openPlain_reopens _ (hheld held hopened)
  rw [append_eq hheld e text hp]
  generalize LogFile.openPlain { f with opened := opened } t p = result at *
  obtain ⟨error | file, t₁⟩ := result
  · -- What is held open for the path could have been opened again.
    have hother : opened.map OpenFile.path ≠ some p := by
      intro hopened
      obtain ⟨held, hheldOpened, hheldPath⟩ := Option.map_eq_some_iff.mp hopened
      exact absurd (hreopens held hheldOpened hheldPath) (by simp)
    refine ⟨⟨none, rfl⟩, fun htaken => ?_, fun hnot => .inr ⟨rfl, ?_⟩⟩
    · rcases htaken with htaken | hok
      · exact absurd (hold htaken) hother
      · exact absurd hok (by simp)
    · rcases hkept fun htaken => hnot (.inl htaken) with rfl | ⟨-, hbefore⟩
      · exact hother
      · exact hbefore
  · refine ⟨⟨some file, rfl⟩, fun _ => ?_, fun hnot => absurd (.inr rfl) hnot⟩
    exact congrArg some (hpath rfl).1

theorem not_reheads (h : f.After p taken f') (hheads : f'.heads p = true) :
    ¬f.Reheads p taken := by
  obtain ⟨⟨opened, rfl⟩, hheld, hkept⟩ := h
  rw [heads_iff] at hheads
  rintro ⟨-, hcopy, hheaded | htaken⟩
  · exact hheads.2.2 hheaded
  · exact hheads.1 (hheld htaken)

end After

end LogFile

end Hooklog
