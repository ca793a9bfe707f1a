import Hooklog.Proofs.Destination.LogFile
import Hooklog.Proofs.FileTree.Contents

/-!
# Contents of log files

What an entry that could be appended leaves in the files: its own file has the header that was
due and the text of the entry after its old content, and all other files are what they were.

A header is set off by a blank line if the destination found content in the file.  It looks for
this content before it creates the directories of the path, so it finds content only if all of
them stand already.
-/

namespace Hooklog

open FileTree

/-- A file held open is there, at the end of its path, and the path leads to it through
directories. -/
structure OpenFile.Stands (file : OpenFile) (t : FileTree) : Prop where
  named : t.named? file.path = some file.location
  exists_content : (t.content? file.location).isSome = true
  way : ∀ w ∈ t.way file.path, t.isDirectory w = true

/-- It stays there as long as neither files nor directories are removed. -/
theorem OpenFile.Stands.kept {file : OpenFile} {t t' : FileTree} (h : file.Stands t)
    (hworking : t'.working = t.working)
    (hcontent : ∀ l, (t.content? l).isSome = true → (t'.content? l).isSome = true)
    (hdirectory : ∀ w, t.isDirectory w = true → t'.isDirectory w = true) : file.Stands t' := by
  refine ⟨?_, hcontent _ h.exists_content, fun w hw => ?_⟩
  · rw [named?_congr hworking]
    exact h.named
  · rw [FileTree.way_congr hworking] at hw
    exact hdirectory w (h.way w hw)

namespace LogFile

variable (f : LogFile) (zone : Zone)

/-- Header that is due before an entry: a file that is held open or known to have a header gets
none. -/
def dueHeader (p : Path) (time : Instant) (hadContent : Bool) : String :=
  if f.opened.map OpenFile.path ≠ some p && (f.writesHeader && f.headed ≠ some p) then
    header hadContent time zone
  else ""

/-- Whether a destination that opens the file of a path finds content in it. -/
def finds (t : FileTree) (p : Path) (l : Location) : Bool :=
  (t.way p).all t.isDirectory && !((t.content? l).getD []).isEmpty

/-! ## Opening -/

section Opening

variable {f zone} {t : FileTree} {p : Path} {time : Instant} {file : OpenFile}

/-- A file is opened in three steps: its directories are created, the file is opened, and a
header is written if the destination has to. -/
theorem openTarget_steps (h : (f.openTarget t zone p time).1 = .ok file) :
    ∃ t₁ t₂, t.createParent p = (true, t₁) ∧ t₁.openFile? p = some (file.location, t₂) ∧
      (f.openTarget t zone p time).2 =
        if f.writesHeader && f.headed ≠ some p then
          t₂.append file.location (Text.bytesOf (header (t.hasContent p) time zone))
        else t₂ := by
  unfold openTarget at h ⊢
  split at h
  · exact absurd h (by simp)
  · rename_i t₁ hcreated
    rw [hcreated]
    split at h
    · exact absurd h (by simp)
    · rename_i place t₂ hopen
      refine ⟨t₁, t₂, rfl, ?_⟩
      dsimp only at h ⊢
      -- The file that is answered does not depend on the header, only the tree does.
      by_cases hheads : (f.writesHeader && f.headed ≠ some p) = true
      · rw [if_pos hheads] at h ⊢
        obtain rfl := Except.ok.inj h
        exact ⟨hopen, (if_pos hheads).symm⟩
      · rw [if_neg hheads] at h ⊢
        obtain rfl := Except.ok.inj h
        exact ⟨hopen, (if_neg hheads).symm⟩

/-- A path that led to an opened file has names that the system admits. -/
theorem isName_of_openTarget (h : (f.openTarget t zone p time).1 = .ok file) :
    p.steps.dropLast.all isName = true := by
  obtain ⟨t₁, t₂, -, hopen, -⟩ := openTarget_steps h
  have hlocate := (openFile?_cases hopen).1
  rw [locate?_eq] at hlocate
  split at hlocate
  · rename_i hclear
    exact (Bool.and_eq_true_iff.mp hclear).1
  · exact absurd hlocate (by simp)

theorem content?_openTarget (hclosed : f.opened.map OpenFile.path ≠ some p)
    (h : (f.openTarget t zone p time).1 = .ok file) (l : Location) :
    (f.openTarget t zone p time).2.content? l =
      if file.location = l then
        some ((t.content? l).getD [] ++
          Text.bytesOf (f.dueHeader zone p time (finds t p l)))
      else t.content? l := by
  have hnamed := (f.openTarget_ok zone h).2
  obtain ⟨t₁, t₂, hcreated, hopen, htree⟩ := openTarget_steps h
  have hopened : t₂.content? l =
      if file.location = l then some ((t.content? l).getD []) else t.content? l := by
    rw [content?_openFile? hopen, ← content?_createParent t p, hcreated]
  rw [htree, dueHeader, decide_eq_true hclosed, Bool.true_and]
  split
  · rw [content?_append, hopened]
    split
    · rename_i hl
      rw [hasContent_eq hnamed (isName_of_openTarget h), hl]
      rfl
    · rfl
  · rw [hopened]
    split
    · exact congrArg some (List.append_nil _).symm
    · rfl

/-- Opening a file leaves directories at the places where there were some and on its way. -/
theorem isDirectory_openTarget (hwf : t.WellFormed)
    (h : (f.openTarget t zone p time).1 = .ok file) (w : Location) :
    (f.openTarget t zone p time).2.isDirectory w = true ↔
      t.isDirectory w = true ∨ w ∈ t.way p := by
  obtain ⟨t₁, t₂, hcreated, hopen, htree⟩ := openTarget_steps h
  rw [← hwf.isDirectory_createParent_iff (f.openTarget_ok zone h).2 hcreated,
    ← isDirectory_openFile? hopen, htree]
  split
  · rw [isDirectory_append_eq]
  · exact Iff.rfl

end Opening

/-! ## Appending -/

section Appending

variable {f zone} {t : FileTree} {p : Path} {time : Instant} {file : OpenFile}

/-- A file is ready because it is held open or because it was opened. -/
theorem ready_held_or_opened (f : LogFile) (zone : Zone) (t : FileTree) (p : Path)
    (time : Instant) :
    (∃ held, f.opened = some held ∧ held.path = p ∧
      f.ready t zone p time = (.ok held, t)) ∨
    f.opened.map OpenFile.path ≠ some p ∧
      f.ready t zone p time = f.openTarget t zone p time := by
  rw [ready]
  cases hopened : f.opened with
  | none => exact Or.inr ⟨by simp, rfl⟩
  | some held =>
      by_cases hpath : held.path = p
      · exact Or.inl ⟨held, rfl, hpath, if_pos hpath⟩
      · exact Or.inr ⟨fun heq => hpath (Option.some.inj heq), if_neg hpath⟩

theorem ready_path (hheld : ∀ held, f.opened = some held → held.Stands t)
    (h : (f.ready t zone p time).1 = .ok file) :
    file.path = p ∧ t.named? p = some file.location := by
  rcases f.ready_held_or_opened zone t p time with ⟨held, hopened, hpath, hready⟩ | ⟨-, hready⟩
  · rw [hready] at h
    obtain rfl := Except.ok.inj h
    exact ⟨hpath, hpath ▸ (hheld held hopened).named⟩
  · rw [hready] at h
    exact f.openTarget_ok zone h

theorem content?_ready (hheld : ∀ held, f.opened = some held → held.Stands t)
    (h : (f.ready t zone p time).1 = .ok file) (l : Location) :
    (f.ready t zone p time).2.content? l =
      if file.location = l then
        some ((t.content? l).getD [] ++
          Text.bytesOf (f.dueHeader zone p time (finds t p l)))
      else t.content? l := by
  rcases f.ready_held_or_opened zone t p time with
    ⟨held, hopened, hpath, hready⟩ | ⟨hclosed, hready⟩
  · rw [hready] at h ⊢
    obtain rfl := Except.ok.inj h
    -- A file held open gets no header, and the empty text leaves its content as it is.
    have hnone : f.dueHeader zone p time (finds t p l) = "" := by
      rw [dueHeader, hopened, Option.map_some, hpath]
      simp
    rw [hnone]
    split
    · rename_i hl
      obtain ⟨content, hcontent⟩ :=
        Option.isSome_iff_exists.mp (hheld held hopened).exists_content
      rw [← hl, hcontent]
      exact congrArg some (List.append_nil content).symm
    · rfl
  · rw [hready] at h ⊢
    exact content?_openTarget hclosed h l

theorem isDirectory_ready (hwf : t.WellFormed)
    (hheld : ∀ held, f.opened = some held → held.Stands t)
    (h : (f.ready t zone p time).1 = .ok file) (w : Location) :
    (f.ready t zone p time).2.isDirectory w = true ↔
      t.isDirectory w = true ∨ w ∈ t.way p := by
  rcases f.ready_held_or_opened zone t p time with ⟨held, hopened, hpath, hready⟩ | ⟨-, hready⟩
  · rw [hready]
    have hway := (hheld held hopened).way w
    rw [hpath] at hway
    exact ⟨Or.inl, fun hw => hw.elim id hway⟩
  · rw [hready] at h ⊢
    exact isDirectory_openTarget hwf h w

/-- An entry is appended to the file that is ready for it, and this file is held open. -/
theorem append_ok {e : Entry} {text : String} (h : (f.append t zone e text).1 = .ok ()) :
    ∃ file, (f.ready t zone (f.target t.workingName e.moduleName) e.time).1 = .ok file ∧
      (f.append t zone e text).2 =
        ({ f with opened := some file },
          (f.ready t zone (f.target t.workingName e.moduleName) e.time).2.append file.location
            (Text.bytesOf text)) := by
  unfold append at h ⊢
  split at h
  · exact absurd h (by simp)
  · rename_i file t' hready
    rw [hready]
    exact ⟨file, rfl, rfl⟩

/-- What an entry has changed that could be appended: the destination holds its file open, this
file has the header that was due and the text at its end, and the way to it is made of
directories. -/
structure Appends (f : LogFile) (zone : Zone) (t : FileTree) (e : Entry) (text : String)
    (file : OpenFile) : Prop where
  path : file.path = f.target t.workingName e.moduleName
  named : t.named? file.path = some file.location
  opened : (f.append t zone e text).2.1 = { f with opened := some file }
  content : ∀ l, (f.append t zone e text).2.2.content? l =
    if file.location = l then
      some ((t.content? l).getD [] ++
        Text.bytesOf (f.dueHeader zone file.path e.time (finds t file.path l)) ++
        Text.bytesOf text)
    else t.content? l
  directory : ∀ w, (f.append t zone e text).2.2.isDirectory w = true ↔
    t.isDirectory w = true ∨ w ∈ t.way file.path

theorem exists_appends (hwf : t.WellFormed)
    (hheld : ∀ held, f.opened = some held → held.Stands t) {e : Entry} {text : String}
    (h : (f.append t zone e text).1 = .ok ()) : ∃ file, f.Appends zone t e text file := by
  obtain ⟨file, hready, happend⟩ := append_ok h
  obtain ⟨hpath, hnamed⟩ := ready_path hheld hready
  rw [← hpath] at hready happend hnamed
  refine ⟨file, hpath, hnamed, congrArg Prod.fst happend, fun l => ?_, fun w => ?_⟩
  · rw [happend, content?_append, content?_ready hheld hready]
    split
    · rfl
    · rfl
  · rw [happend, isDirectory_append_eq]
    exact isDirectory_ready hwf hheld hready w

namespace Appends

variable {e : Entry} {text : String} (h : f.Appends zone t e text file)

include h

theorem stands : file.Stands (f.append t zone e text).2.2 := by
  have hworking := (f.append_grows zone t e text).working
  refine ⟨?_, ?_, fun w hw => ?_⟩
  · rw [named?_congr hworking]
    exact h.named
  · rw [h.content, if_pos rfl]
    rfl
  · rw [FileTree.way_congr hworking] at hw
    exact (h.directory w).mpr (Or.inr hw)

theorem stands_other {other : OpenFile} (hother : other.Stands t) :
    other.Stands (f.append t zone e text).2.2 := by
  have hgrows := f.append_grows zone t e text
  refine hother.kept hgrows.working (fun l hl => ?_) hgrows.directory
  rw [h.content]
  split
  · rfl
  · exact hl

end Appends

end Appending

end LogFile

end Hooklog
