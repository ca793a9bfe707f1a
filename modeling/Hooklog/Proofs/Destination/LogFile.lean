import Hooklog.Destination.LogFile
import Hooklog.Proofs.FileTree.Alike

/-!
# Work of a log file destination

All entries of one module go to one file, whose place is known before the file is opened.  What
a delivery changes of the file tree is work on the path to that file, and in two trees that are
alike along this path it is the same work.
-/

namespace Hooklog

open FileTree

namespace LogFile

/-- Place of the file that takes the entries of a module: that of the file held open for them,
or else the one that the path names. -/
def place? (f : LogFile) (t : FileTree) (moduleName : String) : Option Location :=
  match f.opened with
  | some file =>
      if file.path = f.target t.workingName moduleName then some file.location
      else t.named? (f.target t.workingName moduleName)
  | none => t.named? (f.target t.workingName moduleName)

/-- Places on the way to the file that takes the entries of a module. -/
def way (f : LogFile) (t : FileTree) (moduleName : String) : List Location :=
  t.way (f.target t.workingName moduleName)

variable (f : LogFile) (zone : Zone)

/-! ## Opening -/

theorem openTarget_grows (t : FileTree) (p : Path) (time : Instant) :
    t.Grows (f.openTarget t zone p time).2 (t.way p) (t.named? p) := by
  have hparent := Grows.createParent t p (t.named? p)
  unfold openTarget
  split
  · rename_i t' heq
    rwa [heq] at hparent
  · rename_i t' heq
    rw [heq] at hparent
    split
    · exact hparent
    · rename_i l t'' hopen
      have hopened := Grows.openFile? hopen
      rw [way_congr hparent.working, named?_congr hparent.working] at hopened
      have hplace := named?_of_locate? (openFile?_cases hopen).1
      rw [named?_congr hparent.working] at hplace
      split
      · refine (hparent.trans hopened).trans ?_
        rw [hplace]
        exact Grows.append t'' l _ _
      · exact hparent.trans hopened

theorem openTarget_ok {t : FileTree} {p : Path} {time : Instant} {file : OpenFile}
    (h : (f.openTarget t zone p time).1 = .ok file) :
    file.path = p ∧ t.named? p = some file.location := by
  have hparent := Grows.createParent t p none
  unfold openTarget at h
  split at h
  · exact absurd h (by simp)
  · rename_i t' heq
    rw [heq] at hparent
    split at h
    · exact absurd h (by simp)
    · rename_i l t'' hopen
      have hplace := named?_of_locate? (openFile?_cases hopen).1
      rw [named?_congr hparent.working] at hplace
      split at h
      · rw [← Except.ok.inj h]
        exact ⟨rfl, hplace⟩
      · rw [← Except.ok.inj h]
        exact ⟨rfl, hplace⟩

theorem openTarget_wellFormed {t : FileTree} (h : t.WellFormed) (p : Path) (time : Instant) :
    (f.openTarget t zone p time).2.WellFormed := by
  have hparent := h.createParent p
  unfold openTarget
  split
  · rename_i t' heq
    rwa [heq] at hparent
  · rename_i t' heq
    rw [heq] at hparent
    split
    · exact hparent
    · rename_i l t'' hopen
      split
      · exact (hparent.openFile? hopen).append l _
      · exact hparent.openFile? hopen

theorem openTarget_alike {t t₀ : FileTree} {p : Path} {place : Option Location}
    (h : Alike p place t t₀) (hnamed : t.named? p = place) (hwf : t.WellFormed)
    (hwf₀ : t₀.WellFormed) (time : Instant) :
    (f.openTarget t zone p time).1 = (f.openTarget t₀ zone p time).1 ∧
      Alike p place (f.openTarget t zone p time).2 (f.openTarget t₀ zone p time).2 := by
  have hworking := (Grows.createParent t p none).working
  have hclear : (t.createParent p).1 = true → ∀ l, place = some l →
      ∀ w ∈ t.way p, (t.createParent p).2.isDirectory w = true := fun hcreated l hl =>
    hwf.isDirectory_createParent (hnamed.trans hl) hcreated
  have hclear₀ : (t₀.createParent p).1 = true → ∀ l, place = some l →
      ∀ w ∈ t₀.way p, (t₀.createParent p).2.isDirectory w = true := fun hcreated l hl =>
    hwf₀.isDirectory_createParent (h.named?.symm.trans (hnamed.trans hl)) hcreated
  obtain ⟨hresult, hparent⟩ := h.createParent
  -- Whether there was content is asked first, when the trees may still differ on the way.
  rw [openTarget, openTarget, h.hasContent hnamed hwf₀]
  generalize t.createParent p = made at *
  generalize t₀.createParent p = made₀ at *
  obtain ⟨created, t'⟩ := made
  obtain ⟨created₀, t₀'⟩ := made₀
  dsimp only at hresult hparent hclear hclear₀ hworking
  subst hresult
  cases created with
  | false => exact ⟨rfl, hparent⟩
  | true =>
      have hway : ∀ l, place = some l →
          ∀ w ∈ t'.way p, t'.isDirectory w = true ∧ t₀'.isDirectory w = true := by
        intro l hl w hw
        rw [way_congr hworking] at hw
        exact ⟨hclear rfl l hl w hw, hclear₀ rfl l hl w (h.way ▸ hw)⟩
      dsimp only
      rcases hparent.openFile? (by rw [named?_congr hworking, hnamed]) hway with
        ⟨hnone, hnone₀⟩ | ⟨l, u, u₀, rfl, hopen, hopen₀, hopened⟩
      · rw [hnone, hnone₀]
        exact ⟨rfl, hparent⟩
      · rw [hopen, hopen₀]
        dsimp only
        split
        · exact ⟨rfl, hopened.append _⟩
        · exact ⟨rfl, hopened⟩

/-! ## Appending -/

/-- Either the file is held open, in every tree at the same place, or it is opened. -/
theorem ready_cases (moduleName : String) (p : Path) (time : Instant) :
    (∃ file : OpenFile, file.path = p ∧ ∀ t : FileTree, f.target t.workingName moduleName = p →
      f.ready t zone p time = (.ok file, t) ∧ f.place? t moduleName = some file.location) ∨
    ∀ t : FileTree, f.target t.workingName moduleName = p →
      f.ready t zone p time = f.openTarget t zone p time ∧
        f.place? t moduleName = t.named? p := by
  cases hopened : f.opened with
  | none =>
      refine Or.inr fun t ht => ⟨?_, ?_⟩
      · rw [ready, hopened]
      · rw [place?, hopened, ht]
  | some file =>
      by_cases hpath : file.path = p
      · refine Or.inl ⟨file, hpath, fun t ht => ⟨?_, ?_⟩⟩
        · rw [ready, hopened]
          exact if_pos hpath
        · rw [place?, hopened, ht]
          exact if_pos hpath
      · refine Or.inr fun t ht => ⟨?_, ?_⟩
        · rw [ready, hopened]
          exact if_neg hpath
        · rw [place?, hopened, ht]
          exact if_neg hpath

/-- A file that is ready stands at the place of the destination. -/
theorem ready_ok {t : FileTree} {moduleName : String} {time : Instant} {file : OpenFile}
    (h : (f.ready t zone (f.target t.workingName moduleName) time).1 = .ok file) :
    file.path = f.target t.workingName moduleName ∧ f.place? t moduleName = some file.location := by
  rcases f.ready_cases zone moduleName (f.target t.workingName moduleName) time with
    ⟨held, hpath, hheld⟩ | hopen
  · obtain ⟨hready, hplace⟩ := hheld t rfl
    rw [hready] at h
    obtain rfl := Except.ok.inj h
    exact ⟨hpath, hplace⟩
  · obtain ⟨hready, hplace⟩ := hopen t rfl
    rw [hready] at h
    rw [hplace]
    exact f.openTarget_ok zone h

theorem ready_grows (t : FileTree) (moduleName : String) (time : Instant) :
    t.Grows (f.ready t zone (f.target t.workingName moduleName) time).2 (f.way t moduleName)
      (f.place? t moduleName) := by
  rcases f.ready_cases zone moduleName (f.target t.workingName moduleName) time with
    ⟨file, -, hheld⟩ | hopen
  · rw [(hheld t rfl).1]
    exact Grows.refl t _ _
  · rw [(hopen t rfl).1, (hopen t rfl).2]
    exact f.openTarget_grows zone t _ time

theorem ready_wellFormed {t : FileTree} (h : t.WellFormed) (moduleName : String)
    (time : Instant) :
    (f.ready t zone (f.target t.workingName moduleName) time).2.WellFormed := by
  rcases f.ready_cases zone moduleName (f.target t.workingName moduleName) time with
    ⟨file, -, hheld⟩ | hopen
  · rw [(hheld t rfl).1]
    exact h
  · rw [(hopen t rfl).1]
    exact f.openTarget_wellFormed zone h _ time

/-- An entry changes of the tree what work on the path of its module changes. -/
theorem append_grows (t : FileTree) (e : Entry) (text : String) :
    t.Grows (f.append t zone e text).2.2 (f.way t e.moduleName) (f.place? t e.moduleName) := by
  have hready := f.ready_grows zone t e.moduleName e.time
  unfold append
  split
  · rename_i error t' heq
    rwa [heq] at hready
  · rename_i file t' heq
    have hplace := (f.ready_ok zone (congrArg Prod.fst heq)).2
    rw [heq, hplace] at hready
    rw [hplace]
    exact hready.trans (Grows.append t' file.location _ _)

theorem append_wellFormed {t : FileTree} (h : t.WellFormed) (e : Entry) (text : String) :
    (f.append t zone e text).2.2.WellFormed := by
  have hready := f.ready_wellFormed zone h e.moduleName e.time
  unfold append
  split
  · rename_i error t' heq
    rwa [heq] at hready
  · rename_i file t' heq
    rw [heq] at hready
    exact hready.append file.location _

/-- An entry changes of the destination only what it holds open, and the place of the file stays
the same. -/
theorem append_opened (t : FileTree) (e : Entry) (text : String) :
    ∃ opened, (f.append t zone e text).2.1 = { f with opened := opened } ∧
      ({ f with opened := opened } : LogFile).place? t e.moduleName =
        f.place? t e.moduleName := by
  unfold append
  split
  · rename_i error t' heq
    refine ⟨none, rfl, ?_⟩
    rcases f.ready_cases zone e.moduleName (f.target t.workingName e.moduleName) e.time with
      ⟨held, -, hheld⟩ | hopen
    · rw [(hheld t rfl).1] at heq
      exact absurd (congrArg Prod.fst heq) (by simp)
    · exact (hopen t rfl).2.symm
  · rename_i file t' heq
    obtain ⟨hpath, hplace⟩ := f.ready_ok zone (congrArg Prod.fst heq)
    refine ⟨some file, rfl, ?_⟩
    rw [hplace]
    exact if_pos hpath

theorem place?_congr {t t' : FileTree} (hname : t'.workingName = t.workingName)
    (hworking : t'.working = t.working) (moduleName : String) :
    f.place? t' moduleName = f.place? t moduleName := by
  rw [place?, hname, named?_congr hworking, place?]

theorem way_congr {t t' : FileTree} (hname : t'.workingName = t.workingName)
    (hworking : t'.working = t.working) (moduleName : String) :
    f.way t' moduleName = f.way t moduleName := by
  rw [way, hname, FileTree.way_congr hworking, way]

/-- Two trees that the destination cannot tell apart. -/
def Alike (f : LogFile) (moduleName : String) (t t₀ : FileTree) : Prop :=
  FileTree.Alike (f.target t.workingName moduleName) (f.place? t moduleName) t t₀

variable {f}

theorem Alike.ready {t t₀ : FileTree} {moduleName : String} (h : f.Alike moduleName t t₀)
    (hwf : t.WellFormed) (hwf₀ : t₀.WellFormed) (time : Instant) :
    (f.ready t zone (f.target t.workingName moduleName) time).1 =
        (f.ready t₀ zone (f.target t₀.workingName moduleName) time).1 ∧
      FileTree.Alike (f.target t.workingName moduleName) (f.place? t moduleName)
        (f.ready t zone (f.target t.workingName moduleName) time).2
        (f.ready t₀ zone (f.target t₀.workingName moduleName) time).2 := by
  have hname : t.workingName = t₀.workingName := h.workingName
  rw [← hname]
  rcases f.ready_cases zone moduleName (f.target t.workingName moduleName) time with
    ⟨file, -, hheld⟩ | hopen
  · rw [(hheld t rfl).1, (hheld t₀ (by rw [hname])).1]
    exact ⟨rfl, h⟩
  · rw [(hopen t rfl).1, (hopen t₀ (by rw [hname])).1]
    exact f.openTarget_alike zone h (hopen t rfl).2.symm hwf hwf₀ time

theorem Alike.append {t t₀ : FileTree} {e : Entry} (h : f.Alike e.moduleName t t₀)
    (hwf : t.WellFormed) (hwf₀ : t₀.WellFormed) (text : String) :
    (f.append t zone e text).2.1 = (f.append t₀ zone e text).2.1 ∧
      (f.append t zone e text).2.1.Alike e.moduleName (f.append t zone e text).2.2
        (f.append t₀ zone e text).2.2 := by
  obtain ⟨opened, hopened, hplace⟩ := f.append_opened zone t e text
  have hgrows := f.append_grows zone t e text
  have htrees : (f.append t zone e text).2.1 = (f.append t₀ zone e text).2.1 ∧
      FileTree.Alike (f.target t.workingName e.moduleName) (f.place? t e.moduleName)
        (f.append t zone e text).2.2 (f.append t₀ zone e text).2.2 := by
    obtain ⟨hresult, hready⟩ := h.ready zone hwf hwf₀ e.time
    have hok : ∀ file, (f.ready t zone (f.target t.workingName e.moduleName) e.time).1 = .ok file →
        f.place? t e.moduleName = some file.location := fun file hready =>
      (f.ready_ok zone hready).2
    rw [LogFile.append, LogFile.append]
    generalize f.ready t zone (f.target t.workingName e.moduleName) e.time = r at *
    generalize f.ready t₀ zone (f.target t₀.workingName e.moduleName) e.time = r₀ at *
    obtain ⟨result, t'⟩ := r
    obtain ⟨result₀, t₀'⟩ := r₀
    dsimp only at hresult hready
    subst hresult
    cases result with
    | error failure => exact ⟨rfl, hready⟩
    | ok file =>
        rw [hok file rfl] at hready ⊢
        exact ⟨rfl, hready.append _⟩
  refine ⟨htrees.1, ?_⟩
  rw [hopened, LogFile.Alike, place?_congr _ hgrows.workingName hgrows.working, hplace,
    hgrows.workingName]
  exact htrees.2

end LogFile

end Hooklog
