import Hooklog.Proofs.FileTree.Contents

/-!
# Comparing trees of files

Two relations between trees that do not look into the bytes of a file.  A tree `Keeps` another one
if nothing of it has gone: directories are directories and files are files still.  A tree is
`Covered` by another one if both hold the same directories and files, and no file of the second is
shorter.  Work on files does the same in covered trees and leaves them so.
-/

namespace Hooklog

/-- The second node is of the kind of the first one and, for files, at least as long. -/
inductive FileNode.Covered : Option FileNode → Option FileNode → Prop where
  | none : Covered none none
  | directory : Covered (some .directory) (some .directory)
  | file {content content' : Text.Bytes} (h : content.length ≤ content'.length) :
      Covered (some (.file content)) (some (.file content'))

theorem FileNode.Covered.refl (node : Option FileNode) : FileNode.Covered node node :=
  match node with
  | Option.none => .none
  | some .directory => .directory
  | some (.file content) => .file (Nat.le_refl content.length)

namespace FileTree

/-! ## Kept trees -/

/-- Nothing of the first tree has gone in the second one. -/
structure Keeps (t t' : FileTree) : Prop where
  workingName : t'.workingName = t.workingName
  working : t'.working = t.working
  directory : ∀ l, t.isDirectory l = true → t'.isDirectory l = true
  file : ∀ l, (t.content? l).isSome = true → (t'.content? l).isSome = true

namespace Keeps

variable {t t' t'' : FileTree}

theorem refl (t : FileTree) : t.Keeps t := ⟨rfl, rfl, fun _ h => h, fun _ h => h⟩

theorem trans (h : t.Keeps t') (h' : t'.Keeps t'') : t.Keeps t'' :=
  ⟨h'.workingName.trans h.workingName, h'.working.trans h.working,
    fun l hl => h'.directory l (h.directory l hl), fun l hl => h'.file l (h.file l hl)⟩

theorem createParent (t : FileTree) (p : Path) : t.Keeps (t.createParent p).2 := by
  have hgrows := Grows.createParent t p none
  refine ⟨hgrows.workingName, hgrows.working, hgrows.directory, fun l hl => ?_⟩
  rwa [content?_createParent]

theorem openFile? {p : Path} {l : Location} (h : t.openFile? p = some (l, t')) : t.Keeps t' := by
  have hgrows := Grows.openFile? h
  refine ⟨hgrows.workingName, hgrows.working, hgrows.directory, fun l' hl' => ?_⟩
  rw [content?_openFile? h]
  split
  · rfl
  · exact hl'

theorem append (t : FileTree) (l : Location) (bytes : Text.Bytes) :
    t.Keeps (t.append l bytes) := by
  refine ⟨rfl, rfl, fun _ h => isDirectory_append h, fun l' hl' => ?_⟩
  rw [content?_append]
  split
  · rw [Option.isSome_map]
    exact hl'
  · exact hl'

theorem putFile {l : Location} (hl : ¬t.isDirectory l = true) (bytes : Text.Bytes) :
    t.Keeps (t.put l (.file bytes)) := by
  refine ⟨rfl, rfl, fun _ h => isDirectory_put hl h, fun l' hl' => ?_⟩
  rw [content?_put]
  split
  · rfl
  · exact hl'

theorem replace (t : FileTree) (p : Path) (bytes : Text.Bytes) :
    t.Keeps (t.replace p bytes).2 := by
  have hparent := createParent t p
  unfold FileTree.replace
  split
  · rename_i t₁ hcreated
    rwa [hcreated] at hparent
  · rename_i t₁ hcreated
    rw [hcreated] at hparent
    split
    · exact hparent
    · rename_i l t₂ hopen
      exact (hparent.trans (openFile? hopen)).trans (putFile (openFile?_cases hopen).2.1 bytes)

/-- A path leads where it led. -/
theorem locate? (h : t.Keeps t') {p : Path} {l : Location} (hl : t.locate? p = some l) :
    t'.locate? p = some l := by
  rw [locate?_eq] at hl ⊢
  split at hl
  · rename_i hclear
    obtain ⟨hnames, hway⟩ := Bool.and_eq_true_iff.mp hclear
    have hclear' : t'.isClear p = true := by
      rw [isClear, hnames, Bool.true_and, way_congr h.working]
      exact List.all_eq_true.mpr fun w hw => h.directory w (List.all_eq_true.mp hway w hw)
    rw [if_pos hclear', named?_congr h.working]
    exact hl
  · exact absurd hl (by simp)

end Keeps

/-! ## Covered trees -/

/-- The second tree holds what the first one holds, and no file of it is shorter. -/
structure Covered (t t' : FileTree) : Prop where
  workingName : t'.workingName = t.workingName
  working : t'.working = t.working
  node : ∀ l, FileNode.Covered (t.nodes.get? l) (t'.nodes.get? l)

/-- The file at a place is shorter in the first tree. -/
def ShorterAt (t t' : FileTree) (l : Location) : Prop :=
  ∃ content content', t.content? l = some content ∧ t'.content? l = some content' ∧
    content.length < content'.length

theorem ShorterAt.congr {t t' t₁ t₁' : FileTree} {l : Location} (h : t.ShorterAt t' l)
    (ht : t₁.content? l = t.content? l) (ht' : t₁'.content? l = t'.content? l) :
    t₁.ShorterAt t₁' l := by
  rw [ShorterAt, ht, ht']
  exact h

namespace Covered

variable {t t' : FileTree}

theorem refl (t : FileTree) : t.Covered t := ⟨rfl, rfl, fun _ => .refl _⟩

section Lookups

variable (h : t.Covered t')

include h

theorem isDirectory (l : Location) : t'.isDirectory l = t.isDirectory l := by
  have hnode := h.node l
  rw [FileTree.isDirectory, FileTree.isDirectory]
  generalize t.nodes.get? l = node at hnode
  generalize t'.nodes.get? l = node' at hnode
  cases hnode with
  | none => rfl
  | directory => rfl
  | file => simp

theorem isSome_content? (l : Location) : (t'.content? l).isSome = (t.content? l).isSome := by
  have hnode := h.node l
  rw [content?_eq, content?_eq]
  generalize t.nodes.get? l = node at hnode
  generalize t'.nodes.get? l = node' at hnode
  cases hnode <;> rfl

theorem length_le {l : Location} {content content' : Text.Bytes}
    (hl : t.content? l = some content) (hl' : t'.content? l = some content') :
    content.length ≤ content'.length := by
  have hnode := h.node l
  rw [exists_get?_of_content? hl, exists_get?_of_content? hl'] at hnode
  cases hnode with
  | file hlength => exact hlength

theorem locate? (p : Path) : t'.locate? p = t.locate? p := by
  have hall : (t'.way p).all t'.isDirectory = (t.way p).all t.isDirectory := by
    rw [way_congr h.working]
    exact congrArg (List.all _) (funext h.isDirectory)
  rw [locate?_eq, locate?_eq, isClear, isClear, hall, named?_congr h.working]

/-- Content that is seen in the first tree is seen in the second one. -/
theorem hasContent {p : Path} (hp : t.hasContent p = true) : t'.hasContent p = true := by
  rw [FileTree.hasContent] at hp ⊢
  rw [h.locate?]
  cases hplace : t.locate? p with
  | none =>
      rw [hplace] at hp
      exact hp
  | some l =>
      rw [hplace, Option.bind_some] at hp
      rw [Option.bind_some]
      cases hl : t.content? l with
      | none =>
          rw [hl] at hp
          exact absurd hp Bool.false_ne_true
      | some content =>
          have hsome := h.isSome_content? l
          rw [hl] at hp hsome
          obtain ⟨content', hl'⟩ := Option.isSome_iff_exists.mp hsome
          have hlength := h.length_le hl hl'
          rw [hl']
          cases content with
          | nil => exact absurd hp Bool.false_ne_true
          | cons byte rest =>
              cases content' with
              | nil => exact absurd hlength (by simp)
              | cons byte' rest' => rfl

end Lookups

theorem put (h : t.Covered t') (l : Location) (node : FileNode) :
    (t.put l node).Covered (t'.put l node) := by
  refine ⟨h.workingName, h.working, fun l' => ?_⟩
  rw [get?_put, get?_put]
  split
  · exact .refl _
  · exact h.node l'

theorem append (h : t.Covered t') (l : Location) {bytes bytes' : Text.Bytes}
    (hbytes : bytes.length ≤ bytes'.length) :
    (t.append l bytes).Covered (t'.append l bytes') := by
  refine ⟨h.workingName, h.working, fun l' => ?_⟩
  have hnode := h.node l'
  rw [get?_append, get?_append]
  split
  · generalize t.nodes.get? l' = node at hnode
    generalize t'.nodes.get? l' = node' at hnode
    cases hnode with
    | none => exact .none
    | directory => exact .directory
    | file hlength =>
        refine .file ?_
        rw [List.length_append, List.length_append]
        exact Nat.add_le_add hlength hbytes
  · exact hnode

theorem createFrom (h : t.Covered t') (l : Location) (steps : List String) :
    (t'.createFrom l steps).1 = (t.createFrom l steps).1 ∧
      (t.createFrom l steps).2.Covered (t'.createFrom l steps).2 := by
  -- along the steps; both trees take the same branch, for they hold the same nodes
  induction steps generalizing t t' l with
  | nil => exact ⟨rfl, h⟩
  | cons step rest ih =>
      rw [FileTree.createFrom, FileTree.createFrom, h.isDirectory, h.isSome_content?]
      split
      · exact ⟨rfl, h⟩
      · split
        · exact ih h _
        · split
          · exact ⟨rfl, h⟩
          · exact ih (h.put _ .directory) _

theorem createParent (h : t.Covered t') (p : Path) :
    (t'.createParent p).1 = (t.createParent p).1 ∧
      (t.createParent p).2.Covered (t'.createParent p).2 := by
  rw [createParent_eq, createParent_eq, start_congr h.working]
  exact h.createFrom _ _

/-- A file is opened in both trees, at the same place, or in none. -/
theorem openFile? (h : t.Covered t') (p : Path) :
    t.openFile? p = none ∧ t'.openFile? p = none ∨
      ∃ l t₁ t₁', t.openFile? p = some (l, t₁) ∧ t'.openFile? p = some (l, t₁') ∧
        t₁.Covered t₁' := by
  rw [FileTree.openFile?, FileTree.openFile?, h.locate?]
  cases t.locate? p with
  | none => exact .inl ⟨rfl, rfl⟩
  | some l =>
      have hnode := h.node l
      dsimp only
      generalize hl : t.nodes.get? l = node at hnode
      generalize hl' : t'.nodes.get? l = node' at hnode
      cases hnode with
      | none => exact .inr ⟨l, _, _, rfl, rfl, h.put l (.file [])⟩
      | directory => exact .inl ⟨rfl, rfl⟩
      | file => exact .inr ⟨l, t, t', rfl, rfl, h⟩

end Covered

namespace ShorterAt

variable {t t' : FileTree} {bytes bytes' : Text.Bytes}

/-- A file stays shorter if no file has got more bytes than the same one of the other tree. -/
theorem append {l : Location} (h : t.ShorterAt t' l) (hbytes : bytes.length ≤ bytes'.length)
    (place : Location) : (t.append place bytes).ShorterAt (t'.append place bytes') l := by
  obtain ⟨content, content', hl, hl', hlength⟩ := h
  rw [ShorterAt, content?_append, content?_append, hl, hl']
  split
  · refine ⟨_, _, rfl, rfl, ?_⟩
    rw [List.length_append, List.length_append]
    exact Nat.add_lt_add_of_lt_of_le hlength hbytes
  · exact ⟨content, content', rfl, rfl, hlength⟩

/-- A file is shorter once it has got fewer bytes than the same one of the other tree. -/
theorem of_append {l : Location} (h : t.Covered t') (hl : (t.content? l).isSome = true)
    (hbytes : bytes.length < bytes'.length) :
    (t.append l bytes).ShorterAt (t'.append l bytes') l := by
  obtain ⟨content, hcontent⟩ := Option.isSome_iff_exists.mp hl
  rw [← h.isSome_content?] at hl
  obtain ⟨content', hcontent'⟩ := Option.isSome_iff_exists.mp hl
  refine ⟨content ++ bytes, content' ++ bytes', ?_, ?_, ?_⟩
  · rw [content?_append, if_pos rfl, hcontent, Option.map_some]
  · rw [content?_append, if_pos rfl, hcontent', Option.map_some]
  · rw [List.length_append, List.length_append]
    exact Nat.add_lt_add_of_le_of_lt (h.length_le hcontent hcontent') hbytes

end ShorterAt

end FileTree

end Hooklog
