import Hooklog.Proofs.FileTree.Ways

/-!
# Contents of files

What creating directories, opening and appending do to the content of every file of a tree, and
when a tree knows of content at the end of a path.
-/

namespace Hooklog

/-- Content of a file; a directory has none. -/
def FileNode.content? : FileNode → Option Text.Bytes
  | .directory => none
  | .file content => some content

namespace FileTree

/-! ## Lookups -/

theorem content?_eq (t : FileTree) (l : Location) :
    t.content? l = (t.nodes.get? l).bind FileNode.content? := by
  unfold content?
  rcases t.nodes.get? l with _ | _ | content
  · rfl
  · rfl
  · rfl

theorem content?_congr {t t' : FileTree} {l : Location} (h : t'.nodes.get? l = t.nodes.get? l) :
    t'.content? l = t.content? l := by
  rw [content?_eq, h, content?_eq]

theorem isDirectory_congr {t t' : FileTree} {l : Location}
    (h : t'.nodes.get? l = t.nodes.get? l) : t'.isDirectory l = t.isDirectory l := by
  rw [isDirectory, h, isDirectory]

theorem exists_get?_of_content? {t : FileTree} {l : Location} {content : Text.Bytes}
    (h : t.content? l = some content) : t.nodes.get? l = some (.file content) := by
  unfold content? at h
  split at h
  · rename_i hnode
    rw [hnode, Option.some.inj h]
  · exact absurd h (by simp)

/-! ## Changes of contents -/

theorem content?_put (t : FileTree) (l l' : Location) (node : FileNode) :
    (t.put l node).content? l' = if l = l' then node.content? else t.content? l' := by
  rw [content?_eq, get?_put, content?_eq]
  split
  · rfl
  · rfl

theorem content?_put_directory {t : FileTree} {l : Location} (hfree : t.nodes.get? l = none)
    (l' : Location) : (t.put l .directory).content? l' = t.content? l' := by
  rw [content?_put]
  split
  · rename_i hl
    rw [← hl, content?_eq, hfree]
    rfl
  · rfl

theorem content?_append (t : FileTree) (l l' : Location) (bytes : Text.Bytes) :
    (t.append l bytes).content? l' =
      if l = l' then (t.content? l').map (· ++ bytes) else t.content? l' := by
  rw [content?_eq, get?_append, content?_eq]
  split
  · rcases t.nodes.get? l' with _ | _ | content
    · rfl
    · rfl
    · rfl
  · rfl

/-- Nothing to append leaves the tree as it is. -/
theorem append_nil (t : FileTree) (l : Location) : t.append l [] = t := by
  have hnodes : t.nodes.modify l (FileNode.extended []) = t.nodes := by
    refine SortedMap.modify_eq_self fun node _ => ?_
    cases node with
    | directory => rfl
    | file content => exact congrArg FileNode.file (List.append_nil content)
  change { t with nodes := t.nodes.modify l (FileNode.extended []) } = t
  rw [hnodes]

theorem content?_createFrom (t : FileTree) (l : Location) (steps : List String)
    (l' : Location) : (t.createFrom l steps).2.content? l' = t.content? l' := by
  induction steps generalizing t l with
  | nil => rfl
  | cons step rest ih =>
      rcases createFrom_cons t l step rest with heq | ⟨-, heq⟩ | ⟨-, hfree, heq⟩
      · rw [heq]
      · rw [heq, ih]
      · rw [heq, ih, content?_put_directory hfree]

/-- Creating directories changes no content. -/
theorem content?_createParent (t : FileTree) (p : Path) (l : Location) :
    (t.createParent p).2.content? l = t.content? l := by
  rw [createParent_eq, content?_createFrom]

/-- A file that was opened has its old content, or none if there was no file. -/
theorem content?_openFile? {t t' : FileTree} {p : Path} {l : Location}
    (h : t.openFile? p = some (l, t')) (l' : Location) :
    t'.content? l' = if l = l' then some ((t.content? l').getD []) else t.content? l' := by
  unfold openFile? at h
  split at h
  · exact absurd h (by simp)
  · rename_i place hlocate
    split at h
    · exact absurd h (by simp)
    · rename_i content hnode
      obtain ⟨rfl, rfl⟩ := Prod.mk.inj (Option.some.inj h)
      split
      · rename_i hl
        rw [← hl, content?_eq, hnode]
        rfl
      · rfl
    · rename_i hnode
      obtain ⟨rfl, rfl⟩ := Prod.mk.inj (Option.some.inj h)
      rw [← put, content?_put]
      split
      · rename_i hl
        rw [← hl, content?_eq, hnode]
        rfl
      · rfl

/-! ## Directories after work on a path -/

theorem isDirectory_append_eq (t : FileTree) (l w : Location) (bytes : Text.Bytes) :
    (t.append l bytes).isDirectory w = t.isDirectory w := by
  rw [isDirectory, get?_append, isDirectory]
  split
  · rcases t.nodes.get? w with _ | _ | content
    · rfl
    · rfl
    · simp [FileNode.extended]
  · rfl

/-- Opening a file makes no directory. -/
theorem isDirectory_openFile? {t t' : FileTree} {p : Path} {l : Location}
    (h : t.openFile? p = some (l, t')) (w : Location) : t'.isDirectory w = t.isDirectory w := by
  obtain ⟨-, hfile, rfl | ⟨hfree, rfl⟩⟩ := openFile?_cases h
  · rfl
  · by_cases hl : l = w
    · rw [← hl, Bool.eq_iff_iff]
      exact iff_of_false hfile hfree
    · refine isDirectory_congr ?_
      rw [get?_put, if_neg hl]

/-- Creating the directories of a path that names a file makes its way stand and no other
directory. -/
theorem WellFormed.isDirectory_createParent_iff {t t' : FileTree} (h : t.WellFormed) {p : Path}
    {l : Location} (hnamed : t.named? p = some l) (hcreated : t.createParent p = (true, t'))
    (w : Location) : t'.isDirectory w = true ↔ t.isDirectory w = true ∨ w ∈ t.way p := by
  have hgrows := Grows.createParent t p none
  have hway := h.isDirectory_createParent hnamed (congrArg Prod.fst hcreated)
  rw [hcreated] at hgrows hway
  constructor
  · intro hw
    rcases hgrows.node w with heq | ⟨hmem, -⟩ | hnone
    · rw [isDirectory_congr heq] at hw
      exact Or.inl hw
    · exact Or.inr hmem
    · exact absurd hnone (by simp)
  · rintro (hw | hw)
    · exact hgrows.directory w hw
    · exact hway w hw

/-! ## Content at the end of a path -/

/-- Content at the end of a path is seen if the way to it is clear. -/
theorem hasContent_eq {t : FileTree} {p : Path} {l : Location} (h : t.named? p = some l)
    (hnames : p.steps.dropLast.all isName = true) :
    t.hasContent p =
      ((t.way p).all t.isDirectory && !((t.content? l).getD []).isEmpty) := by
  rw [hasContent, locate?_eq, isClear, hnames, Bool.true_and]
  cases (t.way p).all t.isDirectory with
  | false => rfl
  | true =>
      rw [if_pos rfl, h, Option.bind_some]
      cases t.content? l with
      | none => rfl
      | some content => rfl

/-- The way of a path that never climbs is clear if there is a file at its end. -/
theorem WellFormed.isDirectory_of_content? {t : FileTree} (h : t.WellFormed) {p : Path}
    {l : Location} (hnamed : t.named? p = some l) (hsteps : ".." ∉ p.steps)
    (hcontent : (t.content? l).isSome = true) : ∀ w ∈ t.way p, t.isDirectory w = true := by
  intro w hw
  obtain ⟨content, hcontent⟩ := Option.isSome_iff_exists.mp hcontent
  obtain ⟨name, -, -, rfl⟩ := exists_of_named? hnamed
  have habove : w <:+ p.steps.dropLast.foldl FileTree.next (t.start p.base) :=
    suffix_of_mem_passed (fun hmem => hsteps (List.dropLast_subset _ hmem))
      (List.mem_cons_of_mem _ hw)
  exact h.isDirectory_of_suffix (h.parent _ _ (exists_get?_of_content? hcontent)) habove

end FileTree

end Hooklog
