import Hooklog.Proofs.FileTree.Ways

/-!
# Trees that are alike along a path

Two file trees are alike along a path if work on the path cannot tell them apart.  They hold the
same on the way to the file and in its place, except that the first tree may already have
directories that the second one still lacks; this makes no difference, for the work creates the
directories that it does not find.  It would make one for a path that climbs: what such a path
names can exist before the directories on its way do.

The lemmas say that work on the path gives the same answers in both trees and leaves them alike,
and that so does work of others on the first tree that keeps out of the way.
-/

namespace Hooklog

namespace FileTree

/-- A directory stands in the first tree where there is nothing in the second one yet. -/
def Ahead (t t₀ : FileTree) (p : Path) (place : Option Location) (l : Location) : Prop :=
  ".." ∉ p.steps ∧ place ≠ some l ∧ t₀.nodes.get? l = none ∧ t.nodes.get? l = some .directory

/-- Two trees that work on a path cannot tell apart. -/
structure Alike (p : Path) (place : Option Location) (t t₀ : FileTree) : Prop where
  workingName : t.workingName = t₀.workingName
  working : t.working = t₀.working
  node : ∀ l, place = some l ∨ l ∈ t.way p →
    t.nodes.get? l = t₀.nodes.get? l ∨ t.Ahead t₀ p place l

namespace Alike

variable {t t' t₀ : FileTree} {p : Path} {place : Option Location}

theorem refl (t : FileTree) (p : Path) (place : Option Location) : Alike p place t t :=
  ⟨rfl, rfl, fun _ _ => Or.inl rfl⟩

theorem way (h : Alike p place t t₀) : t.way p = t₀.way p := way_congr h.working p

theorem named? (h : Alike p place t t₀) : t.named? p = t₀.named? p := named?_congr h.working p

/-- The place of the file holds the same in both trees. -/
theorem get?_place {l : Location} (h : Alike p (some l) t t₀) :
    t.nodes.get? l = t₀.nodes.get? l := by
  rcases h.node l (Or.inl rfl) with heq | ⟨-, hne, -, -⟩
  · exact heq
  · exact absurd rfl hne

/-! ## Changes that keep trees alike -/

theorem put (h : Alike p place t t₀) (l : Location) (node : FileNode) :
    Alike p place (t.put l node) (t₀.put l node) := by
  refine ⟨h.workingName, h.working, fun l' hl' => ?_⟩
  rw [Ahead, get?_put, get?_put]
  split
  · exact Or.inl rfl
  · exact h.node l' hl'

theorem put_ahead (h : Alike p place t t₀) {l : Location} (hl : t.Ahead t₀ p place l) :
    Alike p place t (t₀.put l .directory) := by
  refine ⟨h.workingName, h.working, fun l' hl' => ?_⟩
  rw [Ahead, get?_put]
  split
  · rename_i heq
    rw [← heq]
    exact Or.inl hl.2.2.2
  · exact h.node l' hl'

theorem append {l : Location} (h : Alike p (some l) t t₀) (bytes : Text.Bytes) :
    Alike p (some l) (t.append l bytes) (t₀.append l bytes) := by
  refine ⟨h.workingName, h.working, fun l' hl' => ?_⟩
  rw [Ahead, get?_append, get?_append]
  split
  · rename_i heq
    rw [← heq, h.get?_place]
    exact Or.inl rfl
  · exact h.node l' hl'

/-- Others work on the first tree.  Their file is neither on the way nor at its end, the end is
not on their way, and where both ways meet on a path that climbs there are directories. -/
theorem grows {way' : List Location} {place' : Option Location} (h : Alike p place t t₀)
    (hgrows : t.Grows t' way' place')
    (hplace' : ∀ l, place' = some l → place ≠ some l ∧ l ∉ t.way p)
    (hplace : ∀ l, place = some l → l ∉ way')
    (hclimbs : ".." ∈ p.steps → ∀ l ∈ way', l ∈ t.way p → t.isDirectory l = true) :
    Alike p place t' t₀ := by
  refine ⟨hgrows.workingName.trans h.workingName, hgrows.working.trans h.working, fun l hl => ?_⟩
  rw [way_congr hgrows.working] at hl
  rcases hgrows.node l with heq | ⟨hmem, hdirectory, hfree, hnew⟩ | hfile
  · rw [Ahead, heq]
    exact h.node l hl
  · -- A directory that others have created puts the first tree ahead.
    have hne : place ≠ some l := fun heq => hplace l heq hmem
    have hpassed : l ∈ t.way p := hl.resolve_left hne
    rcases h.node l hl with heq | ⟨-, -, -, hold⟩
    · refine Or.inr ⟨fun hup => hdirectory (hclimbs hup l hmem hpassed), hne, ?_, hnew⟩
      rw [← heq, hfree]
    · rw [hfree] at hold
      exact absurd hold (by simp)
  · obtain ⟨hne, hnotin⟩ := hplace' l hfile
    exact absurd hl (not_or.mpr ⟨hne, hnotin⟩)

/-! ## Work on the path -/

theorem createFrom (h : Alike p place t t₀) {l : Location} {steps : List String}
    (hsteps : passed l steps ⊆ t.way p) :
    (t.createFrom l steps).1 = (t₀.createFrom l steps).1 ∧
      Alike p place (t.createFrom l steps).2 (t₀.createFrom l steps).2 := by
  induction steps generalizing t t₀ l with
  | nil => exact ⟨rfl, h⟩
  | cons step rest ih =>
      obtain ⟨hstep, hrest⟩ := List.cons_subset.mp hsteps
      rw [FileTree.createFrom, FileTree.createFrom]
      split
      · exact ⟨rfl, h⟩
      · rcases h.node (next l step) (Or.inr hstep) with heq | hahead
        · have hdirectory : t.isDirectory (next l step) = t₀.isDirectory (next l step) := by
            rw [isDirectory, heq]
            rfl
          have hcontent : t.content? (next l step) = t₀.content? (next l step) := by
            rw [content?, heq]
            rfl
          rw [hdirectory, hcontent]
          split
          · exact ih h hrest
          · split
            · exact ⟨rfl, h⟩
            · exact ih (h.put (next l step) .directory) hrest
        · -- The second tree now gets the directory that the first one has.
          rw [if_pos (isDirectory_of_get? hahead.2.2.2)]
          split
          · exact ih h hrest
          · have hnone : t₀.content? (next l step) = none := by
              rw [content?, hahead.2.2.1]
            rw [hnone, if_neg (by simp)]
            exact ih (h.put_ahead hahead) hrest

theorem createParent (h : Alike p place t t₀) :
    (t.createParent p).1 = (t₀.createParent p).1 ∧
      Alike p place (t.createParent p).2 (t₀.createParent p).2 := by
  rw [createParent_eq, createParent_eq, ← start_congr h.working]
  exact h.createFrom (passed_subset p.isPrefix_parentSteps)

theorem isClear (h : Alike p place t t₀)
    (hway : ∀ w ∈ t.way p, t.isDirectory w = t₀.isDirectory w) : t.isClear p = t₀.isClear p := by
  have hall : (t.way p).all t.isDirectory = (t.way p).all t₀.isDirectory := by
    rw [Bool.eq_iff_iff, List.all_eq_true, List.all_eq_true]
    exact forall₂_congr fun w hw => by rw [hway w hw]
  rw [FileTree.isClear, FileTree.isClear, ← h.way, hall]

/-- If there is something in the place of the file, then the same directories stand on the way
in both trees. -/
theorem isDirectory_of_get? {l : Location} {node : FileNode} (h : Alike p (some l) t t₀)
    (hnamed : t.named? p = some l) (hwf : t₀.WellFormed) (hnode : t₀.nodes.get? l = some node) :
    ∀ w ∈ t.way p, t.isDirectory w = t₀.isDirectory w := by
  intro w hw
  rcases h.node w (Or.inr hw) with heq | ⟨hsteps, -, -, hdirectory⟩
  · rw [isDirectory, heq]
    rfl
  · obtain ⟨name, -, -, rfl⟩ := exists_of_named? hnamed
    have habove : w <:+ p.steps.dropLast.foldl next (t.start p.base) :=
      suffix_of_mem_passed (fun hmem => hsteps (List.dropLast_subset _ hmem))
        (List.mem_cons_of_mem _ hw)
    rw [FileTree.isDirectory_of_get? hdirectory,
      hwf.isDirectory_of_suffix (hwf.parent _ node hnode) habove]

theorem hasContent (h : Alike p place t t₀) (hnamed : t.named? p = place)
    (hwf : t₀.WellFormed) : t.hasContent p = t₀.hasContent p := by
  have hnamed₀ : t₀.named? p = place := by rw [← h.named?, hnamed]
  have hfound : (t.locate? p).bind t.content? = (t₀.locate? p).bind t₀.content? := by
    rw [locate?_eq, locate?_eq, hnamed, hnamed₀]
    cases place with
    | none => rw [ite_self, ite_self]; rfl
    | some l =>
        have hcontent : t.content? l = t₀.content? l := by rw [content?, h.get?_place]; rfl
        cases hnode : t₀.nodes.get? l with
        | none =>
            have hnone : t₀.content? l = none := by rw [content?, hnode]
            rw [hnone] at hcontent
            cases t.isClear p <;> cases t₀.isClear p <;> simp [hcontent, hnone]
        | some node =>
            rw [h.isClear (h.isDirectory_of_get? hnamed hwf hnode)]
            cases t₀.isClear p with
            | false => rfl
            | true => exact hcontent
  rw [FileTree.hasContent, FileTree.hasContent, hfound]

/-- Once the way is clear of anything but directories, the file is opened in both trees or in
neither. -/
theorem openFile? (h : Alike p place t t₀) (hnamed : t.named? p = place)
    (hway : ∀ l, place = some l →
      ∀ w ∈ t.way p, t.isDirectory w = true ∧ t₀.isDirectory w = true) :
    t.openFile? p = none ∧ t₀.openFile? p = none ∨
      ∃ l u u₀, place = some l ∧ t.openFile? p = some (l, u) ∧ t₀.openFile? p = some (l, u₀) ∧
        Alike p place u u₀ := by
  have hnamed₀ : t₀.named? p = place := by rw [← h.named?, hnamed]
  have hlocate : t.locate? p = t₀.locate? p := by
    rw [locate?_eq, locate?_eq, hnamed, hnamed₀]
    cases place with
    | none => rw [ite_self, ite_self]
    | some l =>
        rw [h.isClear fun w hw => ?_]
        obtain ⟨hdirectory, hdirectory₀⟩ := hway l rfl w hw
        rw [hdirectory, hdirectory₀]
  rw [FileTree.openFile?, FileTree.openFile?, hlocate]
  cases hl : t₀.locate? p with
  | none => exact Or.inl ⟨rfl, rfl⟩
  | some l =>
      obtain rfl : place = some l := by rw [← hnamed₀, named?_of_locate? hl]
      dsimp only
      rw [h.get?_place]
      cases t₀.nodes.get? l with
      | none => exact Or.inr ⟨l, _, _, rfl, rfl, rfl, h.put l (.file [])⟩
      | some node =>
          cases node with
          | directory => exact Or.inl ⟨rfl, rfl⟩
          | file content => exact Or.inr ⟨l, t, t₀, rfl, rfl, rfl, h⟩

end Alike

end FileTree

end Hooklog
