import Hooklog.FileTree
import Hooklog.Proofs.Tables

/-!
# Ways through a file tree

Opening a file walks along the directories on the way to it and creates those that are
missing.  This module names the places that a path passes through and the place of the file at
its end, and says what creating, opening and appending do to a tree in terms of these.

* `locate?_eq`: a path leads to the file that it names exactly when its way is clear.
* `Grows`: what working on one path changes.  Directories stay, missing ones appear on the way,
  and nothing but the file at the end is touched besides.
* `WellFormed`: everything stands in a directory, and every operation keeps it so.
-/

namespace Hooklog

namespace Path

/-- Steps to the directory that holds what a path leads to. -/
def parentSteps (p : Path) : List String := significant (significant p.steps).dropLast

/-- Nothing but void steps at the end is not significant. -/
theorem exists_voids (steps : List String) :
    ∃ voids, (∀ step ∈ voids, isVoid step = true) ∧ steps = significant steps ++ voids := by
  cases steps with
  | nil => exact ⟨[], List.forall_mem_nil _, rfl⟩
  | cons first rest =>
      have hvoids : ∀ step ∈ (rest.reverse.takeWhile isVoid).reverse, isVoid step = true :=
        fun step hstep => List.all_eq_true.mp List.all_takeWhile step (List.mem_reverse.mp hstep)
      have hrest : rest = (rest.reverse.dropWhile isVoid).reverse
          ++ (rest.reverse.takeWhile isVoid).reverse := by
        rw [← List.reverse_append, List.takeWhile_append_dropWhile, List.reverse_reverse]
      rw [significant]
      split
      · rename_i hnothing
        simp only [Bool.and_eq_true, decide_eq_true_eq] at hnothing
        rw [hnothing.1, List.nil_append] at hrest
        refine ⟨first :: rest, List.forall_mem_cons.mpr ⟨?_, ?_⟩, rfl⟩
        · rw [hnothing.2]
          rfl
        · rw [hrest]
          exact hvoids
      · exact ⟨_, hvoids, congrArg (first :: ·) hrest⟩

theorem isPrefix_significant (steps : List String) : significant steps <+: steps := by
  obtain ⟨voids, -, hsteps⟩ := exists_voids steps
  exact ⟨voids, hsteps.symm⟩

/-- All steps are significant if the last one leads somewhere. -/
theorem significant_eq_self {steps : List String} {name : String}
    (hlast : steps.getLast? = some name) (hname : isVoid name = false) :
    significant steps = steps := by
  obtain ⟨voids, hvoids, hsteps⟩ := exists_voids steps
  cases hv : voids.getLast? with
  | none =>
      rw [List.getLast?_eq_none_iff.mp hv, List.append_nil] at hsteps
      exact hsteps.symm
  | some step =>
      rw [hsteps, List.getLast?_append, hv] at hlast
      obtain rfl := Option.some.inj hlast
      have hvoid := hvoids step (List.mem_of_getLast? hv)
      rw [hname] at hvoid
      exact absurd hvoid Bool.false_ne_true

theorem isPrefix_parentSteps (p : Path) : p.parentSteps <+: p.steps.dropLast := by
  refine (isPrefix_significant _).trans ?_
  obtain ⟨voids, -, hsteps⟩ := exists_voids p.steps
  cases voids with
  | nil =>
      rw [List.append_nil] at hsteps
      exact ⟨[], by rw [List.append_nil, ← hsteps]⟩
  | cons step rest =>
      rw [hsteps, List.dropLast_append_of_ne_nil (List.cons_ne_nil step rest), ← hsteps]
      exact (List.dropLast_prefix _).trans (List.prefix_append _ _)

/-- Between the directory of a file and its name there are only void steps. -/
theorem exists_voids_parentSteps {p : Path} {name : String} (hlast : p.steps.getLast? = some name)
    (hname : isVoid name = false) :
    ∃ voids, (∀ step ∈ voids, isVoid step = true) ∧ p.steps.dropLast = p.parentSteps ++ voids := by
  rw [parentSteps, significant_eq_self hlast hname]
  exact exists_voids _

end Path

/-- A node with bytes appended to it; a directory takes none. -/
def FileNode.extended (bytes : Text.Bytes) : FileNode → FileNode
  | .file content => .file (content ++ bytes)
  | .directory => .directory

namespace FileTree

/-! ## Places on the way -/

/-- Places that steps pass through. -/
def passed (l : Location) : List String → List Location
  | [] => []
  | step :: rest => next l step :: passed (next l step) rest

/-- Places that a path passes through on the way to what it names. -/
def way (t : FileTree) (p : Path) : List Location :=
  passed (t.start p.base) p.steps.dropLast

/-- Place of the file that a path names, if it names one. -/
def named? (t : FileTree) (p : Path) : Option Location :=
  match p.steps.getLast? with
  | none => none
  | some name =>
      if Path.isVoid name || name = ".." || !isName name then none
      else some (name :: p.steps.dropLast.foldl next (t.start p.base))

/-- Whether the way of a path is clear: the system admits every step, and a directory stands at
every place on the way. -/
def isClear (t : FileTree) (p : Path) : Bool :=
  p.steps.dropLast.all isName && (t.way p).all t.isDirectory

section Congruence

variable {t t' : FileTree} (h : t'.working = t.working)

include h

theorem start_congr (base : PathBase) : t'.start base = t.start base := by
  cases base with
  | root => rfl
  | working => exact h

theorem way_congr (p : Path) : t'.way p = t.way p := by rw [way, start_congr h, way]

theorem named?_congr (p : Path) : t'.named? p = t.named? p := by
  rw [named?, start_congr h, named?]

end Congruence

theorem passed_append (l : Location) (steps more : List String) :
    passed l (steps ++ more) = passed l steps ++ passed (steps.foldl next l) more := by
  induction steps generalizing l with
  | nil => rfl
  | cons step rest ih => rw [List.cons_append, passed, ih, passed, List.foldl_cons]; rfl

theorem passed_subset {l : Location} {steps more : List String} (h : steps <+: more) :
    passed l steps ⊆ passed l more := by
  obtain ⟨rest, rfl⟩ := h
  rw [passed_append]
  exact List.subset_append_left _ _

/-- Steps end where they started or at a place that they passed through. -/
theorem foldl_next_mem (l : Location) (steps : List String) :
    steps.foldl next l ∈ l :: passed l steps := by
  induction steps generalizing l with
  | nil => exact List.mem_cons_self
  | cons step rest ih => exact List.mem_cons_of_mem l (ih (next l step))

theorem eq_of_mem_passed_voids {l w : Location} {voids : List String}
    (hvoids : ∀ step ∈ voids, Path.isVoid step = true) (hw : w ∈ passed l voids) : w = l := by
  induction voids with
  | nil => exact absurd hw List.not_mem_nil
  | cons step rest ih =>
      obtain ⟨hstep, hrest⟩ := List.forall_mem_cons.mp hvoids
      have hnext : next l step = l := if_pos hstep
      rw [passed, hnext] at hw
      rcases List.mem_cons.mp hw with hw | hw
      · exact hw
      · exact ih hrest hw

theorem exists_of_named? {t : FileTree} {p : Path} {l : Location} (h : t.named? p = some l) :
    ∃ name, p.steps.getLast? = some name ∧ Path.isVoid name = false ∧
      l = name :: p.steps.dropLast.foldl next (t.start p.base) := by
  unfold named? at h
  split at h
  · exact absurd h (by simp)
  · rename_i name hlast
    split at h
    · exact absurd h (by simp)
    · rename_i hname
      simp only [Bool.or_eq_true, not_or, Bool.not_eq_true] at hname
      exact ⟨name, hlast, hname.1.1, (Option.some.inj h).symm⟩

/-- What a path passes through beyond the steps to its directory it has passed through
before. -/
theorem mem_passed_of_mem_way {t : FileTree} {p : Path} {l w : Location}
    (h : t.named? p = some l) (hw : w ∈ t.way p) :
    w = t.start p.base ∨ w ∈ passed (t.start p.base) p.parentSteps := by
  obtain ⟨name, hlast, hname, -⟩ := exists_of_named? h
  obtain ⟨voids, hvoids, hsteps⟩ := Path.exists_voids_parentSteps hlast hname
  rw [way, hsteps, passed_append] at hw
  rcases List.mem_append.mp hw with hw | hw
  · exact Or.inr hw
  · rw [eq_of_mem_passed_voids hvoids hw]
    exact List.mem_cons.mp (foldl_next_mem _ _)

/-- Steps that never climb stay above the place where they end. -/
theorem suffix_of_mem_passed {l w : Location} {steps : List String} (hsteps : ".." ∉ steps)
    (hw : w ∈ l :: passed l steps) : w <:+ steps.foldl next l := by
  induction steps generalizing l w with
  | nil =>
      obtain rfl := List.mem_singleton.mp hw
      exact List.suffix_rfl
  | cons step rest ih =>
      obtain ⟨hstep, hrest⟩ := List.ne_and_not_mem_of_not_mem_cons hsteps
      rcases List.mem_cons.mp hw with rfl | hw
      · have hnext : w <:+ next w step := by
          unfold next
          split
          · exact List.suffix_rfl
          · rw [if_neg (Ne.symm hstep)]
            exact List.suffix_cons step w
        exact hnext.trans (ih hrest List.mem_cons_self)
      · exact ih hrest hw

theorem walk?_eq (t : FileTree) (l : Location) (steps : List String) :
    t.walk? l steps =
      if steps.all isName && (passed l steps).all t.isDirectory then some (steps.foldl next l)
      else none := by
  induction steps generalizing l with
  | nil => rfl
  | cons step rest ih =>
      rw [walk?, ih, passed, List.all_cons, List.all_cons, List.foldl_cons]
      cases isName step <;> cases t.isDirectory (next l step) <;> simp

/-- A path leads to the file that it names if its way is clear, and nowhere otherwise. -/
theorem locate?_eq (t : FileTree) (p : Path) :
    t.locate? p = if t.isClear p then t.named? p else none := by
  rw [locate?, named?, isClear]
  cases p.steps.getLast? with
  | none => exact (ite_self none).symm
  | some name =>
      dsimp only
      rw [walk?_eq, way]
      split
      · exact (ite_self none).symm
      · split <;> rfl

theorem createParent_eq (t : FileTree) (p : Path) :
    t.createParent p = t.createFrom (t.start p.base) p.parentSteps := by
  rw [createParent, Path.parent?, Path.parentSteps]
  cases Path.significant p.steps with
  | nil => rfl
  | cons first rest =>
      dsimp only
      split
      · rename_i hparent
        split at hparent
        · rename_i hnothing
          simp only [Bool.and_eq_true, decide_eq_true_eq] at hnothing
          rw [hnothing.1]
          rfl
        · exact absurd hparent (by simp)
      · rename_i parent hparent
        split at hparent
        · exact absurd hparent (by simp)
        · obtain rfl := Option.some.inj hparent
          rfl

/-! ## Nodes -/

/-- Tree with something put at a place. -/
def put (t : FileTree) (l : Location) (node : FileNode) : FileTree :=
  { t with nodes := t.nodes.insert l node }

theorem get?_put (t : FileTree) (l l' : Location) (node : FileNode) :
    (t.put l node).nodes.get? l' = if l = l' then some node else t.nodes.get? l' :=
  SortedMap.get?_insert t.nodes l l' node

theorem isDirectory_iff {t : FileTree} {l : Location} :
    t.isDirectory l = true ↔ l = [] ∨ t.nodes.get? l = some .directory := by
  rw [isDirectory, Bool.or_eq_true, decide_eq_true_eq, decide_eq_true_eq]

theorem isDirectory_of_get? {t : FileTree} {l : Location}
    (h : t.nodes.get? l = some .directory) : t.isDirectory l = true :=
  isDirectory_iff.mpr (Or.inr h)

theorem get?_eq_none {t : FileTree} {l : Location} (hdirectory : ¬ t.isDirectory l = true)
    (hfile : ¬ (t.content? l).isSome = true) : t.nodes.get? l = none := by
  unfold content? at hfile
  match h : t.nodes.get? l with
  | none => rfl
  | some .directory => exact absurd (isDirectory_of_get? h) hdirectory
  | some (.file content) =>
      rw [h] at hfile
      exact absurd rfl hfile

theorem isDirectory_put {t : FileTree} {l l' : Location} {node : FileNode}
    (hl : ¬ t.isDirectory l = true) (h : t.isDirectory l' = true) :
    (t.put l node).isDirectory l' = true := by
  rcases isDirectory_iff.mp h with rfl | hnode
  · rfl
  · refine isDirectory_of_get? ?_
    rw [get?_put, if_neg ?_, hnode]
    rintro rfl
    exact hl h

theorem get?_append (t : FileTree) (l l' : Location) (bytes : Text.Bytes) :
    (t.append l bytes).nodes.get? l' =
      if l = l' then (t.nodes.get? l').map (FileNode.extended bytes) else t.nodes.get? l' :=
  SortedMap.get?_modify t.nodes l l' (FileNode.extended bytes)

theorem isDirectory_append {t : FileTree} {l l' : Location} {bytes : Text.Bytes}
    (h : t.isDirectory l' = true) : (t.append l bytes).isDirectory l' = true := by
  rcases isDirectory_iff.mp h with rfl | hnode
  · rfl
  · refine isDirectory_of_get? ?_
    rw [get?_append]
    rw [hnode]
    exact ite_self _

/-! ## Steps of the work on a file -/

/-- Directories are created one by one: each step of the work leaves the tree as it is or puts
a directory at a free place. -/
theorem createFrom_cons (t : FileTree) (l : Location) (step : String) (rest : List String) :
    t.createFrom l (step :: rest) = (false, t) ∨
    t.isDirectory (next l step) = true ∧
      t.createFrom l (step :: rest) = t.createFrom (next l step) rest ∨
    ¬ t.isDirectory (next l step) = true ∧ t.nodes.get? (next l step) = none ∧
      t.createFrom l (step :: rest) =
        (t.put (next l step) .directory).createFrom (next l step) rest := by
  rw [createFrom]
  split
  · exact Or.inl rfl
  · split
    · rename_i hdirectory
      exact Or.inr (Or.inl ⟨hdirectory, rfl⟩)
    · rename_i hdirectory
      split
      · exact Or.inl rfl
      · rename_i hfile
        exact Or.inr (Or.inr ⟨hdirectory, get?_eq_none hdirectory hfile, rfl⟩)

theorem named?_of_locate? {t : FileTree} {p : Path} {l : Location} (h : t.locate? p = some l) :
    t.named? p = some l := by
  rw [locate?_eq] at h
  split at h
  · exact h
  · exact absurd h (by simp)

/-- Opening a file leaves the tree as it is or puts an empty file at a free place. -/
theorem openFile?_cases {t t' : FileTree} {p : Path} {l : Location}
    (h : t.openFile? p = some (l, t')) :
    t.locate? p = some l ∧ ¬ t'.isDirectory l = true ∧
      (t' = t ∨ ¬ t.isDirectory l = true ∧ t' = t.put l (.file [])) := by
  have hfile : ∀ {t₁ : FileTree}, t.locate? p = some l →
      ¬ t₁.nodes.get? l = some .directory → ¬ t₁.isDirectory l = true := by
    intro t₁ hlocate hnode hdirectory
    obtain ⟨name, -, -, rfl⟩ := exists_of_named? (named?_of_locate? hlocate)
    rcases isDirectory_iff.mp hdirectory with hroot | hnode'
    · exact absurd hroot (List.cons_ne_nil _ _)
    · exact hnode hnode'
  unfold openFile? at h
  split at h
  · exact absurd h (by simp)
  · rename_i hlocate
    split at h
    · exact absurd h (by simp)
    · rename_i hnode
      obtain ⟨rfl, rfl⟩ := Prod.mk.inj (Option.some.inj h)
      exact ⟨hlocate, hfile hlocate (by simp [hnode]), Or.inl rfl⟩
    · rename_i hnode
      obtain ⟨rfl, rfl⟩ := Prod.mk.inj (Option.some.inj h)
      refine ⟨hlocate, hfile hlocate ?_, Or.inr ⟨hfile hlocate (by simp [hnode]), rfl⟩⟩
      rw [← put, get?_put, if_pos rfl]
      simp

/-! ## What work on a path changes -/

/-- One tree has grown out of another by work on a path: directories have stayed, missing ones
may have appeared on the way, and nothing else but the file at the end has changed. -/
structure Grows (t t' : FileTree) (way : List Location) (place : Option Location) : Prop where
  workingName : t'.workingName = t.workingName
  working : t'.working = t.working
  directory : ∀ l, t.isDirectory l = true → t'.isDirectory l = true
  node : ∀ l, t'.nodes.get? l = t.nodes.get? l ∨
    (l ∈ way ∧ ¬ t.isDirectory l = true ∧ t.nodes.get? l = none ∧
      t'.nodes.get? l = some .directory) ∨
    place = some l

namespace Grows

variable {t t' t'' : FileTree} {way : List Location} {place : Option Location}

theorem refl (t : FileTree) (way : List Location) (place : Option Location) :
    t.Grows t way place :=
  ⟨rfl, rfl, fun _ h => h, fun _ => Or.inl rfl⟩

theorem trans (h : t.Grows t' way place) (h' : t'.Grows t'' way place) :
    t.Grows t'' way place := by
  refine ⟨h'.workingName.trans h.workingName, h'.working.trans h.working,
    fun l hl => h'.directory l (h.directory l hl), fun l => ?_⟩
  rcases h'.node l with heq | ⟨hl, hdirectory, hfree, hnew⟩ | hplace
  · rw [heq]
    exact h.node l
  · rcases h.node l with heq' | ⟨-, -, -, hnew'⟩ | hplace
    · rw [heq'] at hfree
      exact Or.inr (Or.inl ⟨hl, fun hold => hdirectory (h.directory l hold), hfree, hnew⟩)
    · rw [hfree] at hnew'
      exact absurd hnew' (by simp)
    · exact Or.inr (Or.inr hplace)
  · exact Or.inr (Or.inr hplace)

theorem put_directory {l : Location} (hl : l ∈ way) (hdirectory : ¬ t.isDirectory l = true)
    (hfree : t.nodes.get? l = none) : t.Grows (t.put l .directory) way place := by
  refine ⟨rfl, rfl, fun _ h => isDirectory_put hdirectory h, fun l' => ?_⟩
  rw [get?_put]
  split
  · rename_i heq
    rw [← heq]
    exact Or.inr (Or.inl ⟨hl, hdirectory, hfree, rfl⟩)
  · exact Or.inl rfl

theorem put_place {l : Location} {node : FileNode} (hdirectory : ¬ t.isDirectory l = true) :
    t.Grows (t.put l node) way (some l) := by
  refine ⟨rfl, rfl, fun _ h => isDirectory_put hdirectory h, fun l' => ?_⟩
  rw [get?_put]
  split
  · rename_i heq
    exact Or.inr (Or.inr (congrArg some heq))
  · exact Or.inl rfl

theorem append (t : FileTree) (l : Location) (bytes : Text.Bytes) (way : List Location) :
    t.Grows (t.append l bytes) way (some l) := by
  refine ⟨rfl, rfl, fun _ h => isDirectory_append h, fun l' => ?_⟩
  rw [get?_append]
  split
  · rename_i heq
    exact Or.inr (Or.inr (congrArg some heq))
  · exact Or.inl rfl

theorem createFrom (t : FileTree) {l : Location} {steps : List String}
    (hsteps : passed l steps ⊆ way) (place : Option Location) :
    t.Grows (t.createFrom l steps).2 way place := by
  induction steps generalizing t l with
  | nil => exact refl t way place
  | cons step rest ih =>
      obtain ⟨hstep, hrest⟩ := List.cons_subset.mp hsteps
      rcases createFrom_cons t l step rest with h | ⟨-, h⟩ | ⟨hdirectory, hfree, h⟩
      · rw [h]
        exact refl t way place
      · rw [h]
        exact ih t hrest
      · rw [h]
        exact (put_directory hstep hdirectory hfree).trans (ih _ hrest)

theorem createParent (t : FileTree) (p : Path) (place : Option Location) :
    t.Grows (t.createParent p).2 (t.way p) place := by
  rw [createParent_eq]
  exact createFrom t (passed_subset p.isPrefix_parentSteps) place

theorem openFile? {p : Path} {l : Location} (h : t.openFile? p = some (l, t')) :
    t.Grows t' (t.way p) (t.named? p) := by
  obtain ⟨hlocate, -, rfl | ⟨hdirectory, rfl⟩⟩ := openFile?_cases h
  · exact refl t' _ _
  · rw [named?_of_locate? hlocate]
    exact put_place hdirectory

end Grows

/-- The directories that were asked for stand once all of them could be created. -/
theorem isDirectory_createFrom {t : FileTree} {l : Location} {steps : List String}
    (h : (t.createFrom l steps).1 = true) :
    ∀ w ∈ passed l steps, (t.createFrom l steps).2.isDirectory w = true := by
  induction steps generalizing t l with
  | nil => exact List.forall_mem_nil _
  | cons step rest ih =>
      -- A directory that stands now still does when the rest has been created.
      have hkept : ∀ t' : FileTree, t'.isDirectory (next l step) = true →
          (t'.createFrom (next l step) rest).2.isDirectory (next l step) = true :=
        fun t' => (Grows.createFrom t' (List.Subset.refl _) none).directory _
      rcases createFrom_cons t l step rest with heq | ⟨hdirectory, heq⟩ | ⟨-, -, heq⟩
      · rw [heq] at h
        exact absurd h Bool.false_ne_true
      · rw [heq] at h ⊢
        exact List.forall_mem_cons.mpr ⟨hkept t hdirectory, ih h⟩
      · rw [heq] at h ⊢
        refine List.forall_mem_cons.mpr ⟨hkept _ (isDirectory_of_get? ?_), ih h⟩
        rw [get?_put, if_pos rfl]

/-! ## Well-formed trees -/

/-- The working directory stands, and everything stands in a directory. -/
structure WellFormed (t : FileTree) : Prop where
  working : t.isDirectory t.working = true
  parent : ∀ l node, t.nodes.get? l = some node → t.isDirectory l.tail = true

namespace WellFormed

variable {t : FileTree}

theorem ofWorking (name : String) : (FileTree.ofWorking name).WellFormed := by
  have hnode : ∀ l, (FileTree.ofWorking name).nodes.get? l =
      if [name] = l then some .directory else none := fun l =>
    SortedMap.get?_insert .empty [name] l FileNode.directory
  refine ⟨isDirectory_of_get? ?_, fun l node h => ?_⟩
  · rw [hnode]
    exact if_pos rfl
  · rw [hnode] at h
    split at h
    · rename_i hl
      rw [← hl]
      rfl
    · exact absurd h (by simp)

theorem start (h : t.WellFormed) (base : PathBase) : t.isDirectory (t.start base) = true := by
  cases base with
  | root => rfl
  | working => exact h.working

theorem tail (h : t.WellFormed) {l : Location} (hl : t.isDirectory l = true) :
    t.isDirectory l.tail = true := by
  rcases isDirectory_iff.mp hl with rfl | hnode
  · rfl
  · exact h.parent l _ hnode

/-- Directories stand all the way up. -/
theorem isDirectory_of_suffix (h : t.WellFormed) {l w : Location} (hl : t.isDirectory l = true)
    (hw : w <:+ l) : t.isDirectory w = true := by
  induction l with
  | nil =>
      rw [List.suffix_nil.mp hw]
      exact hl
  | cons name rest ih =>
      rcases List.suffix_cons_iff.mp hw with rfl | hw
      · exact hl
      · exact ih (h.tail hl) hw

theorem next (h : t.WellFormed) {l : Location} (hl : t.isDirectory l = true) (step : String) :
    t.isDirectory (FileTree.next l step).tail = true := by
  unfold FileTree.next
  split
  · exact h.tail hl
  · split
    · exact h.tail (h.tail hl)
    · exact hl

theorem put (h : t.WellFormed) {l : Location} {node : FileNode}
    (hl : ¬ t.isDirectory l = true) (htail : t.isDirectory l.tail = true) :
    (t.put l node).WellFormed := by
  refine ⟨isDirectory_put hl h.working, fun l' node' hnode => isDirectory_put hl ?_⟩
  rw [get?_put] at hnode
  split at hnode
  · rename_i heq
    rw [← heq]
    exact htail
  · exact h.parent l' node' hnode

theorem append (h : t.WellFormed) (l : Location) (bytes : Text.Bytes) :
    (t.append l bytes).WellFormed := by
  refine ⟨isDirectory_append h.working, fun l' node hnode => isDirectory_append ?_⟩
  rw [get?_append] at hnode
  split at hnode
  · obtain ⟨old, hold, -⟩ := Option.map_eq_some_iff.mp hnode
    exact h.parent l' old hold
  · exact h.parent l' node hnode

theorem createFrom (h : t.WellFormed) {l : Location} (hl : t.isDirectory l = true)
    (steps : List String) : (t.createFrom l steps).2.WellFormed := by
  -- along the steps; what carries over is that they have led to a directory so far
  induction steps generalizing t l with
  | nil => exact h
  | cons step rest ih =>
      rcases createFrom_cons t l step rest with heq | ⟨hdirectory, heq⟩ | ⟨hdirectory, -, heq⟩
      · rw [heq]
        exact h
      · rw [heq]
        exact ih h hdirectory
      · rw [heq]
        refine ih (h.put hdirectory (h.next hl step)) (isDirectory_of_get? ?_)
        rw [get?_put, if_pos rfl]

theorem createParent (h : t.WellFormed) (p : Path) : (t.createParent p).2.WellFormed := by
  rw [createParent_eq]
  exact h.createFrom (h.start p.base) p.parentSteps

/-- The way of a path is clear of anything but directories once its directory was created. -/
theorem isDirectory_createParent (h : t.WellFormed) {p : Path} {l : Location}
    (hnamed : t.named? p = some l) (hcreated : (t.createParent p).1 = true) :
    ∀ w ∈ t.way p, (t.createParent p).2.isDirectory w = true := by
  intro w hw
  rcases mem_passed_of_mem_way hnamed hw with rfl | hw
  · exact (Grows.createParent t p none).directory _ (h.start p.base)
  · rw [createParent_eq] at hcreated ⊢
    exact isDirectory_createFrom hcreated w hw

theorem locate? (h : t.WellFormed) {p : Path} {l : Location} (hl : t.locate? p = some l) :
    t.isDirectory l.tail = true := by
  obtain ⟨name, -, -, rfl⟩ := exists_of_named? (named?_of_locate? hl)
  rw [locate?_eq] at hl
  split at hl
  · rename_i hway
    have hway := List.all_eq_true.mp (Bool.and_eq_true_iff.mp hway).2
    rcases List.mem_cons.mp (foldl_next_mem (t.start p.base) p.steps.dropLast) with hend | hend
    · rw [List.tail_cons, hend]
      exact h.start p.base
    · exact hway _ hend
  · exact absurd hl (by simp)

theorem openFile? (h : t.WellFormed) {t' : FileTree} {p : Path} {l : Location}
    (hopen : t.openFile? p = some (l, t')) : t'.WellFormed := by
  obtain ⟨hlocate, -, rfl | ⟨hdirectory, rfl⟩⟩ := openFile?_cases hopen
  · exact h
  · exact h.put hdirectory (h.locate? hlocate)

end WellFormed

end FileTree

end Hooklog
