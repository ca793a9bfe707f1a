import Hooklog.Destination.LogFile
import Hooklog.Proofs.Text.Words

/-!
# Files below a directory

A destination that stands for a directory names the file of a module after the module.  A part
`::` of the module's name is written `..`, and a path with such a step can leave the directory.
This module says when it does.

* A `Route` sums up some steps: how far they climb, and along which names they descend then.
* `LogFile.target_below_iff` is the main statement: the name of the file ends in `.log`, and the
  file stands below the directory exactly when its route descends along the names that it climbed
  up, and then further.
-/

namespace Hooklog

namespace FileTree

/-- Place that a path leads to by its steps alone, whatever stands on the way. -/
def resolve (t : FileTree) (p : Path) : Location := p.steps.foldl next (t.start p.base)

/-- Whether a place lies strictly below another one. -/
def IsBelow (l outer : Location) : Prop := outer <:+ l ∧ outer ≠ l

instance (l outer : Location) : Decidable (IsBelow l outer) :=
  inferInstanceAs (Decidable (outer <:+ l ∧ outer ≠ l))

end FileTree

/-- A way from one place to another: up over some directories, and from there down along some
names, the last one first. -/
structure Route where
  up : Nat
  down : Location
  deriving DecidableEq, Repr

namespace Route

/-- Place that a route leads to. -/
def place (r : Route) (l : Location) : Location := r.down ++ l.drop r.up

/-- Route with one more step.  A step to the parent takes back a name, if there is one. -/
def next (r : Route) (step : String) : Route :=
  if Path.isVoid step then r
  else if step = ".." then
    match r.down with
    | [] => ⟨r.up + 1, []⟩
    | _ :: down => ⟨r.up, down⟩
  else ⟨r.up, step :: r.down⟩

/-- Route of some steps. -/
def ofSteps (steps : List String) : Route := steps.foldl next ⟨0, []⟩

theorem place_next (r : Route) (step : String) (l : Location) :
    (r.next step).place l = FileTree.next (r.place l) step := by
  obtain ⟨up, down⟩ := r
  unfold next FileTree.next
  split
  · rfl
  · split
    · cases down with
      | nil => exact List.drop_add_one_eq_tail_drop
      | cons name down => rfl
    · rfl

theorem place_foldl_next (r : Route) (steps : List String) (l : Location) :
    (steps.foldl next r).place l = steps.foldl FileTree.next (r.place l) := by
  induction steps generalizing r with
  | nil => rfl
  | cons step rest ih => rw [List.foldl_cons, ih, place_next, List.foldl_cons]

/-- Steps lead where their route leads. -/
theorem place_ofSteps (steps : List String) (l : Location) :
    (ofSteps steps).place l = steps.foldl FileTree.next l := place_foldl_next ⟨0, []⟩ steps l

/-- A route leads below the place where it starts if it descends first along the names that it
climbed up, and then further. -/
theorem isBelow_place_iff (r : Route) (l : Location) :
    FileTree.IsBelow (r.place l) l ↔ FileTree.IsBelow r.down (l.take r.up) := by
  have hsuffix : l <:+ r.place l ↔ l.take r.up <:+ r.down := by
    constructor
    · rintro ⟨names, hnames⟩
      refine ⟨names, (List.append_left_inj (l.drop r.up)).mp ?_⟩
      rw [List.append_assoc, List.take_append_drop, hnames, place]
    · rintro ⟨names, hnames⟩
      refine ⟨names, ?_⟩
      rw [place, ← hnames, List.append_assoc, List.take_append_drop]
  have heq : l = r.place l ↔ l.take r.up = r.down := by
    constructor
    · intro h
      refine (List.append_left_inj (l.drop r.up)).mp ?_
      rw [List.take_append_drop]
      exact h
    · intro h
      rw [place, ← h, List.take_append_drop]
  rw [FileTree.IsBelow, FileTree.IsBelow, hsuffix, ne_eq, heq]

/-- Steps that never turn back do not climb. -/
theorem up_foldl_next {steps : List String} (hsteps : ".." ∉ steps) (r : Route) :
    (steps.foldl next r).up = r.up := by
  induction steps generalizing r with
  | nil => rfl
  | cons step rest ih =>
      obtain ⟨hstep, hrest⟩ := List.ne_and_not_mem_of_not_mem_cons hsteps
      rw [List.foldl_cons, ih hrest, next, if_neg (Ne.symm hstep)]
      split <;> rfl

end Route

/-! ## Steps of a text -/

namespace Path

/-- Steps of a text that lead somewhere. -/
def sureSteps (text : String) : List String := (segments text).filter fun step => !isVoid step

theorem foldl_next_sureSteps (text : String) (l : Location) :
    (sureSteps text).foldl FileTree.next l = (segments text).foldl FileTree.next l := by
  unfold sureSteps
  induction segments text generalizing l with
  | nil => rfl
  | cons step rest ih =>
      rw [List.foldl_cons]
      cases hstep : isVoid step with
      | true =>
          rw [List.filter_cons_of_neg (by rw [hstep]; decide), ih, FileTree.next, if_pos hstep]
      | false =>
          rw [List.filter_cons_of_pos (by rw [hstep]; rfl), List.foldl_cons, ih]

theorem segments_slash (directory name : String) :
    segments (directory ++ "/" ++ name) = segments directory ++ segments name := by
  have htext : (directory ++ "/" ++ name).toList = directory.toList ++ '/' :: name.toList := by
    rw [String.toList_append, String.toList_append, List.append_assoc]
    rfl
  rw [segments, htext, Text.splitAtChar_append_cons (by decide), List.map_append]
  rfl

theorem sureSteps_joined (directory name : String) :
    sureSteps (joined directory name) = sureSteps directory ++ sureSteps name := by
  unfold joined
  split
  · rename_i hempty
    rw [hempty]
    rfl
  · split
    · -- the directory ends in a slash, after which it has an empty step
      rename_i hlast
      obtain ⟨init, hinit⟩ := List.getLast?_eq_some_iff.mp hlast
      have hdirectory : directory = String.ofList init ++ "/" ++ "" := by
        rw [← String.toList_inj, hinit]
        simp
      have hjoined : directory ++ name = String.ofList init ++ "/" ++ name := by
        rw [hdirectory]
        simp
      rw [hjoined, hdirectory]
      simp only [sureSteps, segments_slash, List.filter_append]
      rw [List.append_assoc]
      rfl
    · simp only [sureSteps, segments_slash, List.filter_append]

theorem startsAtRoot_joined (directory : String) {name : String}
    (hname : startsAtRoot name = false) :
    startsAtRoot (joined directory name) = startsAtRoot directory := by
  unfold joined
  split
  · rename_i hempty
    rw [hempty, hname]
    rfl
  · rename_i hdirectory
    have hhead (rest : String) :
        (directory ++ rest).toList.head? = directory.toList.head? := by
      rw [String.toList_append]
      cases hchars : directory.toList with
      | nil => exact absurd (String.toList_eq_nil_iff.mp hchars) hdirectory
      | cons c chars => rfl
    split
    · rw [startsAtRoot, hhead, startsAtRoot]
    · rw [startsAtRoot, String.append_assoc, hhead, startsAtRoot]

end Path

/-! ## Names of modules -/

namespace LogFile

/-- Character of a file's name for one of a module's name. -/
def dotted (c : Char) : Char := if c = ':' then '.' else c

theorem slash_dotted (c : Char) : decide (dotted c = '/') = decide (c = '/') := by
  by_cases hcolon : c = ':'
  · rw [hcolon]
    rfl
  · rw [dotted, if_neg hcolon]

section ModuleName

variable (moduleName : String)

theorem mem_cleanName {c : Char} (hc : c ∈ (cleanName moduleName).toList) :
    Text.isAlphanumeric c = true ∨ c = '/' ∨ c = ':' := by
  rw [cleanName, String.toList_ofList] at hc
  have htrimmed := List.dropWhile_subset _ (List.mem_reverse.mp hc)
  have hfiltered := List.dropWhile_subset _ (List.mem_reverse.mp htrimmed)
  simpa [or_assoc] using (List.mem_filter.mp hfiltered).2

/-- A part of a cleaned name that is written `..` is one of two colons. -/
theorem eq_colons_of_dotted {piece : List Char}
    (hpiece : piece ∈ Text.splitAtChar (fun c => c = '/') (cleanName moduleName).toList)
    (hdots : piece.map dotted = ['.', '.']) : piece = [':', ':'] := by
  have hcolon : ∀ c ∈ piece, dotted c = '.' → c = ':' := by
    intro c hc hdot
    unfold dotted at hdot
    split at hdot
    · assumption
    · have hmem := mem_cleanName moduleName (Text.mem_of_mem_splitAtChar hpiece hc)
      rw [hdot] at hmem
      exact absurd hmem (by decide)
  obtain ⟨a, rest, rfl, ha, hrest⟩ := List.map_eq_cons_iff.mp hdots
  obtain ⟨b, rest, rfl, hb, hrest⟩ := List.map_eq_cons_iff.mp hrest
  obtain rfl := List.map_eq_nil_iff.mp hrest
  rw [hcolon a List.mem_cons_self ha, hcolon b (List.mem_cons_of_mem a List.mem_cons_self) hb]

theorem startsAtRoot_fileName : Path.startsAtRoot (fileName moduleName) = false := by
  have hclean : ¬(cleanName moduleName).toList.head? = some '/' := by
    intro hhead
    rw [cleanName, String.toList_ofList] at hhead
    exact absurd (Text.head?_trimBoth hhead) (by decide)
  rw [Path.startsAtRoot, fileName, String.toList_append, String.toList_ofList]
  cases hname : (cleanName moduleName).toList with
  | nil => rfl
  | cons c rest =>
      rw [hname] at hclean
      have hc : c ≠ '/' := fun h => hclean (congrArg some h)
      by_cases hcolon : c = ':'
      · simp [hcolon]
      · simp [hcolon, hc]

/-- The name of the file of a module is that of some parts and a last one with a suffix. -/
theorem segments_fileName :
    ∃ init stem, Path.segments (fileName moduleName) = init ++ [stem ++ ".log"] ∧
      (".." ∈ init → "::" ∈ Path.segments (cleanName moduleName)) := by
  by_cases hempty : (cleanName moduleName).toList = []
  · refine ⟨[], "default", ?_, fun h => absurd h List.not_mem_nil⟩
    rw [fileName, hempty]
    rfl
  · have hsuffix : ∀ c ∈ ".log".toList, decide (c = '/') = false := by simp
    obtain ⟨init, last, hname, hfile⟩ :=
      Text.splitAtChar_append_last hsuffix ((cleanName moduleName).toList.map dotted)
    refine ⟨init.map String.ofList, String.ofList last, ?_, fun hup => ?_⟩
    · have hchars : (fileName moduleName).toList =
          (cleanName moduleName).toList.map dotted ++ ".log".toList := by
        rw [fileName, if_neg (by simpa using hempty), String.toList_append, String.toList_ofList]
        rfl
      rw [Path.segments, hchars, hfile, List.map_append, List.map_singleton, String.ofList_append,
        String.ofList_toList]
    · obtain ⟨dots, hdots, htext⟩ := List.mem_map.mp hup
      have hmem := List.mem_append_left [last] hdots
      rw [← hname, Text.splitAtChar_map slash_dotted] at hmem
      obtain ⟨piece, hpiece, rfl⟩ := List.mem_map.mp hmem
      have htwo : piece.map dotted = ['.', '.'] := String.ofList_injective htext
      rw [eq_colons_of_dotted moduleName hpiece htwo] at hpiece
      exact List.mem_map.mpr ⟨_, hpiece, rfl⟩

end ModuleName

/-! ## Targets -/

/-- Path of the directory of a destination. -/
def directory (f : LogFile) (workingName : String) : Path := Path.absolute workingName f.path

/-- Route from the directory to the file of a module. -/
def route (moduleName : String) : Route := Route.ofSteps (Path.segments (fileName moduleName))

/-- The file of a module is where its route leads from the directory. -/
theorem resolve_target {f : LogFile} (hmode : f.isPerModule = true) (t : FileTree)
    (moduleName : String) :
    t.resolve (f.target t.workingName moduleName) =
      (route moduleName).place (t.resolve (f.directory t.workingName)) := by
  have hsteps (text : String) (l : Location) :
      (Path.absolute t.workingName text).steps.foldl FileTree.next l =
        (Path.sureSteps text).foldl FileTree.next l := by
    unfold Path.absolute
    split <;> rfl
  have hbase : (f.target t.workingName moduleName).base = (f.directory t.workingName).base := by
    rw [target, if_pos hmode, directory, Path.absolute, Path.absolute,
      Path.startsAtRoot_joined _ (startsAtRoot_fileName moduleName)]
    split <;> rfl
  rw [FileTree.resolve, hbase, target, if_pos hmode, hsteps, Path.sureSteps_joined,
    List.foldl_append, Path.foldl_next_sureSteps (fileName moduleName), ← Route.place_ofSteps,
    ← hsteps]
  rfl

/-- A name with the suffix of log files is a step down. -/
theorem leads_log (stem : String) :
    Path.isVoid (stem ++ ".log") = false ∧ stem ++ ".log" ≠ ".." := by
  have hlast : (stem ++ ".log").toList.getLast? = some 'g' := by
    rw [String.toList_append, List.getLast?_append]
    rfl
  refine ⟨Bool.eq_false_iff.mpr fun hvoid => ?_, fun hup => ?_⟩
  · rcases (Bool.or_eq_true _ _).mp hvoid with hempty | hdot
    · exact absurd (of_decide_eq_true hempty ▸ hlast) (by decide)
    · exact absurd (of_decide_eq_true hdot ▸ hlast) (by decide)
  · exact absurd (hup ▸ hlast) (by decide)

theorem route_down (moduleName : String) :
    ∃ stem rest, (route moduleName).down = (stem ++ ".log") :: rest := by
  obtain ⟨init, stem, hsegments, -⟩ := segments_fileName moduleName
  obtain ⟨hvoid, hup⟩ := leads_log stem
  refine ⟨stem, (Route.ofSteps init).down, ?_⟩
  rw [route, hsegments, Route.ofSteps, List.foldl_append, List.foldl_cons, List.foldl_nil,
    Route.next, if_neg (by rw [hvoid]; decide), if_neg hup]
  rfl

/-- A file leaves its directory only by a part `::` of the module's name. -/
theorem route_up {moduleName : String} (h : "::" ∉ Path.segments (cleanName moduleName)) :
    (route moduleName).up = 0 := by
  obtain ⟨init, stem, hsegments, hup⟩ := segments_fileName moduleName
  refine Route.up_foldl_next ?_ ⟨0, []⟩
  rw [hsegments, List.mem_append, List.mem_singleton]
  exact not_or.mpr ⟨fun hmem => h (hup hmem), (leads_log stem).2.symm⟩

/-- Files of a directory.  The name of the file of a module ends in `.log`.  The file stands
below the directory exactly when its route descends first along the names that it climbed up, as
it does if no part of the module's name is `::`. -/
theorem target_below_iff {f : LogFile} (hmode : f.isPerModule = true) (t : FileTree)
    (moduleName : String) :
    let base := t.resolve (f.directory t.workingName)
    let place := t.resolve (f.target t.workingName moduleName)
    (∃ stem rest, place = (stem ++ ".log") :: rest) ∧
      (FileTree.IsBelow place base ↔
        FileTree.IsBelow (route moduleName).down (base.take (route moduleName).up)) ∧
      ("::" ∉ Path.segments (cleanName moduleName) → FileTree.IsBelow place base) := by
  intro base place
  obtain ⟨stem, rest, hdown⟩ := route_down moduleName
  have hplace : place = (route moduleName).place base := resolve_target hmode t moduleName
  have hbelow := (route moduleName).isBelow_place_iff base
  refine ⟨⟨stem, rest ++ base.drop (route moduleName).up, ?_⟩, ?_, fun hcolons => ?_⟩
  · rw [hplace, Route.place, hdown, List.cons_append]
  · rw [hplace, hbelow]
  · rw [hplace, hbelow, route_up hcolons, hdown]
    exact ⟨List.nil_suffix, List.cons_ne_nil _ _ |>.symm⟩

/-- A module that climbs out of the directory `logs` and comes back. -/
theorem target_below_iff_returning :
    (new "logs" true 0).isPerModule = true ∧
      route "::/logs/x" = ⟨1, ["x.log", "logs"]⟩ ∧
      FileTree.IsBelow
        ((FileTree.ofWorking "work").resolve ((new "logs" true 0).target "work" "::/logs/x"))
        ((FileTree.ofWorking "work").resolve ((new "logs" true 0).directory "work")) := by
  obtain ⟨-, hiff, -⟩ :=
    target_below_iff (f := new "logs" true 0) rfl (FileTree.ofWorking "work") "::/logs/x"
  exact ⟨rfl, by decide +kernel, hiff.mpr (by decide +kernel)⟩

/-- A module whose file stands beside the directory `logs`. -/
theorem not_below_directory :
    (FileTree.ofWorking "work").resolve ((new "logs" true 0).directory "work") =
        ["logs", "work"] ∧
      (FileTree.ofWorking "work").resolve ((new "logs" true 0).target "work" "::/x") =
        ["x.log", "work"] ∧
      ¬FileTree.IsBelow
        ((FileTree.ofWorking "work").resolve ((new "logs" true 0).target "work" "::/x"))
        ((FileTree.ofWorking "work").resolve ((new "logs" true 0).directory "work")) :=
  ⟨by decide +kernel, by decide +kernel, by decide +kernel⟩

end LogFile

end Hooklog
