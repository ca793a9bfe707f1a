import Hooklog.FileTree.Path
import Hooklog.SortedMap
import Hooklog.Text.Utf8

/-!
# File trees

Directories and files as far as logging can see them: directories are created on the way to
a file, files are opened for appending, and files only grow.
-/

namespace Hooklog

/-- Place in a file tree: names on the way from the root, the last one first. -/
abbrev Location := List String

/-- Places are ordered as lists of names. -/
instance : LE Location := List.instLE

instance : Std.LawfulOrderLT Location := inferInstance

/-- What stands at a place. -/
inductive FileNode where
  | directory
  | file (content : Text.Bytes)
  deriving DecidableEq

/-- A tree of files with its working directory. -/
structure FileTree where
  /-- Written form of the working directory. -/
  workingName : String
  working : Location
  nodes : SortedMap Location FileNode
  deriving DecidableEq

namespace FileTree

/-- Tree that holds an empty working directory. -/
def ofWorking (name : String) : FileTree where
  workingName := name
  working := [name]
  nodes := SortedMap.empty.insert [name] .directory

/-- Longest name in bytes. -/
def longestName : Nat := 255

/-- Whether the system admits a name. -/
def isName (name : String) : Bool :=
  Text.byteLength name.toList ≤ longestName && !name.toList.contains (Char.ofNat 0)

/-- Whether a directory stands at a place. -/
def isDirectory (t : FileTree) (l : Location) : Bool :=
  l = [] || t.nodes.get? l = some .directory

/-- Content of the file at a place. -/
def content? (t : FileTree) (l : Location) : Option Text.Bytes :=
  match t.nodes.get? l with
  | some (.file content) => some content
  | _ => none

/-- Place where a path starts. -/
def start (t : FileTree) : PathBase → Location
  | .root => []
  | .working => t.working

/-- Place of a name in a directory, or of the directory that a void step or a step to the
parent leads to. -/
def next (l : Location) (step : String) : Location :=
  if Path.isVoid step then l else if step = ".." then l.tail else step :: l

/-- Place that steps lead to through existing directories. -/
def walk? (t : FileTree) (l : Location) : List String → Option Location
  | [] => some l
  | step :: rest =>
      if isName step && t.isDirectory (next l step) then t.walk? (next l step) rest else none

/-- Create the directories that steps lead to.  The answer tells whether all of them could be
created. -/
def createFrom (t : FileTree) (l : Location) : List String → Bool × FileTree
  | [] => (true, t)
  | step :: rest =>
      let place := next l step
      if !isName step then (false, t)
      else if t.isDirectory place then t.createFrom place rest
      else if (t.content? place).isSome then (false, t)
      else { t with nodes := t.nodes.insert place .directory }.createFrom place rest

/-- Create the directories of a path. -/
def createDirectories (t : FileTree) (p : Path) : Bool × FileTree :=
  t.createFrom (t.start p.base) p.steps

/-- Place of the file that a path names, whether or not it exists. -/
def locate? (t : FileTree) (p : Path) : Option Location :=
  match p.steps.getLast? with
  | none => none
  | some name =>
      if Path.isVoid name || name = ".." || !isName name then none
      else (t.walk? (t.start p.base) p.steps.dropLast).map (name :: ·)

/-- Whether a path names a file that is not empty. -/
def hasContent (t : FileTree) (p : Path) : Bool :=
  match (t.locate? p).bind t.content? with
  | some content => !content.isEmpty
  | none => false

/-- Open a file for appending, creating it if there is none. -/
def openFile? (t : FileTree) (p : Path) : Option (Location × FileTree) :=
  match t.locate? p with
  | none => none
  | some l =>
      match t.nodes.get? l with
      | some .directory => none
      | some (.file _) => some (l, t)
      | none => some (l, { t with nodes := t.nodes.insert l (.file []) })

/-- Append bytes to the file at a place. -/
def append (t : FileTree) (l : Location) (bytes : Text.Bytes) : FileTree :=
  { t with nodes := t.nodes.modify l fun
      | .file content => .file (content ++ bytes)
      | .directory => .directory }

/-- Create the directory that holds what a path leads to. -/
def createParent (t : FileTree) (p : Path) : Bool × FileTree :=
  match p.parent? with
  | none => (true, t)
  | some parent => t.createDirectories parent

/-- Replace the content of a file, creating it and its directories if need be. -/
def replace (t : FileTree) (p : Path) (bytes : Text.Bytes) : Bool × FileTree :=
  match t.createParent p with
  | (false, t) => (false, t)
  | (true, t) =>
      match t.openFile? p with
      | none => (false, t)
      | some (l, t) => (true, { t with nodes := t.nodes.insert l (.file bytes) })

/-- Names on the way from the working directory to a place below it. -/
def belowWorking? (t : FileTree) (l : Location) : Option (List String) :=
  if t.working.isSuffixOf l then some ((l.take (l.length - t.working.length)).reverse) else none

/-- Files below the working directory with their contents. -/
def filesBelow (t : FileTree) : List (List String × Text.Bytes) :=
  t.nodes.toList.filterMap fun p =>
    match p.2, t.belowWorking? p.1 with
    | .file content, some names => some (names, content)
    | _, _ => none

end FileTree

end Hooklog
