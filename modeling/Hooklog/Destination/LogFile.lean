import Hooklog.FileTree
import Hooklog.Formatter

/-!
# Log files

A log file destination appends to one file, or to one file per module when it stands for a
directory.  A file is opened at the first entry routed to it and headed by the time of that
entry, unless the destination does not write headers or was told that the file has one.
-/

namespace Hooklog

/-- Name of a formatter in a store. -/
abbrev FormatterId := Nat

/-- A file held open. -/
structure OpenFile where
  path : Path
  location : Location
  deriving DecidableEq, Repr

/-- Destination of entries in one file or in a directory of files. -/
structure LogFile where
  /-- Path of the file or of the directory. -/
  path : String
  /-- Whether the path stands for a directory. -/
  isPerModule : Bool
  writesHeader : Bool
  /-- File whose header is known to be written. -/
  headed : Option Path
  formatter : FormatterId
  opened : Option OpenFile
  deriving DecidableEq, Repr

namespace LogFile

/-- Destination that has not opened anything. -/
def new (path : String) (isPerModule : Bool) (formatter : FormatterId) : LogFile where
  path := path
  isPerModule := isPerModule
  writesHeader := true
  headed := none
  formatter := formatter
  opened := none

/-- Name of the destination in its failures. -/
def identity (f : LogFile) : String := "FileHook " ++ f.path

/-- Letters, digits, slashes and colons of a module name, without slashes at the ends. -/
def cleanName (moduleName : String) : String :=
  String.ofList (Text.trimBoth (fun c => c = '/')
    (moduleName.toList.filter fun c => Text.isAlphanumeric c || c = '/' || c = ':'))

/-- Name of the file of a module. -/
def fileName (moduleName : String) : String :=
  let name := (cleanName moduleName).toList.map fun c => if c = ':' then '.' else c
  String.ofList (if name = [] then "default".toList else name) ++ ".log"

/-- Path of the file that takes the entries of a module. -/
def target (f : LogFile) (workingName moduleName : String) : Path :=
  if f.isPerModule then Path.absolute workingName (Path.joined f.path (fileName moduleName))
  else Path.ofText f.path

/-- Header of a file opened for an entry. -/
def header (hadContent : Bool) (t : Instant) (zone : Zone) : String :=
  (if hadContent then "\n" else "") ++ "# " ++ TimeLayout.classic.text t zone ++ "\n"

/-- Failure of a step on a file. -/
def stepFailure (f : LogFile) (step : FileStep) (p : Path) : LogError :=
  .hook f.identity (.fileStep step p.text)

/-- Open a file, and write its header if it needs one. -/
def openTarget (f : LogFile) (tree : FileTree) (zone : Zone) (p : Path) (t : Instant) :
    Except LogError OpenFile × FileTree :=
  let hadContent := tree.hasContent p
  match tree.createParent p with
  | (false, tree) =>
      (.error (f.stepFailure .creatingDirectory (p.parent?.getD p)), tree)
  | (true, tree) =>
      match tree.openFile? p with
      | none => (.error (f.stepFailure .openingFile p), tree)
      | some (l, tree) =>
          if f.writesHeader && f.headed ≠ some p then
            (.ok ⟨p, l⟩, tree.append l (Text.bytesOf (header hadContent t zone)))
          else (.ok ⟨p, l⟩, tree)

/-- The file held open for a path, opened if it is not. -/
def ready (f : LogFile) (tree : FileTree) (zone : Zone) (p : Path) (t : Instant) :
    Except LogError OpenFile × FileTree :=
  match f.opened with
  | some file => if file.path = p then (.ok file, tree) else f.openTarget tree zone p t
  | none => f.openTarget tree zone p t

/-- Append the text of an entry to the file of its module.  A file that could not be opened
leaves none open. -/
def append (f : LogFile) (tree : FileTree) (zone : Zone) (e : Entry) (text : String) :
    Except LogError Unit × LogFile × FileTree :=
  match f.ready tree zone (f.target tree.workingName e.moduleName) e.time with
  | (.error error, tree) => (.error error, { f with opened := none }, tree)
  | (.ok file, tree) =>
      (.ok (), { f with opened := some file },
        tree.append file.location (Text.bytesOf text))

/-- Destination of a derived logger: nothing is open, and what was open counts as headed. -/
def copy (f : LogFile) : LogFile :=
  { f with
    headed := match f.opened with
      | some file => some file.path
      | none => f.headed
    opened := none }

end LogFile

end Hooklog
