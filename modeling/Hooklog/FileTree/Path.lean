import Hooklog.Text.Words

/-!
# Paths

A path is a list of steps from the root of the file system or from the working directory.
The empty step and the step `.` lead nowhere, and `..` leads one directory up.
-/

namespace Hooklog

/-- Where a path starts. -/
inductive PathBase where
  | root
  | working
  deriving DecidableEq, Repr

/-- A path and its written form. -/
structure Path where
  /-- What is written in front of the steps. -/
  lead : String
  base : PathBase
  steps : List String
  deriving DecidableEq, Repr

namespace Path

/-- Parts of a text between slashes. -/
def segments (text : String) : List String :=
  (Text.splitAtChar (fun c => c = '/') text.toList).map String.ofList

/-- Whether a text starts at the root of the file system. -/
def startsAtRoot (text : String) : Bool := text.toList.head? = some '/'

/-- Path of a text. -/
def ofText (text : String) : Path :=
  if startsAtRoot text then ⟨"/", .root, (segments text).tail⟩
  else ⟨"", .working, segments text⟩

/-- Written form of a path. -/
def text (p : Path) : String := p.lead ++ Text.joinWith "/" p.steps

/-- Whether a step leads nowhere. -/
def isVoid (step : String) : Bool := step = "" || step = "."

/-- Steps up to the last one that leads somewhere; a path that starts with `.` keeps it. -/
def significant : List String → List String
  | [] => []
  | first :: rest =>
      let rest := (rest.reverse.dropWhile isVoid).reverse
      if rest = [] && (first = "") then [] else first :: rest

/-- Path of the directory that holds what a path leads to, if the path has one. -/
def parent? (p : Path) : Option Path :=
  match significant p.steps with
  | [] => none
  | steps =>
      let rest := significant steps.dropLast
      if rest = [] && p.lead = "" then none else some { p with steps := rest }

/-- Text of a name within a directory. -/
def joined (directory name : String) : String :=
  if directory = "" then name
  else if directory.toList.getLast? = some '/' then directory ++ name
  else directory ++ "/" ++ name

/-- What is written in front of an absolute path: two slashes at the head of a text are
kept, more of them count as one. -/
def rootLead (text : String) : String :=
  match text.toList with
  | '/' :: '/' :: '/' :: _ => "/"
  | '/' :: '/' :: _ => "//"
  | _ => "/"

/-- Absolute path of a text, given the name of the working directory.  Void steps are
dropped; steps to a parent are kept as they are. -/
def absolute (working text : String) : Path :=
  let steps := (segments text).filter fun step => !isVoid step
  if startsAtRoot text then ⟨rootLead text, .root, steps⟩
  else ⟨working ++ "/", .working, steps⟩

end Path

end Hooklog
