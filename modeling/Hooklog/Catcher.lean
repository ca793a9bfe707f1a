import Hooklog.Catcher.Marker
import Hooklog.Text.Utf8

/-!
# Written text

What text written to a logger amounts to: marked messages at their levels, and the lines
around them at the level of printed text.  A line is read when its end has been written or
when the logger is closed.
-/

namespace Hooklog.Catcher

open Text

/-- A message to be logged at a level. -/
structure Message where
  level : Level
  text : String
  deriving DecidableEq, Repr

/-- Message of a line that has ended: raw text keeps the end of the line. -/
def lineMessage (printLevel : Level) (line : List Char) : Message :=
  ⟨printLevel, String.ofList (if printLevel.isPrint then line ++ ['\n'] else line)⟩

/-- Messages of plain text, one for each line. -/
def plainMessages (printLevel : Level) (s : List Char) : List Message :=
  let lines := splitLines s
  lines.1.map (lineMessage printLevel)
    ++ (if lines.2 = [] then [] else [⟨printLevel, String.ofList lines.2⟩])

/-- Messages up to the last marked one of a text, and the plain text after it. -/
def markedMessages (printLevel : Level) (s : List Char) : List Message × List Char :=
  match _ : next? s with
  | none => ([], s)
  | some f =>
      let later := markedMessages printLevel f.rest
      (plainMessages printLevel f.before ++ ⟨f.level, String.ofList f.message⟩ :: later.1,
        later.2)
termination_by s.length
decreasing_by
  rename_i h
  exact length_next? h

/-- Messages of text whose lines have all ended. -/
def messages (printLevel : Level) (s : List Char) : List Message :=
  let p := markedMessages printLevel s
  p.1 ++ plainMessages printLevel p.2

/-- Messages of text that ends here: markers are looked for as if its last line had ended,
but the end that is not there is not printed. -/
def closingMessages (printLevel : Level) (s : List Char) : List Message :=
  let p := markedMessages printLevel (s ++ ['\n'])
  p.1 ++ plainMessages printLevel p.2.dropLast

/-- Bytes up to the end of the last line that has ended, and the bytes after it. -/
def splitComplete (bytes : Bytes) : Bytes × Bytes :=
  let tail := (bytes.reverse.takeWhile fun b => b ≠ 10).reverse
  (bytes.take (bytes.length - tail.length), tail)

end Hooklog.Catcher
