import Hooklog.Text.Class
import Hooklog.Text.Case.Table
import Hooklog.Text.Case.Context

/-!
# Upper and lower case

Full case mappings of texts: a character may become several, and a capital sigma at the
end of a word becomes the final form of the small letter.
-/

namespace Hooklog.Text

/-- Image of a code point under the first run that covers it, itself if there is none. -/
def shiftBy : List CaseRun → Nat → Nat
  | [], n => n
  | r :: rest, n => if r.covers n then (Int.ofNat n + r.shift).toNat else shiftBy rest n

/-- Image of a character under a table of sequences and a table of runs. -/
def mapChar (sequences : List (Nat × List Nat)) (runs : List CaseRun) (c : Char) : List Char :=
  match sequences.lookup c.toNat with
  | some image => image.map Char.ofNat
  | none => [Char.ofNat (shiftBy runs c.toNat)]

/-- A letter case: the mapping of ASCII characters, and the tables for all others. -/
structure CaseTable where
  ascii : Char → Char
  sequences : List (Nat × List Nat)
  runs : List CaseRun

/-- Image of a character under a table, out of context. -/
def CaseTable.image (t : CaseTable) (c : Char) : List Char :=
  if c.toNat < 0x80 then [t.ascii c] else mapChar t.sequences t.runs c

/-- Table of the upper case. -/
def upperTable : CaseTable := ⟨Char.toUpper, upperSequences, upperRuns⟩

/-- Table of the lower case. -/
def lowerTable : CaseTable := ⟨Char.toLower, lowerSequences, lowerRuns⟩

/-- Upper case of one character. -/
def upperChar (c : Char) : List Char := upperTable.image c

/-- Lower case of one character out of context. -/
def lowerChar (c : Char) : List Char := lowerTable.image c

/-- Upper case of a text. -/
def upper (s : List Char) : List Char := s.flatMap upperChar

/-- Whether the first character that is not ignored in a case context is cased. -/
def startsCased (s : List Char) : Bool :=
  match s.find? (fun c => !inRanges caseIgnorableRanges c.toNat) with
  | some c => inRanges casedRanges c.toNat
  | none => false

/-- The capital sigma. -/
def capitalSigma : Char := Char.ofNat 0x3A3

/-- Small sigma after some characters, latest first, and before others: the final form
stands at the end of a word. -/
def lowerSigma (before after : List Char) : Char :=
  if startsCased before && !startsCased after then Char.ofNat 0x3C2 else Char.ofNat 0x3C3

/-- Lower case of a text that follows some characters, latest first. -/
def lowerAfter (before : List Char) : List Char → List Char
  | [] => []
  | c :: rest =>
      (if c = capitalSigma then [lowerSigma before rest] else lowerChar c)
        ++ lowerAfter (c :: before) rest

/-- Lower case of a text. -/
def lower (s : List Char) : List Char := lowerAfter [] s

/-- Title case of a text, given whether a word may start: the first character of every
word is put in upper case, the others stay. -/
def titleFrom (atStart : Bool) : List Char → List Char
  | [] => []
  | c :: rest =>
      (if atStart then upperChar c else [c]) ++ titleFrom (!(isAlphanumeric c || c == '_')) rest

/-- Title case of a text. -/
def title (s : List Char) : List Char := titleFrom true s

/-- Lower case of a string. -/
def lowerString (s : String) : String := String.ofList (lower s.toList)

end Hooklog.Text
