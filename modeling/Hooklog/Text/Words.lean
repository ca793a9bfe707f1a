import Hooklog.Text.Class

/-!
# Words, blanks and lines

Cutting a text at its separators.
-/

namespace Hooklog.Text

/-- Pieces of a text between the characters that satisfy a test, the empty ones included:
there is always one piece more than there are separators. -/
def splitAtChar (sep : Char → Bool) : List Char → List (List Char)
  | [] => [[]]
  | c :: rest =>
      if sep c then [] :: splitAtChar sep rest
      else
        match splitAtChar sep rest with
        | [] => [[c]]
        | piece :: pieces => (c :: piece) :: pieces

/-- Runs of letters and numbers, in the order of the text. -/
def words (s : List Char) : List (List Char) :=
  (splitAtChar (fun c => !isAlphanumeric c) s).filter (fun w => !w.isEmpty)

/-- Text without its leading characters that satisfy a test. -/
def trimStart (p : Char → Bool) (s : List Char) : List Char := s.dropWhile p

/-- Text without its trailing characters that satisfy a test. -/
def trimEnd (p : Char → Bool) (s : List Char) : List Char := (s.reverse.dropWhile p).reverse

/-- Text without its leading and trailing characters that satisfy a test. -/
def trimBoth (p : Char → Bool) (s : List Char) : List Char := trimEnd p (trimStart p s)

/-- Text without leading and trailing white space. -/
def trim (s : List Char) : List Char := trimBoth isBlank s

/-- String without leading and trailing white space. -/
def trimString (s : String) : String := String.ofList (trim s.toList)

/-- Whether a string holds only white space. -/
def isBlankString (s : String) : Bool := s.toList.all isBlank

/-- Strings written one after the other with a separator between neighbours. -/
def joinWith (sep : String) : List String → String
  | [] => ""
  | [s] => s
  | s :: rest => s ++ sep ++ joinWith sep rest

/-- A text written `n` times. -/
def repeated (n : Nat) (c : Char) : List Char := List.replicate n c

/-- Leading characters that satisfy a test, and the rest. -/
def spanChars (p : Char → Bool) (s : List Char) : List Char × List Char :=
  (s.takeWhile p, s.dropWhile p)

/-- Rest of a text after a word that it starts with. -/
def dropWord? : List Char → List Char → Option (List Char)
  | [], s => some s
  | _ :: _, [] => none
  | w :: word, c :: s => if w = c then dropWord? word s else none

/-- Lines of a text without their ends, and what follows the last end. -/
def splitLines : List Char → List (List Char) × List Char
  | [] => ([], [])
  | c :: s =>
      match splitLines s with
      | ([], tail) => if c = '\n' then ([[]], tail) else ([], c :: tail)
      | (line :: lines, tail) =>
          if c = '\n' then ([] :: line :: lines, tail) else ((c :: line) :: lines, tail)

/-- Dropping characters never makes a text longer. -/
theorem length_dropWhile_le (p : Char → Bool) (s : List Char) :
    (s.dropWhile p).length ≤ s.length :=
  (List.dropWhile_sublist p).length_le

end Hooklog.Text
