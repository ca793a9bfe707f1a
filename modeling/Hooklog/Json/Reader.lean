import Hooklog.Json.Number
import Hooklog.Text.Words

/-!
# Reading JSON text

A text is read into a document, which keeps what is needed to interpret it: the members of
an object in order, repeated ones included, and strings that may hold escapes for half a
character, which are no strings.
-/

namespace Hooklog.Json

/-- What a text says.  A string is absent when its escapes do not form characters. -/
inductive Document where
  | null
  | bool (b : Bool)
  | number (n : Number)
  | string (s : Option String)
  | array (items : List Document)
  | object (members : List (Option String × Document))

/-- Part of a string: a character, or a code unit of 16 bits given by its number. -/
inductive Unit16 where
  | char (c : Char)
  | code (n : Nat)
  deriving DecidableEq, Repr

/-- Value of a hexadecimal digit. -/
def hexValue? (c : Char) : Option Nat :=
  if Text.isAsciiDigit c then some (Decimal.digitValue c)
  else if 'a' ≤ c && c ≤ 'f' then some (c.toNat - 'a'.toNat + 10)
  else if 'A' ≤ c && c ≤ 'F' then some (c.toNat - 'A'.toNat + 10)
  else none

/-- Value of four hexadecimal digits. -/
def hexFour? (a b c d : Char) : Option Nat :=
  match hexValue? a, hexValue? b, hexValue? c, hexValue? d with
  | some a, some b, some c, some d => some (((a * 16 + b) * 16 + c) * 16 + d)
  | _, _, _, _ => none

/-- Character of an escape of one letter. -/
def escaped? : Char → Option Char
  | '"' => some '"'
  | '\\' => some '\\'
  | '/' => some '/'
  | 'b' => some (Char.ofNat 8)
  | 'f' => some (Char.ofNat 12)
  | 'n' => some '\n'
  | 'r' => some '\r'
  | 't' => some '\t'
  | _ => none

/-- Parts of a string up to its closing quote, and the rest of the text.  Controls have to
be escaped. -/
def takeString? : List Char → Option (List Unit16 × List Char)
  | [] => none
  | '"' :: rest => some ([], rest)
  | '\\' :: 'u' :: a :: b :: c :: d :: rest =>
      match hexFour? a b c d, takeString? rest with
      | some n, some (units, rest) => some (.code n :: units, rest)
      | _, _ => none
  | '\\' :: e :: rest =>
      match escaped? e, takeString? rest with
      | some c, some (units, rest) => some (.char c :: units, rest)
      | _, _ => none
  | c :: rest =>
      if c = '\\' ∨ c.toNat < 0x20 then none
      else
        match takeString? rest with
        | some (units, rest) => some (.char c :: units, rest)
        | none => none

/-- Whether a code unit is the first half of a character. -/
def isHighHalf (n : Nat) : Bool := 0xD800 ≤ n && n < 0xDC00

/-- Whether a code unit is the second half of a character. -/
def isLowHalf (n : Nat) : Bool := 0xDC00 ≤ n && n < 0xE000

/-- Characters of the parts of a string, if every half is followed by its other half. -/
def combine? : List Unit16 → Option (List Char)
  | [] => some []
  | .char c :: rest => (combine? rest).map (c :: ·)
  | .code h :: .code l :: rest =>
      if isHighHalf h then
        if isLowHalf l then
          (combine? rest).map (Char.ofNat (0x10000 + (h - 0xD800) * 0x400 + (l - 0xDC00)) :: ·)
        else none
      else if isLowHalf h then none
      else (combine? (.code l :: rest)).map (Char.ofNat h :: ·)
  | .code h :: rest =>
      if isHighHalf h || isLowHalf h then none else (combine? rest).map (Char.ofNat h :: ·)

/-- The blanks between the parts of a text. -/
def isGap (c : Char) : Bool := c = ' ' || c = '\n' || c = '\t' || c = '\r'

/-- Text after its leading blanks. -/
def skipGap (s : List Char) : List Char := s.dropWhile isGap

/-- A string after its opening quote. -/
def takeText? (s : List Char) : Option (Option String × List Char) :=
  (takeString? s).map fun p => ((combine? p.1).map String.ofList, p.2)

mutual

/-- A value at the start of a text, and the rest.  The fuel bounds the characters read. -/
def takeValue? : Nat → List Char → Option (Document × List Char)
  | 0, _ => none
  | fuel + 1, s =>
      match skipGap s with
      | [] => none
      | '"' :: rest => (takeText? rest).map fun p => (.string p.1, p.2)
      | '[' :: rest =>
          match skipGap rest with
          | ']' :: rest => some (.array [], rest)
          | rest => (takeItems? fuel rest).map fun p => (.array p.1, p.2)
      | '{' :: rest =>
          match skipGap rest with
          | '}' :: rest => some (.object [], rest)
          | rest => (takeMembers? fuel rest).map fun p => (.object p.1, p.2)
      | 'n' :: 'u' :: 'l' :: 'l' :: rest => some (.null, rest)
      | 't' :: 'r' :: 'u' :: 'e' :: rest => some (.bool true, rest)
      | 'f' :: 'a' :: 'l' :: 's' :: 'e' :: rest => some (.bool false, rest)
      | other => (takeNumber? other).map fun p => (.number p.1.number, p.2)

/-- The values of an array up to its closing bracket. -/
def takeItems? : Nat → List Char → Option (List Document × List Char)
  | 0, _ => none
  | fuel + 1, s =>
      match takeValue? fuel s with
      | none => none
      | some (v, rest) =>
          match skipGap rest with
          | ',' :: rest => (takeItems? fuel rest).map fun p => (v :: p.1, p.2)
          | ']' :: rest => some ([v], rest)
          | _ => none

/-- The members of an object up to its closing brace. -/
def takeMembers? : Nat → List Char → Option (List (Option String × Document) × List Char)
  | 0, _ => none
  | fuel + 1, s =>
      match skipGap s with
      | '"' :: rest =>
          match takeText? rest with
          | none => none
          | some (key, rest) =>
              match skipGap rest with
              | ':' :: rest =>
                  match takeValue? fuel rest with
                  | none => none
                  | some (v, rest) =>
                      match skipGap rest with
                      | ',' :: rest => (takeMembers? fuel rest).map fun p => ((key, v) :: p.1, p.2)
                      | '}' :: rest => some ([(key, v)], rest)
                      | _ => none
              | _ => none
      | _ => none

end

/-- Document of a whole text. -/
def read? (s : String) : Option Document :=
  let cs := s.toList
  match takeValue? (2 * cs.length + 2) cs with
  | some (v, rest) => if skipGap rest = [] then some v else none
  | none => none

end Hooklog.Json
