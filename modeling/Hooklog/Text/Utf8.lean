/-!
# UTF-8

The bytes of a text, and the text of arbitrary bytes.  Decoding never fails: every
maximal part of the input that starts like a character without completing it is read as
the replacement character.
-/

namespace Hooklog.Text

/-- Byte sequences, as written to a stream. -/
abbrev Bytes := List UInt8

/-- The bytes of a string. -/
def bytesOf (s : String) : Bytes := s.toByteArray.data.toList

/-- The replacement character. -/
def replacement : Char := Char.ofNat 0xFFFD

/-- What a leading byte announces: the number of continuation bytes, the range of the first
of them, and the payload of the byte itself. -/
structure Lead where
  continuations : Nat
  low : Nat
  high : Nat
  payload : Nat
  deriving DecidableEq, Repr

/-- Reading of a leading byte, `none` for a byte that starts no character.  The range of
the next byte leaves out overlong forms, surrogates and numbers above the last code point. -/
def Lead.ofByte? (b : Nat) : Option Lead :=
  if b < 0x80 then some ⟨0, 0, 0, b⟩
  else if b < 0xC2 then none
  else if b < 0xE0 then some ⟨1, 0x80, 0xBF, b - 0xC0⟩
  else if b = 0xE0 then some ⟨2, 0xA0, 0xBF, 0⟩
  else if b = 0xED then some ⟨2, 0x80, 0x9F, 0xD⟩
  else if b < 0xF0 then some ⟨2, 0x80, 0xBF, b - 0xE0⟩
  else if b = 0xF0 then some ⟨3, 0x90, 0xBF, 0⟩
  else if b < 0xF4 then some ⟨3, 0x80, 0xBF, b - 0xF0⟩
  else if b = 0xF4 then some ⟨3, 0x80, 0x8F, 4⟩
  else none

/-- Reading state between two bytes: between characters, or inside one with the bytes
still expected, the range of the next one and the payload so far. -/
inductive Decoding where
  | idle
  | inside (expected : Nat) (low high payload : Nat)
  deriving DecidableEq, Repr

/-- Start a character, or replace a byte that starts none. -/
def Decoding.start (b : Nat) : List Char × Decoding :=
  match Lead.ofByte? b with
  | none => ([replacement], .idle)
  | some ⟨0, _, _, payload⟩ => ([Char.ofNat payload], .idle)
  | some ⟨n + 1, low, high, payload⟩ => ([], .inside (n + 1) low high payload)

/-- Read one byte.  A byte that cannot continue the open character closes it as a
replacement and is then read afresh. -/
def Decoding.step : Decoding → Nat → List Char × Decoding
  | .idle, b => start b
  | .inside expected low high payload, b =>
      if low ≤ b && b ≤ high then
        let payload := payload * 0x40 + (b - 0x80)
        if expected ≤ 1 then ([Char.ofNat payload], .idle)
        else ([], .inside (expected - 1) 0x80 0xBF payload)
      else
        let next := start b
        (replacement :: next.1, next.2)

/-- Characters still due at the end of the input. -/
def Decoding.finish : Decoding → List Char
  | .idle => []
  | .inside _ _ _ _ => [replacement]

/-- Read bytes from a state. -/
def decodeFrom (state : Decoding) : Bytes → List Char
  | [] => state.finish
  | b :: rest =>
      let next := state.step b.toNat
      next.1 ++ decodeFrom next.2 rest

/-- The text of any bytes. -/
def decode (bytes : Bytes) : List Char := decodeFrom .idle bytes

/-- The text of any bytes as a string. -/
def decodeString (bytes : Bytes) : String := String.ofList (decode bytes)

/-- Number of bytes of a text. -/
def byteLength : List Char → Nat
  | [] => 0
  | c :: rest => c.utf8Size + byteLength rest

end Hooklog.Text
