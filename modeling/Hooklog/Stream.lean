import Hooklog.Error
import Hooklog.SortedMap
import Hooklog.Text.Utf8

/-!
# Streams

A stream is where text leaves the process.  Text that it takes ends up in a named buffer;
several streams may share one.  A text is written by a single call, and a stream that takes
only a part of it has failed.
-/

namespace Hooklog

/-- What has been written to the streams, by the name of the buffer. -/
abbrev Buffers := SortedMap String Text.Bytes

namespace Buffers

/-- Bytes of a buffer; one never written to is empty. -/
def content (b : Buffers) (name : String) : Text.Bytes := (b.get? name).getD []

/-- Buffers after bytes went to one of them. -/
def append (b : Buffers) (name : String) (bytes : Text.Bytes) : Buffers :=
  b.insert name (b.content name ++ bytes)

end Buffers

/-- What a stream does with the bytes of a call. -/
inductive Sink where
  /-- It takes all of them. -/
  | buffer (name : String)
  /-- It takes at most some number of them. -/
  | limited (most : Nat) (name : String)
  /-- It fails. -/
  | failing (text : String)
  /-- It panics. -/
  | panicking (text : String)
  deriving DecidableEq, Repr

/-- A sink, and how its flush fails if it does. -/
structure Stream where
  sink : Sink
  flushFailure : Option String
  deriving DecidableEq, Repr

namespace Stream

/-- Stream into a buffer. -/
def ofBuffer (name : String) : Stream := ⟨.buffer name, none⟩

/-- One call with bytes; the answer is how many were taken. -/
def write (s : Stream) (bytes : Text.Bytes) (b : Buffers) : Except Stop Nat × Buffers :=
  match s.sink with
  | .buffer name => (.ok bytes.length, b.append name bytes)
  | .limited most name => (.ok (min most bytes.length), b.append name (bytes.take most))
  | .failing text => (.error (.failed (.io text)), b)
  | .panicking text => (.error (.stopped (.thrown text)), b)

/-- One call with a text, on behalf of a destination.  A text that was not taken as a whole
is a failure. -/
def writeText (s : Stream) (identity text : String) (b : Buffers) : Except Stop Unit × Buffers :=
  let bytes := Text.bytesOf text
  match s.write bytes b with
  | (.ok n, b) =>
      if n = bytes.length then (.ok (), b)
      else (.error (.failed (.hook identity (.shortWrite n text))), b)
  | (.error (.failed e), b) => (.error (.failed (.hook identity e)), b)
  | (.error (.stopped f), b) => (.error (.stopped f), b)

/-- Flush on behalf of a destination. -/
def flush (s : Stream) (identity : String) : Except LogError Unit :=
  match s.flushFailure with
  | none => .ok ()
  | some text => .error (.hook identity (.io text))

end Stream

end Hooklog
