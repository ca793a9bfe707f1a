import Hooklog.Catcher
import Hooklog.Logger.Dispatch

/-!
# Writing to a logger

A logger takes a stream of bytes.  While it catches, the part of a line that has not ended is
kept until more is written or the logger is closed.  Messages are sent until one of them
fails; those after it are lost.
-/

namespace Hooklog

namespace Logger

/-- Send messages until one fails. -/
def sendAll : List Catcher.Message → Logger → Store → Except LogError Unit × Logger × Store
  | [], l, s => (.ok (), l, s)
  | m :: rest, l, s =>
      match l.dispatch s m.level m.text .empty none with
      | (.ok _, l, s) => sendAll rest l s
      | (.error error, l, s) => (.error error, l, s)

/-- Messages that bytes written to a logger make up, and the logger that keeps the part of a
line that has not ended. -/
def received (l : Logger) (bytes : Text.Bytes) : List Catcher.Message × Logger :=
  if l.catches then
    let (complete, pending) := Catcher.splitComplete (l.pending ++ bytes)
    (Catcher.messages l.printLevel (Text.decode complete), { l with pending := pending })
  else (Catcher.plainMessages l.printLevel (Text.decode bytes), l)

/-- Messages that the kept part of a line makes up when it is taken for a whole one.  A logger
that does not catch keeps it. -/
def released (l : Logger) : List Catcher.Message × Logger :=
  if l.pending.isEmpty || !l.catches then ([], l)
  else
    (Catcher.closingMessages l.printLevel (Text.decode l.pending), { l with pending := [] })

/-- Write bytes; the answer is their number. -/
def write (l : Logger) (s : Store) (bytes : Text.Bytes) : Except LogError Nat × Logger × Store :=
  let (messages, l) := l.received bytes
  let (result, l, s) := sendAll messages l s
  (result.map fun _ => bytes.length, l, s)

/-- Send the part of a line that is kept. -/
def close (l : Logger) (s : Store) : Except LogError Unit × Logger × Store :=
  let (messages, l) := l.released
  sendAll messages l s

/-- The failure of a result, if it is one. -/
def failure? : Except LogError Unit → Option LogError
  | .ok _ => none
  | .error error => some error

/-- Close the logger and flush every hook in the order of their names, whatever fails. -/
def flush (l : Logger) (s : Store) : Except LogError Unit × Logger × Store :=
  let (closed, l, s) := l.close s
  let failures := (failure? closed).toList
    ++ l.hooks.values.filterMap fun h => failure? (s.flush h.destination)
  (dispatchResult failures, l, s)

/-- What a logger that goes out of use leaves behind. -/
def drop (l : Logger) (s : Store) : Store := (l.flush s).2.2

end Logger

end Hooklog
