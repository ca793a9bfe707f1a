import Hooklog.Destination.LogFile
import Hooklog.Level.Filter
import Hooklog.Stream

/-!
# Destinations

Where a hook delivers entries: a console with two streams, log files, or an application of
the caller's own.
-/

namespace Hooklog

/-- Name of a destination in a store. -/
abbrev DestinationId := Nat

/-- Streams of formatted entries and of raw text. -/
structure Console where
  log : Stream
  out : Stream
  formatter : FormatterId
  deriving DecidableEq, Repr

/-- Name of consoles in their failures. -/
def Console.identity : String := "ConsoleHook"

/-- What an application does with an entry. -/
inductive Response where
  /-- It writes a text to a buffer. -/
  | writes (buffer text : String)
  | fails (error : LogError)
  | stops (fault : Fault)

/-- Destination supplied by an application. -/
structure Application where
  identity : String
  /-- Levels declared, if any are. -/
  levels : Option (List Level)
  acceptsPrint : Bool
  /-- Response to an entry, which may depend on the number of entries before it. -/
  respond : Nat → Entry → Response
  /-- Number of entries so far. -/
  received : Nat
  /-- How its flush fails, if it does. -/
  flushFailure : Option LogError := none

/-- A destination of entries. -/
inductive Destination where
  | console (c : Console)
  | logFile (f : LogFile)
  | application (a : Application)

/-- What a destination flushes. -/
inductive Writer where
  /-- A stream of a console. -/
  | stream (s : Stream)
  /-- A log file held open, of which a flush never fails. -/
  | file
  /-- An application, and how its flush fails if it does. -/
  | application (failure : Option LogError)

namespace Writer

/-- Flush on behalf of the destination. -/
def flush : Writer → Except LogError Unit
  | .stream s => s.flush Console.identity
  | .file => .ok ()
  | .application none => .ok ()
  | .application (some error) => .error error

/-- Flush one after the other until one fails: those that were tried, and how that ended. -/
def flushAll : List Writer → List Writer × Except LogError Unit
  | [] => ([], .ok ())
  | w :: rest =>
      match w.flush with
      | .error error => ([w], .error error)
      | .ok _ =>
          let (flushed, result) := flushAll rest
          (w :: flushed, result)

end Writer

namespace Destination

/-- Name of a destination in its failures. -/
def identity : Destination → String
  | .console _ => Console.identity
  | .logFile f => f.identity
  | .application a => a.identity

/-- Formatter of a destination that has one. -/
def formatter? : Destination → Option FormatterId
  | .console c => some c.formatter
  | .logFile f => some f.formatter
  | .application _ => none

/-- Levels that a destination declares. -/
def levels? : Destination → Option (List Level)
  | .application a => a.levels
  | _ => none

/-- Whether a destination takes raw text. -/
def acceptsPrint : Destination → Bool
  | .application a => a.acceptsPrint
  | _ => true

/-- What a destination flushes, the stream of formatted entries first. -/
def writers : Destination → List Writer
  | .console c => [.stream c.log, .stream c.out]
  | .logFile f => if f.opened.isSome then [.file] else []
  | .application a => [.application a.flushFailure]

/-- Levels delivered to a destination under a minimum. -/
def filter (d : Destination) (minimum : Level) : LevelFilter :=
  ⟨minimum, d.levels?, d.acceptsPrint⟩

/-- Destination with another formatter, if it has one. -/
def withFormatter? (d : Destination) (id : FormatterId) : Option Destination :=
  match d with
  | .console c => some (.console { c with formatter := id })
  | .logFile f => some (.logFile { f with formatter := id })
  | .application _ => none

end Destination

end Hooklog
