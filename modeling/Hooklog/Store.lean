import Hooklog.Destination

/-!
# Stores

The state that loggers share: formatters and destinations under their names, what has been
written to streams and files, and the settings of the process.  A formatter or destination
changes only under its own name.
-/

namespace Hooklog

/-- Shared state of the loggers of a process. -/
structure Store where
  settings : Settings
  /-- Time of entries whose logger has no time of its own. -/
  now : Instant
  formatters : List Formatter
  destinations : List Destination
  buffers : Buffers
  files : FileTree

namespace Store

/-- Store without formatters and destinations. -/
def new (settings : Settings) (now : Instant) (workingName : String) : Store where
  settings := settings
  now := now
  formatters := []
  destinations := []
  buffers := .empty
  files := .ofWorking workingName

/-- Keep a formatter under a new name. -/
def addFormatter (s : Store) (f : Formatter) : FormatterId × Store :=
  (s.formatters.length, { s with formatters := s.formatters ++ [f] })

/-- Keep a destination under a new name. -/
def addDestination (s : Store) (d : Destination) : DestinationId × Store :=
  (s.destinations.length, { s with destinations := s.destinations ++ [d] })

/-- Replace the formatter of a name. -/
def setFormatter (s : Store) (id : FormatterId) (f : Formatter) : Store :=
  { s with formatters := s.formatters.set id f }

/-- Replace the destination of a name. -/
def setDestination (s : Store) (id : DestinationId) (d : Destination) : Store :=
  { s with destinations := s.destinations.set id d }

/-- Formatter of a destination that has one. -/
def formatterOf? (s : Store) (id : DestinationId) : Option FormatterId :=
  s.destinations[id]?.bind Destination.formatter?

/-- Zone of the times in headers. -/
def zone (s : Store) : Zone := Zone.ofOption s.settings.displayZone

/-! ## Delivery -/

/-- Line of an entry from the formatter of a name. -/
def writeLine (s : Store) (id : FormatterId) (e : Entry) : Except Stop String × Store :=
  match s.formatters[id]? with
  | none => (.ok "", s)
  | some f =>
      let (result, f) := f.write s.settings e
      (result, s.setFormatter id f)

/-- Text of an entry for a destination: raw text as it is, all else as a line.  A failure of
the formatter is one of the destination. -/
def entryText (s : Store) (identity : String) (id : FormatterId) (e : Entry) :
    Except Stop String × Store :=
  if e.level.isPrint then (.ok e.message, s)
  else
    match s.writeLine id e with
    | (.ok line, s) => (.ok line, s)
    | (.error (.failed error), s) => (.error (.failed (.hook identity error)), s)
    | (.error (.stopped fault), s) => (.error (.stopped fault), s)

/-- Write a text to a stream of a console. -/
def writeStream (s : Store) (stream : Stream) (text : String) : Except Stop Unit × Store :=
  let (result, buffers) := stream.writeText Console.identity text s.buffers
  (result, { s with buffers := buffers })

/-- Append a text to the log file of a name. -/
def appendFile (s : Store) (id : DestinationId) (f : LogFile) (e : Entry) (text : String) :
    Except Stop Unit × Store :=
  let (result, f, files) := f.append s.files s.zone e text
  (result.mapError .failed, { s.setDestination id (.logFile f) with files := files })

/-- Let an application respond to an entry. -/
def respond (s : Store) (id : DestinationId) (a : Application) (e : Entry) :
    Except Stop Unit × Store :=
  let s' := s.setDestination id (.application { a with received := a.received + 1 })
  match a.respond a.received e with
  | .writes buffer text =>
      (.ok (), { s' with buffers := s'.buffers.append buffer (Text.bytesOf text) })
  | .fails error => (.error (.failed error), s')
  | .stops fault => (.error (.stopped fault), s')

/-- Deliver an entry to the destination of a name. -/
def deliver (s : Store) (id : DestinationId) (e : Entry) : Except Stop Unit × Store :=
  match s.destinations[id]? with
  | none => (.ok (), s)
  | some (.console c) =>
      match s.entryText Console.identity c.formatter e with
      | (.error stop, s) => (.error stop, s)
      | (.ok text, s) => s.writeStream (if e.level.isPrint then c.out else c.log) text
  | some (.logFile f) =>
      match s.entryText f.identity f.formatter e with
      | (.error stop, s) => (.error stop, s)
      | (.ok text, s) => s.appendFile id f e text
  | some (.application a) => s.respond id a e

/-- What the destination of a name flushes. -/
def writers (s : Store) (id : DestinationId) : List Writer :=
  match s.destinations[id]? with
  | some d => d.writers
  | none => []

/-- Flush the destination of a name, which stops at its first failure. -/
def flush (s : Store) (id : DestinationId) : Except LogError Unit :=
  (Writer.flushAll (s.writers id)).2

/-- Destination for a derived logger: log files are copied, all else is shared. -/
def derive (s : Store) (id : DestinationId) : DestinationId × Store :=
  match s.destinations[id]? with
  | some (.logFile f) => s.addDestination (.logFile f.copy)
  | _ => (id, s)

end Store

end Hooklog
