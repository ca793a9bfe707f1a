import Hooklog.Store

/-!
# Hooks

A hook delivers the entries at its levels to a destination under a name.  Whatever goes wrong
in the delivery is a failure that is reported, a panic included.
-/

namespace Hooklog

/-- A destination with a name and a minimum level. -/
structure Hook where
  name : String
  level : Level
  destination : DestinationId
  deriving DecidableEq, Repr

namespace Hook

/-- Name of the console hook of a new logger. -/
def defaultConsole : String := "console-hook"

/-- Name that a text stands for: an empty one is that of the default console hook. -/
def nameOf (name : String) : String := if name.isEmpty then defaultConsole else name

/-! ## Making hooks -/

/-- Hook on a new console.  Without a formatter it gets the default one. -/
def console (s : Store) (name : String) (level : Level) (formatter : Option FormatterId) :
    Hook × Store :=
  let (id, s) := match formatter with
    | some id => (id, s)
    | none => s.addFormatter (.text (TextFormatter.console s.settings s.now))
  let (destination, s) :=
    s.addDestination (.console ⟨.ofBuffer "stderr", .ofBuffer "stdout", id⟩)
  (⟨nameOf name, level, destination⟩, s)

/-- Hook on a new log file destination, named after its path. -/
def logFile (s : Store) (path : String) (isPerModule writesHeader : Bool) (level : Level)
    (formatter : Option FormatterId) : Hook × Store :=
  let (id, s) := match formatter with
    | some id => (id, s)
    | none => s.addFormatter (.text (TextFormatter.file s.settings s.now))
  let file := { LogFile.new path isPerModule id with writesHeader := writesHeader }
  let (destination, s) := s.addDestination (.logFile file)
  (⟨path, level, destination⟩, s)

/-- Hook on an application. -/
def application (s : Store) (name : String) (level : Level) (a : Application) : Hook × Store :=
  let (destination, s) := s.addDestination (.application a)
  (⟨name, level, destination⟩, s)

/-- The same hook with another minimum. -/
def withLevel (h : Hook) (level : Level) : Hook := { h with level := level }

/-! ## Levels -/

/-- Levels that pass the hook. -/
def filter (h : Hook) (s : Store) : LevelFilter :=
  match s.destinations[h.destination]? with
  | some d => d.filter h.level
  | none => ⟨h.level, none, false⟩

/-- Levels delivered to the destination. -/
def levels (h : Hook) (s : Store) : List Level := (h.filter s).levels

/-- Whether a level is delivered to the destination. -/
def accepts (h : Hook) (s : Store) (l : Level) : Bool := (h.filter s).accepts l

/-! ## Delivery -/

/-- Deliver an entry. -/
def fire (h : Hook) (s : Store) (e : Entry) : Except LogError Unit × Store :=
  match s.deliver h.destination e with
  | (.ok _, s) => (.ok (), s)
  | (.error (.failed error), s) => (.error error, s)
  | (.error (.stopped fault), s) => (.error (.hookPanic h.name fault.message), s)

/-- Deliver an entry to several hooks, in order; the answer holds the failures. -/
def fireAll (e : Entry) : List Hook → Store → List LogError × Store
  | [], s => ([], s)
  | h :: rest, s =>
      let (result, s) := h.fire s e
      let (failures, s) := fireAll e rest s
      match result with
      | .ok _ => (failures, s)
      | .error error => (error :: failures, s)

/-- Hook of a derived logger. -/
def derive (h : Hook) (s : Store) : Hook × Store :=
  let (destination, s) := s.derive h.destination
  ({ h with destination := destination }, s)

/-! ## Changing the destination -/

/-- Formatter of the destination, if it has one. -/
def formatter? (h : Hook) (s : Store) : Option FormatterId := s.formatterOf? h.destination

/-- Text formatter of the destination, if it has one. -/
def textFormatter? (h : Hook) (s : Store) : Option (FormatterId × TextFormatter) :=
  match h.formatter? s with
  | none => none
  | some id => (s.formatters[id]?.bind Formatter.asText?).map fun f => (id, f)

/-- Replace the formatter of the destination. -/
def setFormatter (h : Hook) (s : Store) (id : FormatterId) : Except LogError Unit × Store :=
  match s.destinations[h.destination]? with
  | none => (.ok (), s)
  | some d =>
      match d.withFormatter? id with
      | some d => (.ok (), s.setDestination h.destination d)
      | none => (.error (.unsupported d.identity "set_formatter"), s)

/-- Replace the template of the destination by the first format that is not empty. -/
def setFormat (h : Hook) (s : Store) (formats : List String) : Except LogError Unit × Store :=
  match h.textFormatter? s with
  | some (id, f) => (.ok (), s.setFormatter id (.text (f.setFormat formats)))
  | none => (.error (.unsupported h.name "set_format"), s)

/-- Switch the colors of the destination, if it has any. -/
def setColor (h : Hook) (s : Store) (color : Bool) : Store :=
  match h.formatter? s with
  | none => s
  | some id =>
      match s.formatters[id]? with
      | some f => s.setFormatter id (f.setColor color)
      | none => s

/-- The console that the hook delivers to, if it is one. -/
def console? (h : Hook) (s : Store) : Option Console :=
  match s.destinations[h.destination]? with
  | some (.console c) => some c
  | _ => none

/-- Change the console that the hook delivers to. -/
def changeConsole (h : Hook) (s : Store) (operation : String) (change : Console → Console) :
    Except LogError Unit × Store :=
  match h.console? s with
  | some c => (.ok (), s.setDestination h.destination (.console (change c)))
  | none => (.error (.unsupported h.name operation), s)

/-- Replace the stream of formatted entries. -/
def setLogStream (h : Hook) (s : Store) (stream : Stream) : Except LogError Unit × Store :=
  h.changeConsole s "set_out" fun c => { c with log := stream }

/-- Replace the stream of raw text. -/
def setRawStream (h : Hook) (s : Store) (stream : Stream) : Except LogError Unit × Store :=
  h.changeConsole s "set_stdout" fun c => { c with out := stream }

/-- Replace both streams. -/
def setStreams (h : Hook) (s : Store) (stream : Stream) : Except LogError Unit × Store :=
  h.changeConsole s "set_all_outputs" fun c => { c with log := stream, out := stream }

/-- Replace the template of a console, if the hook delivers to one. -/
def setConsoleFormat (h : Hook) (s : Store) (formats : List String) : Bool × Store :=
  match h.console? s with
  | none => (false, s)
  | some _ =>
      match h.textFormatter? s with
      | some (id, f) => (true, s.setFormatter id (.text (f.setFormat formats)))
      | none => (true, s)

/-- Switch the colors of a console, if the hook delivers to one. -/
def setConsoleColor (h : Hook) (s : Store) (color : Bool) : Bool × Store :=
  match h.console? s with
  | none => (false, s)
  | some _ => (true, h.setColor s color)

/-- Name of the destination in its failures. -/
def identity (h : Hook) (s : Store) : String :=
  match s.destinations[h.destination]? with
  | some d => d.identity
  | none => ""

/-- Short description of a hook. -/
def summary (h : Hook) (s : Store) : String :=
  "Hook \x7b name: " ++ Text.quoted h.name ++ ", level: " ++ h.level.summary
    ++ ", appender: " ++ Text.quoted (h.identity s) ++ " \x7d"

end Hook

end Hooklog
