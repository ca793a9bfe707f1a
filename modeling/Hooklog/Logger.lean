import Hooklog.Hook

/-!
# Loggers

A logger holds hooks under their names and sends entries to those that accept their level.
This module holds what a logger knows and its registry of hooks.
-/

namespace Hooklog

/-- A logger. -/
structure Logger where
  moduleName : String
  /-- The hooks under their names. -/
  hooks : SortedMap String Hook
  /-- Fields of every entry. -/
  fields : Fields
  /-- Time of every entry, the current one if absent. -/
  time : Option Instant
  reportsCaller : Bool
  /-- Level of printed text. -/
  printLevel : Level
  /-- Whether written text is searched for levels. -/
  catches : Bool
  /-- Part of a line written so far. -/
  pending : Text.Bytes
  /-- Failures that nobody has cleared yet. -/
  errors : List LogError

namespace Logger

/-! ## Hooks -/

/-- Register a hook, in place of one of the same name. -/
def addHook (l : Logger) (h : Hook) : Logger := { l with hooks := l.hooks.insert h.name h }

/-- Register several hooks. -/
def addHooks (l : Logger) (hooks : List Hook) : Logger := hooks.foldl addHook l

/-- Forget the hook of a name. -/
def removeHook (l : Logger) (name : String) : Logger :=
  { l with hooks := l.hooks.erase (Hook.nameOf name) }

/-- Hook of a name. -/
def hook? (l : Logger) (name : String) : Option Hook := l.hooks.get? (Hook.nameOf name)

/-- Minimum of the hook of a name, which is disabled if there is none. -/
def hookLevel (l : Logger) (name : String) : Level :=
  match l.hook? name with
  | some h => h.level
  | none => .disabled

/-- Change the minimum of the hook of a name. -/
def setHookLevel (l : Logger) (name : String) (level : Except LogError Level) :
    Except LogError Logger :=
  match level with
  | .error error => .error error
  | .ok level =>
      match l.hook? name with
      | none => .error (.hookNotFound name)
      | some h => .ok { l with hooks := l.hooks.insert (Hook.nameOf name) (h.withLevel level) }

/-- Names of the hooks in ascending order. -/
def hookNames (l : Logger) : List String := l.hooks.keys

/-- The console hook that a new logger has. -/
def defaultConsole? (l : Logger) : Option Hook := l.hook? Hook.defaultConsole

/-- Logger with some hooks, in a process with some settings. -/
def withHooks (settings : Settings) (moduleName : String) (hooks : List Hook) : Logger :=
  addHooks
    { moduleName := moduleName
      hooks := .empty
      fields := .empty
      time := none
      reportsCaller := settings.reportCaller.value
      printLevel := .print
      catches := true
      pending := []
      errors := [] }
    hooks

/-- Logger with a console hook for warnings. -/
def new (s : Store) (moduleName : String) : Logger × Store :=
  let (h, s) := Hook.console s "" .warning none
  (withHooks s.settings moduleName [h], s)

/-! ## Levels -/

/-- The more verbose of two levels. -/
def moreVerbose (a b : Level) : Level := if a ≤ b then b else a

/-- Most verbose minimum of the hooks that are not disabled. -/
def level (l : Logger) : Level :=
  match (l.hooks.values.map Hook.level).filter fun l => !l.isDisabled with
  | [] => .disabled
  | first :: rest => rest.foldl moreVerbose first

/-- Whether some hook accepts a level. -/
def isEnabled (l : Logger) (s : Store) (level : Level) : Bool :=
  l.hooks.values.any fun h => h.accepts s level

/-! ## Failures -/

/-- Record a failure. -/
def addError (l : Logger) (error : LogError) : Logger :=
  { l with errors := l.errors ++ [error] }

/-- The failures recorded so far. -/
def getError (l : Logger) : Except LogError Unit := dispatchResult l.errors

/-- The failures recorded so far, which are forgotten. -/
def clearError (l : Logger) : Except LogError Unit × Logger :=
  (dispatchResult l.errors, { l with errors := [] })

/-- Record the failure of a change, if it is one. -/
def recorded (l : Logger) : Except LogError Unit → Logger
  | .ok _ => l
  | .error error => l.addError error

/-! ## The default console hook -/

/-- Change the default console hook if there is one, recording a failure. -/
def onDefaultConsole (l : Logger) (s : Store)
    (change : Hook → Store → Except LogError Unit × Store) : Logger × Store :=
  match l.defaultConsole? with
  | none => (l, s)
  | some h =>
      let (result, s) := change h s
      (l.recorded result, s)

/-- Formatter of the default console hook. -/
def formatter? (l : Logger) (s : Store) : Option FormatterId :=
  l.defaultConsole?.bind fun h => h.formatter? s

/-- Replace the formatter of the default console hook. -/
def setFormatter (l : Logger) (s : Store) (id : FormatterId) : Logger × Store :=
  l.onDefaultConsole s fun h s => h.setFormatter s id

/-- Replace the template of the default console hook. -/
def setFormat (l : Logger) (s : Store) (formats : List String) : Logger × Store :=
  l.onDefaultConsole s fun h s => h.setFormat s formats

/-- Switch the colors of the default console hook. -/
def setColor (l : Logger) (s : Store) (color : Bool) : Logger × Store :=
  l.onDefaultConsole s fun h s => (.ok (), h.setColor s color)

/-- Replace the stream of formatted entries of the default console hook. -/
def setLogStream (l : Logger) (s : Store) (stream : Stream) : Logger × Store :=
  l.onDefaultConsole s fun h s => h.setLogStream s stream

/-- Replace the stream of raw text of the default console hook. -/
def setRawStream (l : Logger) (s : Store) (stream : Stream) : Logger × Store :=
  l.onDefaultConsole s fun h s => h.setRawStream s stream

/-- Replace both streams of the default console hook. -/
def setStreams (l : Logger) (s : Store) (stream : Stream) : Logger × Store :=
  l.onDefaultConsole s fun h s => h.setStreams s stream

/-- Short description of a logger. -/
def summary (l : Logger) : String :=
  "Logger \x7b module: " ++ Text.quoted l.moduleName ++ ", hooks: ["
    ++ Text.joinWith ", " (l.hookNames.map Text.quoted) ++ "], level: " ++ l.level.summary
    ++ ", .. \x7d"

end Logger

end Hooklog
