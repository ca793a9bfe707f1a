import Hooklog.Logger

/-!
# Dispatch

An entry goes to every hook that accepts its level, in the order of their names, whether or
not others fail.  The failures are recorded by the logger and answered to the caller.
-/

namespace Hooklog

namespace Logger

/-- Hooks that accept a level, in the order of their names. -/
def accepting (l : Logger) (s : Store) (level : Level) : List Hook :=
  l.hooks.values.filter fun h => h.accepts s level

/-- Entry of a message, with more fields and a caller. -/
def entry (l : Logger) (s : Store) (level : Level) (message : String) (fields : Fields)
    (caller : Option Caller) : Entry where
  level := level
  message := message
  time := l.time.getD s.now
  moduleName := l.moduleName
  fields := l.fields.merge fields
  caller := caller

/-- Send an entry to every hook that accepts its level. -/
def dispatch (l : Logger) (s : Store) (level : Level) (message : String) (fields : Fields)
    (caller : Option Caller) : Except LogError Unit × Logger × Store :=
  let (failures, s) :=
    Hook.fireAll (l.entry s level message fields caller) (l.accepting s level) s
  (dispatchResult failures, { l with errors := l.errors ++ failures }, s)

/-- Caller of an entry, if callers are reported. -/
def reported (l : Logger) (caller : Caller) : Option Caller :=
  if l.reportsCaller then some caller else none

/-- Log a message from a place with more fields. -/
def logFields (l : Logger) (s : Store) (caller : Caller) (level : Level) (fields : Fields)
    (message : String) : Logger × Store :=
  (l.dispatch s level message fields (l.reported caller)).2

/-- Log a message from a place. -/
def log (l : Logger) (s : Store) (caller : Caller) (level : Level) (message : String) :
    Logger × Store :=
  l.logFields s caller level .empty message

/-- Send text at the level of printed text. -/
def print (l : Logger) (s : Store) (caller : Caller) (message : String) : Logger × Store :=
  l.log s caller l.printLevel message

/-- Send a line at the level of printed text. -/
def println (l : Logger) (s : Store) (caller : Caller) (message : String) : Logger × Store :=
  l.print s caller (message ++ "\n")

end Logger

end Hooklog
