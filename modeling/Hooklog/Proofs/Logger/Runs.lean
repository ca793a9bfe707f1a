import Hooklog.Logger.Write

/-!
# Runs

A run is a sequence of calls on one logger.  `Call.perform` is one call, with what it answers,
and `run` is all of them.  No call changes more of a logger than the pending part of a line, the
failures on record and the switch of the catcher.
-/

namespace Hooklog

/-- A call on a logger. -/
inductive Call where
  /-- Log a message from a place. -/
  | log (caller : Caller) (level : Level) (message : String)
  /-- Log a message from a place with more fields. -/
  | logFields (caller : Caller) (level : Level) (fields : Fields) (message : String)
  /-- Send text at the level of printed text. -/
  | print (caller : Caller) (message : String)
  /-- Write bytes. -/
  | write (bytes : Text.Bytes)
  /-- Switch the search for levels. -/
  | setCatches (catches : Bool)
  | close
  | flush
  | getError
  | clearError

/-- What a call answers. -/
inductive Answer where
  | nothing
  | result (result : Except LogError Unit)
  /-- Number of bytes that were written. -/
  | count (result : Except LogError Nat)

namespace Logger

/-- One call. -/
def perform (l : Logger) (s : Store) : Call → Answer × Logger × Store
  | .log caller level message => (.nothing, l.log s caller level message)
  | .logFields caller level fields message => (.nothing, l.logFields s caller level fields message)
  | .print caller message => (.nothing, l.print s caller message)
  | .write bytes =>
      let (result, l, s) := l.write s bytes
      (.count result, l, s)
  | .setCatches catches => (.nothing, { l with catches := catches }, s)
  | .close =>
      let (result, l, s) := l.close s
      (.result result, l, s)
  | .flush =>
      let (result, l, s) := l.flush s
      (.result result, l, s)
  | .getError => (.result l.getError, l, s)
  | .clearError =>
      let (result, l) := l.clearError
      (.result result, l, s)

/-- Calls one after the other, with their answers. -/
def run (l : Logger) (s : Store) : List Call → List Answer × Logger × Store
  | [] => ([], l, s)
  | c :: rest =>
      let (answer, l, s) := l.perform s c
      let (answers, l, s) := l.run s rest
      (answer :: answers, l, s)

end Logger

end Hooklog
