import Hooklog.Logger.Write

/-!
# Records of libraries

Libraries log records through a facade of the process.  A bridge sends records to a logger:
the target becomes a field, as do the named values, and the location becomes the caller.  Named
values are read one after the other, which may fail; then those before are kept and the failure
is recorded.  The facade can be given a logger once.
-/

namespace Hooklog

/-- A named value of a record. -/
inductive RecordValue where
  | int (n : Int)
  | float (x : Binary64)
  | bool (b : Bool)
  | text (s : String)
  /-- A text shown between quotes. -/
  | quoted (s : String)
  | absent
  deriving DecidableEq

/-- Field of a named value. -/
def RecordValue.field : RecordValue → FieldValue
  | .int n => .ofInt n
  | .float x => .float x
  | .bool b => .bool b
  | .text s => .text s
  | .quoted s => .text (Text.quoted s)
  | .absent => .text "None"

/-- A record of a library. -/
structure Record where
  level : Level
  target : String
  message : String
  /-- Named values that can be read. -/
  values : List (String × RecordValue)
  /-- Why reading fails behind these values, if it does. -/
  unreadable : Option String := none
  modulePath : Option String
  file : Option String
  line : Option Nat
  deriving DecidableEq

namespace Record

/-- Fields of a record; a later value replaces one of the same name. -/
def fields (r : Record) : Fields :=
  (SortedMap.empty.insert "target" (.text r.target)).insertMany
    (r.values.map fun p => (p.1, p.2.field))

/-- Outcome of reading the named values. -/
def reading (r : Record) : Except LogError Unit :=
  match r.unreadable with
  | none => .ok ()
  | some reason => .error (.invalidConfiguration "log bridge" (.unreadableValues reason))

/-- Location of a record, if its file is known. -/
def caller? (r : Record) : Option Caller :=
  r.file.map fun file => ⟨r.modulePath.getD "", file, r.line.getD 0⟩

end Record

namespace Logger

/-- Log a record if its level is enabled.  A failure to read its values is recorded before the
entry is sent. -/
def logRecord (l : Logger) (s : Store) (r : Record) : Logger × Store :=
  if l.isEnabled s r.level then
    ((l.recorded r.reading).dispatch s r.level r.message r.fields (r.caller?.bind l.reported)).2
  else (l, s)

/-- Flush on behalf of the facade: a failure is recorded. -/
def flushRecords (l : Logger) (s : Store) : Logger × Store :=
  let (result, l, s) := l.flush s
  (l.recorded result, s)

end Logger

/-- Name of a logger in a process. -/
abbrev LoggerId := Nat

/-- Destination of the records of a process. -/
structure Facade where
  logger : Option LoggerId
  deriving DecidableEq, Repr

namespace Facade

/-- Facade without a logger, which drops all records. -/
def empty : Facade := ⟨none⟩

/-- Give the facade its logger. -/
def setUp (f : Facade) (id : LoggerId) : Except LogError Facade :=
  match f.logger with
  | none => .ok ⟨some id⟩
  | some _ => .error (.invalidConfiguration "log bridge" .facadeTaken)

/-- Give the facade its logger, for a caller that knows it has none. -/
def setUpOrStop (f : Facade) (id : LoggerId) : Except Fault Facade :=
  (f.setUp id).mapError .unexpected

end Facade

end Hooklog
