import Hooklog.Logger

/-!
# Derived loggers

A derived logger starts with the hooks, fields, time, switches and failures of another one,
but without its partial line.  Its log files are opened anew.
-/

namespace Hooklog

namespace Logger

/-- Hooks of a derived logger, with their names. -/
def derivedHooks : List (String × Hook) → Store → List (String × Hook) × Store
  | [], s => ([], s)
  | (name, h) :: rest, s =>
      let (h, s) := h.derive s
      let (rest, s) := derivedHooks rest s
      ((name, h) :: rest, s)

/-- Logger with the same configuration for a module, with other fields. -/
def derive (l : Logger) (s : Store) (moduleName : String) (fields : Fields) : Logger × Store :=
  let (hooks, s) := derivedHooks l.hooks.toList s
  ({ l with
      moduleName := moduleName
      hooks := .ofList hooks
      fields := fields
      pending := [] }, s)

/-- Logger with the same configuration, for another module if one is given. -/
def copy (l : Logger) (s : Store) (moduleName : Option String) : Logger × Store :=
  l.derive s (moduleName.getD l.moduleName) l.fields

/-- Logger for a module within that of another logger. -/
def child (l : Logger) (s : Store) (name : String) : Logger × Store :=
  l.copy s (some (if l.moduleName.isEmpty then name else l.moduleName ++ ":" ++ name))

/-- Logger with one more field. -/
def withField (l : Logger) (s : Store) (name : String) (v : FieldValue) : Logger × Store :=
  l.derive s l.moduleName (l.fields.insert name v)

/-- Logger with more fields. -/
def withFields (l : Logger) (s : Store) (fields : Fields) : Logger × Store :=
  l.derive s l.moduleName (l.fields.merge fields)

/-- Logger whose entries bear a time. -/
def withTime (l : Logger) (s : Store) (t : Instant) : Logger × Store :=
  let (l, s) := l.copy s none
  ({ l with time := some t }, s)

/-- Move the time of the entries, if the logger has one. -/
def addTime (l : Logger) (d : Int) : Except Fault Logger :=
  match l.time with
  | none => .ok l
  | some t =>
      match t.add? d with
      | some t => .ok { l with time := some t }
      | none => .error .instantOverflow

end Logger

/-- What a logger is built from. -/
structure LoggerPlan where
  moduleName : String
  hooks : List Hook
  /-- Whether callers are reported, as the process says if absent. -/
  reportsCaller : Option Bool
  printLevel : Level
  catches : Bool
  time : Option Instant

namespace LoggerPlan

/-- Plan without hooks. -/
def empty : LoggerPlan := ⟨"", [], none, .print, true, none⟩

/-- Logger of a plan; without hooks it has a console hook for warnings. -/
def build (p : LoggerPlan) (s : Store) : Logger × Store :=
  let (l, s) := match p.hooks with
    | [] => Logger.new s p.moduleName
    | hooks => (Logger.withHooks s.settings p.moduleName hooks, s)
  ({ l with
      reportsCaller := p.reportsCaller.getD l.reportsCaller
      printLevel := p.printLevel
      catches := p.catches
      time := p.time }, s)

end LoggerPlan

end Hooklog
