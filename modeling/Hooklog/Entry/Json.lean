import Hooklog.Entry
import Hooklog.Field.Json
import Hooklog.Level.Json
import Hooklog.Time.Rfc3339

/-!
# Entries in JSON text
-/

namespace Hooklog

/-- Written form of a caller. -/
def Caller.toJson (c : Caller) : Json :=
  .object [("function", .string c.function), ("file", .string c.file), ("line", .int c.line)]

/-- Written form of an entry: fields and caller are left out when there are none. -/
def Entry.toJson (e : Entry) : Json :=
  .object ([("level", e.level.toJson), ("message", .string e.message),
      ("timestamp", .string (Rfc3339.text e.time)), ("module", .string e.moduleName)]
    ++ (if e.fields.isEmpty then [] else [("fields", e.fields.toJson)])
    ++ (match e.caller with
        | some c => [("caller", c.toJson)]
        | none => []))

end Hooklog
