import Hooklog.Error
import Hooklog.Text.Case
import Hooklog.Decimal.Integer

/-!
# Levels

Levels are ordered from the most severe to the most verbose by their ordinal.  The last two
ordinals are special: `print` marks raw text, and `disabled` is the level of a hook that
never fires.
-/

namespace Hooklog

/-- Severity of an entry, as a 32-bit ordinal. -/
structure Level where
  ordinal : UInt32
  deriving DecidableEq, Repr

namespace Level

instance : LE Level := ⟨fun a b => a.ordinal ≤ b.ordinal⟩

instance : LT Level := ⟨fun a b => a.ordinal < b.ordinal⟩

instance : DecidableLE Level := fun a b => inferInstanceAs (Decidable (a.ordinal ≤ b.ordinal))

instance : DecidableLT Level := fun a b => inferInstanceAs (Decidable (a.ordinal < b.ordinal))

theorem ext_ordinal {a b : Level} (h : a.ordinal = b.ordinal) : a = b := by
  cases a; cases b; simp_all

instance : Std.IsLinearOrder Level where
  le_refl a := Std.le_refl a.ordinal
  le_trans _ _ _ h h' := Std.le_trans (α := UInt32) h h'
  le_antisymm _ _ h h' := ext_ordinal (Std.le_antisymm (α := UInt32) h h')
  le_total a b := Std.le_total (a := a.ordinal) (b := b.ordinal)

instance : Std.LawfulOrderLT Level where
  lt_iff a b := Std.lt_iff_le_and_not_ge (a := a.ordinal) (b := b.ordinal)

def panic : Level := ⟨0⟩

def fatal : Level := ⟨1⟩

def error : Level := ⟨2⟩

def warning : Level := ⟨3⟩

def info : Level := ⟨4⟩

def debug : Level := ⟨5⟩

def trace : Level := ⟨6⟩

/-- Raw text, delivered as it is. -/
def print : Level := ⟨4294967294⟩

/-- Level of a hook that never fires. -/
def disabled : Level := ⟨4294967295⟩

/-- The standard levels, most severe first. -/
def standard : List Level := [panic, fatal, error, warning, info, debug, trace]

def isPrint (l : Level) : Bool := l = print

def isDisabled (l : Level) : Bool := l = disabled

/-- Names of the levels that have one. -/
def names : List (String × Level) :=
  [("panic", panic), ("fatal", fatal), ("error", error), ("warning", warning), ("info", info),
    ("debug", debug), ("trace", trace), ("print", print), ("disabled", disabled)]

/-- Names that are read as levels but never written. -/
def aliases : List (String × Level) := [("warn", warning)]

/-- Name of a level that has one. -/
def name? (l : Level) : Option String := (names.find? (fun p => p.2 = l)).map (·.1)

/-- Text of a level: its name, or its ordinal between parentheses. -/
def text (l : Level) : String :=
  match l.name? with
  | some name => name
  | none => "level(" ++ Decimal.naturalText l.ordinal.toNat ++ ")"

/-- Short description of a level. -/
def summary (l : Level) : String := "Level(" ++ Decimal.naturalText l.ordinal.toNat ++ ")"

/-- Level of an integer. -/
def ofInt? (n : Int) : Except LogError Level :=
  if 0 ≤ n ∧ n < UInt32.size then .ok ⟨UInt32.ofNat n.toNat⟩
  else .error (.invalidLevel (Decimal.integerText n) .outOfRange)

/-- Level named by a text without surrounding white space, in any letter case. -/
def named? (trimmed : List Char) : Option Level :=
  (names ++ aliases).lookup (String.ofList (Text.lower trimmed))

/-- Level of a text: nothing but white space disables, integers are ordinals, and names are
recognised in any letter case. -/
def read (s : String) : Except LogError Level :=
  let trimmed := Text.trim s.toList
  if trimmed = [] then .ok disabled
  else
    match Decimal.readWithin? Decimal.signed64 trimmed with
    | some n => ofInt? n
    | none =>
        match named? trimmed with
        | some l => .ok l
        | none => .error (.invalidLevel s .unknownName)

/-- Level of a text that may be absent, an absent one disabling. -/
def readOptional : Option String → Except LogError Level
  | some s => read s
  | none => .ok disabled

end Level

end Hooklog
