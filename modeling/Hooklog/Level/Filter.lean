import Hooklog.Level

/-!
# Level filters

Which levels a hook delivers: those down to its minimum, or those among them that its
destination declares.  Raw text passes whatever the minimum is, if the destination takes it.
-/

namespace Hooklog

namespace Level

/-- Levels less severe than trace, up to a minimum. -/
def beyondTrace (minimum : Level) : List Level :=
  (List.range (minimum.ordinal.toNat - trace.ordinal.toNat)).map fun i =>
    ⟨UInt32.ofNat (trace.ordinal.toNat + 1 + i)⟩

/-- Levels delivered under a minimum, raw text first and then the most severe. -/
def delivered (minimum : Level) (acceptsPrint : Bool) : List Level :=
  (if acceptsPrint then [print] else [])
    ++ (if minimum.isDisabled || minimum.isPrint then []
        else standard.filter (fun l => l ≤ minimum) ++ beyondTrace minimum)

end Level

/-- Choice of levels. -/
structure LevelFilter where
  minimum : Level
  /-- Levels declared by the destination, if it declares any. -/
  declared : Option (List Level)
  /-- Whether the destination takes raw text. -/
  acceptsPrint : Bool
  deriving DecidableEq

namespace LevelFilter

/-- The levels that pass. -/
def levels (f : LevelFilter) : List Level :=
  match f.declared with
  | some declared => declared.filter fun l => l ≤ f.minimum
  | none => f.minimum.delivered f.acceptsPrint

/-- Whether a level passes. -/
def accepts (f : LevelFilter) (l : Level) : Bool :=
  match f.declared with
  | some declared => declared.contains l && l ≤ f.minimum
  | none =>
      if l.isPrint then f.acceptsPrint
      else !l.isDisabled && !f.minimum.isDisabled && l ≤ f.minimum

end LevelFilter

end Hooklog
